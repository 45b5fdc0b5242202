/-!
Tables of code points, given as closed intervals. A long table is written in rows: each entry is the
first code point of an interval and, after a plus sign, how many more there are. All numbers are
hexadecimal.
-/

namespace Dalvik.Text

/-- The value of an ASCII digit in base sixteen. -/
def hexValue (c : Char) : Option Nat :=
  if '0' ≤ c && c ≤ '9' then some (c.toNat - 48)
  else if 'a' ≤ c && c ≤ 'f' then some (c.toNat - 87)
  else if 'A' ≤ c && c ≤ 'F' then some (c.toNat - 55)
  else none

def hexNumber (text : String) : Nat :=
  text.toList.foldl (fun value c => value * 16 + (hexValue c).getD 0) 0

/-- The intervals that rows of a table write. -/
def ranges (rows : List String) : Array (Nat × Nat) :=
  let entries := (rows.flatMap (·.splitOn " ")).map fun entry => (entry.splitOn "+").map hexNumber
  (entries.map fun numbers => (numbers.headD 0, numbers.foldl (· + ·) 0)).toArray

def inRanges (table : Array (Nat × Nat)) (code : Nat) : Bool :=
  table.any fun (low, high) => low ≤ code && code ≤ high

end Dalvik.Text
