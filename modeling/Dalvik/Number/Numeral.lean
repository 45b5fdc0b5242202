import Dalvik.Text.Blank
import Dalvik.Text.Digit

/-!
Numerals: the texts that stand for integers in a base of ten or sixteen. Blanks may surround them,
a sign may lead them, and single underscores may stand between their digits.
-/

namespace Dalvik.Number

/-- Longest decimal numeral that is converted, in either direction. -/
def maxDigits : Nat := 4300

inductive NumeralFault where
  | invalid
  | tooLong (digits : Nat)

/-- The value of a digit in any base up to sixteen. -/
def numeralDigit (base : Nat) (c : Char) : Option Nat :=
  ((Text.hexValue c).or (Text.digitValue c)).filter (· < base)

/-- Digits up to the first character that is neither a digit nor a separating underscore. -/
def digitRun (digitOf : Char → Option Nat) : List Char → List Nat × List Char
  | [] => ([], [])
  | '_' :: c :: rest =>
    match digitOf c with
    | some digit =>
      let (digits, others) := digitRun digitOf rest
      (digit :: digits, others)
    | none => ([], '_' :: c :: rest)
  | c :: rest =>
    match digitOf c with
    | some digit =>
      let (digits, others) := digitRun digitOf rest
      (digit :: digits, others)
    | none => ([], c :: rest)

def ofDigits (base : Nat) (digits : List Nat) : Nat :=
  digits.foldl (fun value digit => value * base + digit) 0

/-- The number that plain digits of a base up to sixteen write. -/
def ofChars (base : Nat) (digits : List Char) : Nat :=
  ofDigits base (digits.filterMap Text.hexValue)

def takeSign : List Char → Bool × List Char
  | '-' :: rest => (true, rest)
  | '+' :: rest => (false, rest)
  | text => (false, text)

/-- Base sixteen admits a leading `0x`, with an underscore after it. -/
def dropBaseMark (base : Nat) : List Char → List Char
  | first :: mark :: rest =>
    if base = 16 && Text.digitValue first = some 0 && (mark = 'x' || mark = 'X') then
      match rest with
      | '_' :: others => others
      | _ => rest
    else first :: mark :: rest
  | text => text

def readNumeral (base : Nat) (text : List Char) : Except NumeralFault Int :=
  let (negative, unsigned) := takeSign (Text.trimBoth Text.isNumeralBlank text)
  let body := dropBaseMark base unsigned
  if body.head? = some '_' then .error .invalid
  else
    match digitRun (numeralDigit base) body with
    | ([], _) => .error .invalid
    | (digits, rest) =>
      if rest.head? = some '_' then .error .invalid
      else if base = 10 && digits.length > maxDigits then .error (.tooLong digits.length)
      else if !rest.isEmpty then .error .invalid
      else
        let magnitude : Int := ofDigits base digits
        .ok (if negative then -magnitude else magnitude)

end Dalvik.Number
