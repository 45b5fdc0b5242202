/-!
Code points of characters. The escapes of a text may name surrogates, which are code points of no
character; each is kept as a private character of the last plane.
-/

namespace Dalvik.Text

def isSurrogate (code : Nat) : Bool :=
  0xd800 ≤ code && code < 0xe000

/-- How far the private character of a surrogate is from it. -/
def surrogateShift : Nat := 0x100000

def ofCode (code : Nat) : Char :=
  Char.ofNat (if isSurrogate code then code + surrogateShift else code)

def codeOf (c : Char) : Nat :=
  if isSurrogate (c.toNat - surrogateShift) then c.toNat - surrogateShift else c.toNat

end Dalvik.Text
