/-!
Bitwise operations on integers, taken as endless two's complement: a negative number is the
complement of a natural one.
-/

namespace Dalvik.Number

def bitAnd : Int → Int → Int
  | .ofNat m, .ofNat n => (m &&& n : Nat)
  | .ofNat m, .negSucc n => (m - (m &&& n) : Nat)
  | .negSucc m, .ofNat n => (n - (m &&& n) : Nat)
  | .negSucc m, .negSucc n => .negSucc (m ||| n)

def bitOr : Int → Int → Int
  | .ofNat m, .ofNat n => (m ||| n : Nat)
  | .ofNat m, .negSucc n => .negSucc (n - (m &&& n))
  | .negSucc m, .ofNat n => .negSucc (m - (m &&& n))
  | .negSucc m, .negSucc n => .negSucc (m &&& n)

def bitXor : Int → Int → Int
  | .ofNat m, .ofNat n => (m ^^^ n : Nat)
  | .ofNat m, .negSucc n => .negSucc (m ^^^ n)
  | .negSucc m, .ofNat n => .negSucc (m ^^^ n)
  | .negSucc m, .negSucc n => (m ^^^ n : Nat)

def shiftLeft (n : Int) (count : Nat) : Int :=
  n * (Nat.pow 2 count : Nat)

/-- Shifting to the right divides to the floor. -/
def shiftRight (n : Int) (count : Nat) : Int :=
  Int.fdiv n (Nat.pow 2 count : Nat)

end Dalvik.Number
