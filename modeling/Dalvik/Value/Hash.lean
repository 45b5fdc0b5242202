import Dalvik.Number.Binary64
import Dalvik.Value.Show

/-!
Hashes of values. Numbers that are equal have the same hash, whatever their kind; values that can
change have none.
-/

namespace Dalvik.Value

/-- Hashes of numbers are remainders by this prime. -/
def hashPrime : Nat := Nat.pow 2 61 - 1

/-- The word of a signed remainder; that of -1 is kept free. -/
def hashWord (negative : Bool) (remainder : Nat) : UInt64 :=
  let n := Number.signed negative remainder
  UInt64.ofInt (if n = -1 then -2 else n)

def hashInt (n : Int) : UInt64 :=
  hashWord (n < 0) (n.natAbs % hashPrime)

/-- Two to the power of 61 leaves the remainder one, so exponents count up to that. -/
def hashFloat (x : Float) (serial : Nat) : UInt64 :=
  match Number.unpack x with
  | .nan => serial.toUInt64
  | .infinite negative => hashWord negative 314159
  | .finite negative mantissa exponent =>
    hashWord negative (mantissa * Nat.pow 2 (exponent % 61).toNat % hashPrime)

def hashComplex (real imaginary : Float) (serial : Nat) : UInt64 :=
  let hash := hashFloat real serial + 1000003 * hashFloat imaginary serial
  if hash = UInt64.ofInt (-1) then UInt64.ofInt (-2) else hash

def hashCodes (codes : List Nat) : UInt64 :=
  codes.foldl (fun hash code => hash * 31 + code.toUInt64) 7

def rotateLeft (word count : UInt64) : UInt64 :=
  word <<< count ||| word >>> (64 - count)

def mixItem (hash item : UInt64) : UInt64 :=
  rotateLeft (hash + item * 14029467366897019727) 31 * 11400714785074694791

def hashItems (items : List UInt64) : UInt64 :=
  let seed := 2870177450012600261
  let hash := items.foldl mixItem seed + (items.length.toUInt64 ^^^ (seed ^^^ 3527539))
  if hash = UInt64.ofInt (-1) then 1546275796 else hash

def hashWithin (heap : Heap) : Nat → Value → Except Fault UInt64
  | 0, _ => .error .tooDeep
  | fuel + 1, value =>
    match value with
    | .null => .ok 1
    | .ellipsis => .ok 2
    | .bool b => .ok (if b then 1 else 0)
    | .int n => .ok (hashInt n)
    | .float x serial => .ok (hashFloat x serial)
    | .complex real imaginary serial => .ok (hashComplex real imaginary serial)
    | .text s => .ok (hashCodes (s.toList.map Char.toNat))
    | .bytes data => .ok (hashCodes (data.map UInt8.toNat))
    | .raised _ serial => .ok serial.toUInt64
    | .outside _ shown => .ok (hashCodes (shown.toList.map Char.toNat))
    | .tuple ref => do return hashItems (← (heap.items ref).mapM (hashWithin heap fuel))
    | .list _ | .dict _ | .set _ => .error (.unhashable value.kind.name)

/-- The hash of a value, if the value can never change. -/
def hash (heap : Heap) (value : Value) : Except Fault UInt64 :=
  hashWithin heap depthLimit value

end Dalvik.Value
