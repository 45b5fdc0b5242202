/-!
Doubles taken apart and put together again in exact arithmetic: nearest double of a quotient,
exact comparison with integers, and division to the floor.
-/

namespace Dalvik.Number

/-- A double that is finite is `mantissa * 2 ^ exponent` with a sign. -/
inductive Unpacked where
  | nan
  | infinite (negative : Bool)
  | finite (negative : Bool) (mantissa : Nat) (exponent : Int)

def unpack (x : Float) : Unpacked :=
  let bits := x.toBits.toNat
  let negative := bits / Nat.pow 2 63 == 1
  let field : Nat := bits / Nat.pow 2 52 % Nat.pow 2 11
  let fraction := bits % Nat.pow 2 52
  if field = 2047 then
    if fraction = 0 then .infinite negative else .nan
  else if field = 0 then .finite negative fraction (-1074)
  else .finite negative (fraction + Nat.pow 2 52) ((field : Int) - 1075)

/-- Numerator and denominator of `numerator / denominator / 2 ^ shift`. -/
def scaleDown (numerator denominator : Nat) (shift : Int) : Nat × Nat :=
  if 0 ≤ shift then (numerator, denominator * Nat.pow 2 shift.toNat)
  else (numerator * Nat.pow 2 (-shift).toNat, denominator)

/-- The integer nearest to a quotient; a half goes to the even neighbour. -/
def roundHalfEven (numerator denominator : Nat) : Nat :=
  let quotient := numerator / denominator
  let rest := numerator % denominator
  if 2 * rest > denominator || (2 * rest == denominator && quotient % 2 == 1) then quotient + 1
  else quotient

/-- Bits of the non-negative double nearest to a quotient, `none` beyond the largest double. -/
def nearestBits (numerator denominator : Nat) : Option Nat :=
  if numerator = 0 then some 0 else
  let guess : Int := (numerator.log2 : Int) - denominator.log2 - 52
  let (top, bottom) := scaleDown numerator denominator guess
  let shift := max (if top / bottom < Nat.pow 2 52 then guess - 1 else guess) (-1074)
  let (top, bottom) := scaleDown numerator denominator shift
  let bits := (shift + 1074).toNat * Nat.pow 2 52 + roundHalfEven top bottom
  if bits < 2047 * Nat.pow 2 52 then some bits else none

def ofBits (negative : Bool) (bits : Nat) : Float :=
  Float.ofBits (if negative then bits + Nat.pow 2 63 else bits).toUInt64

def infinity (negative : Bool) : Float :=
  ofBits negative (2047 * Nat.pow 2 52)

def notANumber : Float :=
  ofBits false (2047 * Nat.pow 2 52 + Nat.pow 2 51)

def zero (negative : Bool) : Float :=
  ofBits negative 0

def isNegative (x : Float) : Bool :=
  x.toBits.toNat / Nat.pow 2 63 == 1

/-- The double nearest to a signed quotient. -/
def nearest (negative : Bool) (numerator denominator : Nat) : Option Float :=
  (nearestBits numerator denominator).map (ofBits negative)

def ofInt (n : Int) : Option Float :=
  nearest (n < 0) n.natAbs 1

/-- The double nearest to the quotient of two integers, the divisor not zero. -/
def divideInts (left right : Int) : Option Float :=
  nearest ((left < 0) != (right < 0)) left.natAbs right.natAbs

/-- The double nearest to `digits * 10 ^ exponent`; too large a value is infinite. -/
def ofDecimal (digits : Nat) (exponent : Int) : Float :=
  if digits = 0 then zero false
  else
    let size : Int := (Nat.toDigits 10 digits).length + exponent
    if size > 400 then infinity false
    else if size < -400 then zero false
    else
      let value :=
        if 0 ≤ exponent then nearest false (digits * Nat.pow 10 exponent.toNat) 1
        else nearest false digits (Nat.pow 10 (-exponent).toNat)
      value.getD (infinity false)

def signed (negative : Bool) (magnitude : Nat) : Int :=
  if negative then -(magnitude : Int) else magnitude

/-- The integer part, `none` where there is none. -/
def truncate (x : Float) : Option Int :=
  match unpack x with
  | .finite negative mantissa exponent =>
    some (signed negative
      (if 0 ≤ exponent then mantissa * Nat.pow 2 exponent.toNat
        else mantissa / Nat.pow 2 (-exponent).toNat))
  | _ => none

/-- Exact order of an integer and a double, `none` if the double is not a number. -/
def compareInt (n : Int) (x : Float) : Option Ordering :=
  match unpack x with
  | .nan => none
  | .infinite negative => some (if negative then .gt else .lt)
  | .finite negative mantissa exponent =>
    some (if 0 ≤ exponent then compare n (signed negative (mantissa * Nat.pow 2 exponent.toNat))
      else compare (n * Nat.pow 2 (-exponent).toNat) (signed negative mantissa))

/-- The integer part of a square root. -/
def sqrtFrom (n : Nat) : Nat → Nat → Nat
  | 0, guess => guess
  | fuel + 1, guess =>
    let better := (guess + n / guess) / 2
    if better < guess then sqrtFrom n fuel better else guess

def sqrt (n : Nat) : Nat :=
  if n = 0 then 0 else sqrtFrom n (n.log2 + 2) (Nat.pow 2 (n.log2 / 2 + 1))

/-- The double nearest to the length of a hypotenuse. -/
def hypotenuse (x y : Float) : Float :=
  match unpack x, unpack y with
  | .infinite _, _ | _, .infinite _ => infinity false
  | .nan, _ | _, .nan => notANumber
  | .finite _ m e, .finite _ n f =>
    let common := min e f
    let a := m * Nat.pow 2 (e - common).toNat
    let b := n * Nat.pow 2 (f - common).toNat
    let root := sqrt ((a * a + b * b) * Nat.pow 2 128)
    let (top, bottom) := scaleDown root 1 (64 - common)
    (nearest false top bottom).getD (infinity false)

/-- Remainder of the division toward zero, which has the sign of the dividend. -/
def truncatedRemainder (x y : Float) : Float :=
  match unpack x, unpack y with
  | .nan, _ | _, .nan | .infinite _, _ => notANumber
  | .finite _ _ _, .infinite _ => x
  | .finite negative mantissa exponent, .finite _ divisor divisorExponent =>
    if divisor = 0 then notANumber
    else
      let common := min exponent divisorExponent
      let rest := (mantissa * Nat.pow 2 (exponent - common).toNat) %
        (divisor * Nat.pow 2 (divisorExponent - common).toNat)
      let (top, bottom) := scaleDown rest 1 (-common)
      (nearest negative top bottom).getD notANumber

/-- Remainder of the division to the floor, which has the sign of the divisor. -/
def floorRemainder (x y : Float) : Float :=
  let rest := truncatedRemainder x y
  if rest == 0 then zero (isNegative y)
  else if (y < 0) != (rest < 0) then rest + y
  else rest

def floorQuotient (x y : Float) : Float :=
  let rest := truncatedRemainder x y
  let quotient := (x - rest) / y
  let quotient := if rest != 0 && ((y < 0) != (rest < 0)) then quotient - 1 else quotient
  if quotient == 0 then zero (isNegative (x / y))
  else
    let floor := quotient.floor
    if quotient - floor > 0.5 then floor + 1 else floor

end Dalvik.Number
