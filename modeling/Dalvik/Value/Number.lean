import Dalvik.Number.Bits
import Dalvik.Value.Sequence

/-!
Arithmetic on numbers. Integers are exact and never wrap; with a float the result is a float, with
a complex number it is complex.
-/

namespace Dalvik

namespace Numeric

def toFloat : Numeric → Except Fault Float
  | .int n => match Number.ofInt n with
    | some x => .ok x
    | none => .error .intToFloat
  | .float x => .ok x
  | .complex real _ => .ok real

def toComplex : Numeric → Except Fault (Float × Float)
  | .complex real imaginary => .ok (real, imaginary)
  | other => other.toFloat.map fun x => (x, 0)

/-- Applies the operation of the widest kind among two numbers. -/
def lift (onInts : Int → Int → Except Fault Numeric)
    (onFloats : Float → Float → Except Fault Numeric)
    (onComplex : Float × Float → Float × Float → Except Fault Numeric) :
    Numeric → Numeric → Except Fault Numeric
  | .int m, .int n => onInts m n
  | left@(.complex _ _), right | left, right@(.complex _ _) => do
    onComplex (← left.toComplex) (← right.toComplex)
  | left, right => do onFloats (← left.toFloat) (← right.toFloat)

def add : Numeric → Numeric → Except Fault Numeric :=
  lift (fun m n => .ok (.int (m + n))) (fun x y => .ok (.float (x + y)))
    fun (a, b) (c, d) => .ok (.complex (a + c) (b + d))

def sub : Numeric → Numeric → Except Fault Numeric :=
  lift (fun m n => .ok (.int (m - n))) (fun x y => .ok (.float (x - y)))
    fun (a, b) (c, d) => .ok (.complex (a - c) (b - d))

def mul : Numeric → Numeric → Except Fault Numeric :=
  lift (fun m n => .ok (.int (m * n))) (fun x y => .ok (.float (x * y)))
    fun (a, b) (c, d) => .ok (.complex (a * c - b * d) (a * d + b * c))

def divideComplex (left right : Float × Float) : Except Fault (Float × Float) :=
  let (a, b) := left
  let (c, d) := right
  if c == 0 && d == 0 then .error .complexDivisionByZero
  else if d.abs ≤ c.abs then
    let ratio := d / c
    let scale := c + d * ratio
    .ok ((a + b * ratio) / scale, (b - a * ratio) / scale)
  else if c.abs ≤ d.abs then
    let ratio := c / d
    let scale := c * ratio + d
    .ok ((a * ratio + b) / scale, (b * ratio - a) / scale)
  else .ok (Number.notANumber, Number.notANumber)

/-- The quotient of integers is the nearest float, not an integer. -/
def div : Numeric → Numeric → Except Fault Numeric :=
  lift
    (fun m n =>
      if n = 0 then .error .divisionByZero
      else match Number.divideInts m n with
        | some x => .ok (.float x)
        | none => .error .quotientTooLarge)
    (fun x y => if y == 0 then .error .floatDivisionByZero else .ok (.float (x / y)))
    fun left right => do
      let (real, imaginary) ← divideComplex left right
      return .complex real imaginary

/-- Applies an operation that complex numbers do not have. -/
def liftReal (refusal : Fault) (onInts : Int → Int → Except Fault Numeric)
    (onFloats : Float → Float → Except Fault Numeric) : Numeric → Numeric → Except Fault Numeric
  | .complex _ _, _ | _, .complex _ _ => .error refusal
  | left, right => lift onInts onFloats (fun _ _ => .error refusal) left right

def floorDiv (refusal : Fault) : Numeric → Numeric → Except Fault Numeric :=
  liftReal refusal
    (fun m n => if n = 0 then .error .floorByZero else .ok (.int (Int.fdiv m n)))
    fun x y =>
      if y == 0 then .error .floatFloorByZero else .ok (.float (Number.floorQuotient x y))

/-- The remainder has the sign of the divisor. -/
def mod (refusal : Fault) : Numeric → Numeric → Except Fault Numeric :=
  liftReal refusal
    (fun m n => if n = 0 then .error .moduloByZero else .ok (.int (Int.fmod m n)))
    fun x y =>
      if y == 0 then .error .floatModuloByZero else .ok (.float (Number.floorRemainder x y))

def timesComplex : Float × Float → Float × Float → Float × Float
  | (a, b), (c, d) => (a * c - b * d, a * d + b * c)

/-- A power by repeated squaring; `square` is the power of two that belongs to `count`. -/
def powerOf (count : Nat) (square result : Float × Float) : Float × Float :=
  if count = 0 then result
  else
    powerOf (count / 2) (timesComplex square square)
      (if count % 2 = 1 then timesComplex result square else result)
termination_by count

/-- A power through the polar form of the base; there is none at an infinite angle. -/
def polarPower (base exponent : Float × Float) : Except Fault (Float × Float) :=
  let (a, b) := base
  let (c, d) := exponent
  if c == 0 && d == 0 then .ok (1, 0)
  else if a == 0 && b == 0 then
    if d != 0 || c < 0 then .error .zeroToComplexPower else .ok (0, 0)
  else
    let radius := Number.hypotenuse a b
    let angle := Float.atan2 b a
    let (length, phase) :=
      if d == 0 then (Float.pow radius c, angle * c)
      else
        (Float.pow radius c * Float.exp (-angle * d), angle * c + d * Float.log radius)
    if phase.isInf then .error .zeroToComplexPower
    else .ok (length * Float.cos phase, length * Float.sin phase)

/-- Small integers as exponents are powers by multiplication. -/
def powComplex (base exponent : Float × Float) : Except Fault Numeric := do
  let (c, d) := exponent
  let (real, imaginary) ←
    if d == 0 && c == c.floor && c.abs ≤ 100 then
      let power := powerOf c.abs.toUInt64.toNat base (1, 0)
      if c > 0 then pure power
      else (divideComplex (1, 0) power).mapError fun _ => .zeroToComplexPower
    else polarPower base exponent
  if real.isInf || imaginary.isInf then .error .complexPowerTooLarge
  else return .complex real imaginary

/-- A negative number to a broken power is complex. -/
def powFloat (x y : Float) : Except Fault Numeric :=
  if x == 0 && y < 0 then .error .zeroToNegativePower
  else if x < 0 && x.isFinite && y.isFinite && y != y.floor then powComplex (x, 0) (y, 0)
  else
    let power := Float.pow x y
    if power.isInf && x.isFinite && y.isFinite then .error .powerTooLarge
    else .ok (.float power)

/-- Powers of integers are exact, unless the exponent is negative. -/
def pow : Numeric → Numeric → Except Fault Numeric :=
  lift
    (fun m n =>
      if 0 ≤ n then
        if m.natAbs ≤ 1 then .ok (.int (if n = 0 then 1 else if n % 2 = 0 then m * m else m))
        else if n * (m.natAbs.log2 + 1) < 16777216 then .ok (.int (Int.pow m n.toNat))
        else .error .outOfMemory
      else do powFloat (← (Numeric.int m).toFloat) (← (Numeric.int n).toFloat))
    powFloat
    powComplex

end Numeric

end Dalvik
