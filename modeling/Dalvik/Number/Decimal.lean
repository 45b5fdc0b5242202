import Dalvik.Number.Binary64

/-!
Decimal texts of doubles: the fewest digits that read back, and fixed numbers of digits.
-/

namespace Dalvik.Number

/-- Numerator and denominator of `numerator / denominator / 10 ^ exponent`. -/
def scaleDecimal (numerator denominator : Nat) (exponent : Int) : Nat × Nat :=
  if 0 ≤ exponent then (numerator, denominator * Nat.pow 10 exponent.toNat)
  else (numerator * Nat.pow 10 (-exponent).toNat, denominator)

/-- The least `place` with `numerator / denominator < 10 ^ place`. -/
def decimalPlace (numerator denominator : Nat) : Int :=
  let guess := ((numerator.log2 : Int) - denominator.log2) * 30103 / 100000
  let below (place : Int) : Bool :=
    let (top, bottom) := scaleDecimal numerator denominator place
    top < bottom
  ([guess - 1, guess, guess + 1].find? below).getD (guess + 2)

/-- Digits and exponent of the decimal with `count` digits that reads back, if there is one. -/
def shortestWith (numerator denominator bits : Nat) (place : Int) (count : Nat) :
    Option (Nat × Int) :=
  let exponent := place - count
  let readsBack (digits : Nat) : Bool :=
    let (top, bottom) := scaleDecimal digits 1 (-exponent)
    nearestBits top bottom == some bits
  let (top, bottom) := scaleDecimal numerator denominator exponent
  let low := top / bottom
  match readsBack low, readsBack (low + 1) with
  | true, true => some (roundHalfEven top bottom, exponent)
  | true, false => some (low, exponent)
  | false, true => some (low + 1, exponent)
  | false, false => none

def dropZeros : Nat → Nat → Int → Nat × Int
  | 0, digits, exponent => (digits, exponent)
  | fuel + 1, digits, exponent =>
    if digits % 10 = 0 then dropZeros fuel (digits / 10) (exponent + 1) else (digits, exponent)

/-- The decimal with the fewest digits that reads back as `mantissa * 2 ^ exponent`. -/
def shortest (mantissa : Nat) (exponent : Int) : Nat × Int :=
  let (numerator, denominator) := scaleDown mantissa 1 (-exponent)
  let place := decimalPlace numerator denominator
  let bits := (nearestBits numerator denominator).getD 0
  let found := (List.range 17).findSome? fun count =>
    shortestWith numerator denominator bits place (count + 1)
  match found with
  | some (digits, exponent) => dropZeros 20 digits exponent
  | none => (0, 0)

def decimalDigits (n : Nat) : List Char :=
  Nat.toDigits 10 n

def zeros (count : Nat) : List Char :=
  List.replicate count '0'

/-- An exponent with its sign and at least two digits. -/
def exponentText (exponent : Int) : List Char :=
  let digits := decimalDigits exponent.natAbs
  (if exponent < 0 then '-' else '+') :: (zeros (2 - digits.length) ++ digits)

/-- Positional notation from 0.0001 up to 10^16, always with a point; otherwise scientific. -/
def layout (digits : Nat) (exponent : Int) : List Char :=
  let shown := decimalDigits digits
  let leading := exponent + shown.length - 1
  if -4 ≤ leading && leading < 16 then
    if 0 ≤ exponent then shown ++ zeros exponent.toNat ++ ['.', '0']
    else if 0 ≤ leading then
      shown.take (leading.toNat + 1) ++ '.' :: shown.drop (leading.toNat + 1)
    else '0' :: '.' :: zeros (-leading - 1).toNat ++ shown
  else
    let fraction := shown.drop 1
    shown.take 1 ++ (if fraction.isEmpty then [] else '.' :: fraction) ++
      'e' :: exponentText leading

def withSign (negative : Bool) (text : List Char) : List Char :=
  if negative then '-' :: text else text

def floatChars (x : Float) : List Char :=
  match unpack x with
  | .nan => "nan".toList
  | .infinite negative => withSign negative "inf".toList
  | .finite negative mantissa exponent =>
    withSign negative <|
      if mantissa = 0 then "0.0".toList
      else
        let (digits, power) := shortest mantissa exponent
        layout digits power

def floatText (x : Float) : String :=
  String.ofList (floatChars x)

/-- The part of a complex number's text: as a float, but without a fraction of zero. -/
def partChars (x : Float) : List Char :=
  let text := floatChars x
  if text.drop (text.length - 2) = ['.', '0'] then text.take (text.length - 2) else text

/-- A complex number is its imaginary part alone when the real part is a positive zero. -/
def complexText (real imaginary : Float) : String :=
  if real == 0 && !isNegative real then String.ofList (partChars imaginary ++ ['j'])
  else
    let imaginaryText := partChars imaginary
    let plus := if imaginaryText.head? = some '-' then [] else ['+']
    String.ofList ('(' :: partChars real ++ plus ++ imaginaryText ++ ['j', ')'])

/-- No double has more decimal places or more significant digits; beyond these, all are zero. -/
def maxPlaces : Nat := 1100

/-- The magnitude of a double with a fixed number of places after the point. -/
def fixedPlaces (mantissa : Nat) (exponent : Int) (places : Nat) (point : Bool) : List Char :=
  let (numerator, denominator) := scaleDown mantissa 1 (-exponent)
  let exact := min places maxPlaces
  let digits := decimalDigits (roundHalfEven (numerator * Nat.pow 10 exact) denominator)
  let padded := zeros (exact + 1 - digits.length) ++ digits
  let whole := padded.take (padded.length - exact)
  let fraction := padded.drop (padded.length - exact) ++ zeros (places - exact)
  whole ++ (if fraction.isEmpty && !point then [] else '.' :: fraction)

/-- `count` significant digits of a positive double and the exponent of the first. -/
def significant (mantissa : Nat) (exponent : Int) (count : Nat) : Nat × Int :=
  if mantissa = 0 then (0, 0)
  else
    let (numerator, denominator) := scaleDown mantissa 1 (-exponent)
    let place := decimalPlace numerator denominator
    let (top, bottom) := scaleDecimal numerator denominator (place - count)
    let digits := roundHalfEven top bottom
    if digits = Nat.pow 10 count then (Nat.pow 10 (count - 1), place) else (digits, place - 1)

def scientific (mantissa : Nat) (exponent : Int) (places : Nat) (point : Bool) : List Char :=
  let (digits, leading) := significant mantissa exponent (min (places + 1) maxPlaces)
  let shown := decimalDigits digits
  let shown := shown ++ zeros (places + 1 - shown.length)
  let fraction := shown.drop 1
  shown.take 1 ++ (if fraction.isEmpty && !point then [] else '.' :: fraction) ++
    'e' :: exponentText leading

def dropFractionZeros (text : List Char) : List Char :=
  if text.contains '.' then
    let kept := text.reverse.dropWhile (· == '0')
    (if kept.head? = some '.' then kept.drop 1 else kept).reverse
  else text

/-- The shorter of positional and scientific notation for a number of significant digits. -/
def general (mantissa : Nat) (exponent : Int) (precision : Nat) (keepZeros : Bool) : List Char :=
  let precision := max precision 1
  let (_, leading) := significant mantissa exponent (min precision maxPlaces)
  if -4 ≤ leading && leading < precision then
    let text := fixedPlaces mantissa exponent ((precision : Int) - 1 - leading).toNat keepZeros
    if keepZeros then text else dropFractionZeros text
  else
    let text := scientific mantissa exponent (precision - 1) keepZeros
    if keepZeros then text
    else dropFractionZeros (text.takeWhile (· != 'e')) ++ text.dropWhile (· != 'e')

end Dalvik.Number
