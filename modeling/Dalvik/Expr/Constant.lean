import Dalvik.Number.Binary64
import Dalvik.Number.Numeral
import Dalvik.Text.Identifier

/-!
Written numbers, and the constants of expressions. A reader takes a beginning of the text and gives
back the rest; it fails where the text can belong to no expression.
-/

namespace Dalvik.Expr

inductive Constant where
  | null
  | bool (b : Bool)
  | int (n : Nat)
  | float (x : Float)
  | imaginary (x : Float)
  | text (s : String)
  | bytes (data : List UInt8)
  | ellipsis

def digitOf (base : Nat) (c : Char) : Option Nat :=
  (Text.hexValue c).filter (· < base)

/-- A run of ASCII digits with single underscores between them, and the rest. -/
def digitsOf (base : Nat) (text : List Char) : List Nat × List Char :=
  Number.digitRun (digitOf base) text

def startsWith (start : String) (text : List Char) : Bool :=
  start.toList.isPrefixOf text

/-- After a number no letter may follow, unless it begins a word that can stand there. -/
def endsNumber (rest : List Char) : Bool :=
  match rest with
  | [] => true
  | c :: _ =>
    ["and", "else", "for", "if", "in", "is", "or", "not"].any (startsWith · rest) ||
      !(Text.isAsciiLetter c || Text.isAsciiDigit c || c == '_' || c.toNat ≥ 128)

def finishNumber (constant : Constant) (rest : List Char) : Option (Constant × List Char) :=
  if endsNumber rest then some (constant, rest) else none

/-- An integer with a base mark; the text stands after the mark. -/
def basedNumber (base : Nat) (text : List Char) : Option (Constant × List Char) :=
  match digitsOf base text with
  | ([], _) => none
  | (digits, rest) =>
    if rest.head?.any Text.isAsciiDigit then none
    else finishNumber (.int (Number.ofDigits base digits)) rest

/-- The exponent after the digits of a float; `none` is a fault, `some none` no exponent. -/
def exponentOf (text : List Char) : Option (Option (Int × List Char)) :=
  match text with
  | mark :: rest =>
    if mark = 'e' || mark = 'E' then
      let (negative, signed, rest) := match rest with
        | '-' :: rest => (true, true, rest)
        | '+' :: rest => (false, true, rest)
        | rest => (false, false, rest)
      if rest.head?.any Text.isAsciiDigit then
        let (digits, rest) := digitsOf 10 rest
        let magnitude : Int := Number.ofDigits 10 digits
        some (some (if negative then -magnitude else magnitude, rest))
      else if signed || !endsNumber text then none
      else some none
    else some none
  | [] => some none

def finishFloat (x : Float) (rest : List Char) : Option (Constant × List Char) :=
  match rest with
  | mark :: others =>
    if mark = 'j' || mark = 'J' then finishNumber (.imaginary x) others
    else finishNumber (.float x) rest
  | [] => some (.float x, [])

/-- A number of which the digits before the point are read; `whole` tells whether it has a meaning
as an integer. Only zeros may be longer than other integers. -/
def afterWhole (digits : List Nat) (whole : Bool) (rest : List Char) :
    Option (Constant × List Char) := do
  let (fraction, pointed, rest) := match rest with
    | '.' :: after =>
      if after.head?.any Text.isAsciiDigit then
        let (fraction, after) := digitsOf 10 after
        (fraction, true, after)
      else ([], true, after)
    | _ => ([], false, rest)
  let exponent ← exponentOf rest
  let mantissa := Number.ofDigits 10 (digits ++ fraction)
  let value (power : Int) := Number.ofDecimal mantissa (power - fraction.length)
  match exponent with
  | some (power, rest) => finishFloat (value power) rest
  | none =>
    if pointed || rest.head?.any (fun c => c = 'j' || c = 'J') then finishFloat (value 0) rest
    else if whole && (digits.length ≤ Number.maxDigits || mantissa = 0) then
      finishNumber (.int mantissa) rest
    else none

/-- A number; the text begins with a digit, or with a point before a digit. A number that begins
with zero is zero, unless a mark gives its base or it is a float. -/
def numberOf (text : List Char) : Option (Constant × List Char) :=
  match text with
  | '0' :: mark :: rest =>
    if mark = 'x' || mark = 'X' then basedNumber 16 rest
    else if mark = 'o' || mark = 'O' then basedNumber 8 rest
    else if mark = 'b' || mark = 'B' then basedNumber 2 rest
    else
      let (digits, rest) := digitsOf 10 text
      afterWhole digits (digits.all (· == 0)) rest
  | '.' :: _ => afterWhole [] false text
  | _ =>
    let (digits, rest) := digitsOf 10 text
    afterWhole digits true rest

end Dalvik.Expr
