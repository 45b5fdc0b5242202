import Dalvik.Text.Code
import Dalvik.Text.Word
import Dalvik.Value.Number

/-!
Text with percent conversions filled in from a value. The value is a tuple of arguments, a table of
named arguments, or a single argument.
-/

namespace Dalvik.Value

/-- What stands between the percent sign and the letter of a conversion. -/
structure Spec where
  left : Bool := false
  plus : Bool := false
  space : Bool := false
  alternate : Bool := false
  zero : Bool := false
  width : Nat := 0
  precision : Option Nat := none
  /-- Whether digits stand right before the letter. -/
  counted : Bool := false

/-- Arguments still to be used. -/
inductive Arguments where
  | many (rest : List Value)
  | single (value : Value)
  | used

def Arguments.take : Arguments → Except Fault (Value × Arguments)
  | .many (value :: rest) => .ok (value, .many rest)
  | .many [] | .used => .error .missingArgument
  | .single value => .ok (value, .used)

/-- Whether conversions may take their arguments from a value by name. -/
def isMapping (kind : ValueKind) : Value → Bool
  | .list _ | .dict _ => true
  | .bytes _ => kind != .bytes
  | _ => false

/-- The name of an argument, as a key of the kind of the text that it stands in. -/
def nameKey (kind : ValueKind) (name : List Char) : Value :=
  if kind = .bytes then .bytes (name.map (·.toNat.toUInt8)) else .text (String.ofList name)

def pad (spec : Spec) (sign body : List Char) (fill : Char) : List Char :=
  let missing := spec.width - (sign.length + body.length)
  if spec.left then sign ++ body ++ List.replicate missing ' '
  else if fill = '0' then sign ++ List.replicate missing '0' ++ body
  else List.replicate missing fill ++ sign ++ body

def signOf (spec : Spec) (negative : Bool) : List Char :=
  if negative then ['-'] else if spec.plus then ['+'] else if spec.space then [' '] else []

def digitsIn (base : Nat) (upper : Bool) (n : Nat) : List Char :=
  let digits := Nat.toDigits base n
  if upper then digits.map Char.toUpper else digits

/-- The greatest precision that can be written. -/
def maxPrecision : Nat := 0x7fffffff

/-- An integer with sign, base mark, least number of digits, and padding. -/
def formatInt (spec : Spec) (mark digits : List Char) (negative : Bool) : List Char :=
  let digits := List.replicate (spec.precision.getD 0 - digits.length) '0' ++ digits
  let sign := signOf spec negative ++ (if spec.alternate then mark else [])
  pad spec sign digits (if spec.zero && !spec.left then '0' else ' ')

/-- The least number of digits of an integer has a limit of its own. -/
def checkDigits (spec : Spec) : Except Fault Unit :=
  if spec.precision.getD 0 > maxPrecision - 3 then .error .precisionTooLarge
  else if spec.precision.getD 0 > maxLength then .error .outOfMemory
  else .ok ()

def formatDecimal (spec : Spec) (n : Int) : Except Fault (List Char) := do
  checkDigits spec
  let digits := (← intText n.natAbs).toList
  return formatInt spec [] digits (n < 0)

def formatBased (spec : Spec) (conversion : Char) (n : Int) : Except Fault (List Char) := do
  checkDigits spec
  let base := if conversion = 'o' then 8 else 16
  return formatInt spec ['0', conversion] (digitsIn base (conversion = 'X') n.natAbs) (n < 0)

def formatFloat (spec : Spec) (conversion : Char) (x : Float) : List Char :=
  let precision := spec.precision.getD 6
  let (negative, body) :=
    match Number.unpack x with
    | .nan => (false, "nan".toList)
    | .infinite negative => (negative, "inf".toList)
    | .finite negative mantissa exponent =>
      let body :=
        match conversion.toLower with
        | 'e' => Number.scientific mantissa exponent precision spec.alternate
        | 'f' => Number.fixedPlaces mantissa exponent precision spec.alternate
        | _ => Number.general mantissa exponent precision spec.alternate
      (negative, body)
  let body := if conversion.isUpper then body.map Char.toUpper else body
  pad spec (signOf spec negative) body (if spec.zero && !spec.left then '0' else ' ')

def formatText (spec : Spec) (body : List Char) : List Char :=
  let body := match spec.precision with
    | some count => body.take count
    | none => body
  pad spec [] body ' '

/-- An integer; `name` is the letter that a refusal gives. -/
def formatNumber (spec : Spec) (conversion name : Char) (value : Value) :
    Except Fault (List Char) :=
  match conversion with
  | 'd' | 'i' | 'u' =>
    match value with
    | .float x _ => do formatDecimal spec (← truncateFloat x)
    | _ => match value.asInt? with
      | some n => formatDecimal spec n
      | none => .error (.formatNeeds name "a real number" value.kind)
  | _ =>
    match value.asInt? with
    | some n => formatBased spec conversion n
    | none => .error (.formatNeeds name "an integer" value.kind)

def formatCharacter (spec : Spec) (value : Value) : Except Fault (List Char) :=
  match value with
  | .text s => if s.length = 1 then .ok (formatText { spec with precision := none } s.toList)
    else .error .formatNeedsCharacter
  | _ => match value.asInt? with
    | some n =>
      if 0 ≤ n && n < 0x110000 then
        .ok (formatText { spec with precision := none } [Text.ofCode n.toNat])
      else .error .formatCharacterRange
    | none => .error .formatNeedsCharacter

def formatByte (spec : Spec) (value : Value) : Except Fault (List Char) :=
  match value with
  | .bytes [byte] => .ok (formatText { spec with precision := none } [Char.ofNat byte.toNat])
  | _ => match value.asInt? with
    | some n =>
      if 0 ≤ n && n < 256 then
        .ok (formatText { spec with precision := none } [Char.ofNat n.toNat])
      else .error .formatByteRange
    | none => .error .formatNeedsByte

def formatBytes (spec : Spec) (value : Value) : Except Fault (List Char) :=
  match value with
  | .bytes data => .ok (formatText spec (data.map fun byte => Char.ofNat byte.toNat))
  | _ => .error (.formatNeedsBytes value.kind)

def formatAscii (heap : Heap) (spec : Spec) (value : Value) : Except Fault (List Char) := do
  let shown ← value.shown heap
  return formatText spec (shown.toList.flatMap fun c =>
    if c.toNat < 128 then [c] else Text.numericEscape (Text.codeOf c))

/-- A float in a text or a byte string, which refuse other values in their own words. -/
def formatReal (kind : ValueKind) (spec : Spec) (conversion : Char) (value : Value) :
    Except Fault (List Char) := do
  let refusal := if kind = .bytes then Fault.formatNeedsFloat value.kind
    else .formatNeedsReal value.kind
  let x ← match value.numeric? with
    | some (.complex _ _) | none => .error refusal
    | some number =>
      if kind = .bytes then number.toFloat.mapError fun _ => refusal else number.toFloat
  if spec.precision.getD 0 > maxLength then .error .outOfMemory
  return formatFloat spec conversion x

/-- A letter that asks for no conversion. Bytes beyond ASCII have a message only after digits. -/
def unknownConversion (kind : ValueKind) (spec : Spec) (conversion : Char) (index : Nat) : Fault :=
  let code := conversion.toNat
  if kind = .bytes then
    if code < 128 || spec.counted then .formatUnknown conversion code index
    else .formatUnknownByte
  else .formatUnknown (if 31 ≤ code && code < 127 then conversion else '?') code index

/-- One conversion of one value in a text or a byte string; `index` is where its letter stands. -/
def convert (heap : Heap) (kind : ValueKind) (spec : Spec) (conversion : Char) (index : Nat)
    (value : Value) : Except Fault (List Char) :=
  match conversion, kind with
  | 's', .bytes | 'b', .bytes => formatBytes spec value
  | 'r', .bytes | 'a', _ => formatAscii heap spec value
  | 's', _ => do return formatText spec (← value.plain heap).toList
  | 'r', _ => do return formatText spec (← value.shown heap).toList
  | 'i', .bytes => formatNumber spec 'i' 'd' value
  | 'd', _ | 'i', _ | 'u', _ | 'o', _ | 'x', _ | 'X', _ =>
    formatNumber spec conversion conversion value
  | 'e', _ | 'E', _ | 'f', _ | 'F', _ | 'g', _ | 'G', _ => formatReal kind spec conversion value
  | 'c', .bytes => formatByte spec value
  | 'c', _ => formatCharacter spec value
  | _, _ => .error (unknownConversion kind spec conversion index)

/-- The flags at the head of a text. -/
def takeFlags (spec : Spec) : List Char → Spec × List Char
  | '-' :: rest => takeFlags { spec with left := true } rest
  | '+' :: rest => takeFlags { spec with plus := true } rest
  | ' ' :: rest => takeFlags { spec with space := true } rest
  | '#' :: rest => takeFlags { spec with alternate := true } rest
  | '0' :: rest => takeFlags { spec with zero := true } rest
  | rest => (spec, rest)

/-- The name in parentheses, which may hold balanced parentheses. -/
def takeName : Nat → List Char → List Char → Option (List Char × List Char)
  | _, _, [] => none
  | depth, name, ')' :: rest =>
    match depth with
    | 0 => some (name.reverse, rest)
    | depth + 1 => takeName depth (')' :: name) rest
  | depth, name, '(' :: rest => takeName (depth + 1) ('(' :: name) rest
  | depth, name, c :: rest => takeName depth (c :: name) rest

def takeNumber (text : List Char) : Nat × List Char :=
  ((text.takeWhile Text.isAsciiDigit).foldl (fun value c => value * 10 + (c.toNat - 48)) 0,
    text.dropWhile Text.isAsciiDigit)

/-- The width, given by digits or by the next argument. A negative one asks for padding on the
right; that of the least integer is lost. -/
def takeWidth (spec : Spec) (arguments : Arguments) (rest : List Char) :
    Except Fault (Spec × Arguments × List Char) :=
  match rest with
  | '*' :: rest => do
    let (value, arguments) ← arguments.take
    match value.asInt? with
    | some n =>
      if !fitsIndex n then .error (.wordTooSmall "ssize_t")
      let width := if n < -maxIndex then 0 else n.natAbs
      return ({ spec with width := width, left := spec.left || n < 0 }, arguments, rest)
    | none => .error .formatNeedsWidth
  | _ =>
    let (width, after) := takeNumber rest
    if width > maxIndex then .error .widthTooBig
    else .ok ({ spec with width := width, counted := after.length < rest.length }, arguments, after)

def takePrecision (kind : ValueKind) (spec : Spec) (arguments : Arguments) (rest : List Char) :
    Except Fault (Spec × Arguments × List Char) :=
  match rest with
  | '.' :: '*' :: rest => do
    let (value, arguments) ← arguments.take
    match value.asInt? with
    | some n =>
      if n > maxPrecision || n < -(maxPrecision : Int) - 1 then .error (.wordTooSmall "int")
      return ({ spec with precision := some n.toNat, counted := false }, arguments, rest)
    | none => .error .formatNeedsWidth
  | '.' :: rest =>
    let (precision, after) := takeNumber rest
    if precision > maxPrecision then .error (.precisionTooBig kind)
    else .ok ({ spec with
      precision := some precision, counted := after.length < rest.length }, arguments, after)
  | _ => .ok (spec, arguments, rest)

/-- A letter for the size of the argument means nothing. -/
def dropSize (spec : Spec) : List Char → Spec × List Char
  | c :: rest =>
    if c = 'h' || c = 'l' || c = 'L' then ({ spec with counted := false }, rest)
    else (spec, c :: rest)
  | [] => (spec, [])

/-- Fills in the conversions of a text of `total` characters. -/
def fill (heap : Heap) (kind : ValueKind) (source : Value) (total : Nat) :
    Nat → Arguments → List Char → Except Fault (List Char × Arguments)
  | 0, arguments, _ => .ok ([], arguments)
  | _ + 1, arguments, [] => .ok ([], arguments)
  | fuel + 1, arguments, '%' :: '%' :: rest => do
    let (others, arguments) ← fill heap kind source total fuel arguments rest
    return ('%' :: others, arguments)
  | fuel + 1, arguments, '%' :: rest => do
    let (arguments, rest) ← match rest with
      | '(' :: after =>
        if source.isMapping kind then
          match takeName 0 [] after with
          | none => .error .formatIncompleteKey
          | some (name, after) =>
            let value ← source.subscript heap (nameKey kind name)
            pure (Arguments.single value, after)
        else .error .formatNeedsMapping
      | _ => pure (arguments, rest)
    let (spec, rest) := takeFlags {} rest
    let (spec, arguments, rest) ← takeWidth spec arguments rest
    let (spec, arguments, rest) ← takePrecision kind spec arguments rest
    let (spec, rest) := dropSize spec rest
    match rest with
    | [] => .error .formatIncomplete
    | conversion :: rest =>
      let (value, arguments) ← arguments.take
      let known := { spec with width := if spec.width > maxLength then 0 else spec.width }
      let shown ← convert heap kind known conversion (total - rest.length - 1) value
      if spec.width > maxLength then .error .outOfMemory
      let (others, arguments) ← fill heap kind source total fuel arguments rest
      return (shown ++ others, arguments)
  | fuel + 1, arguments, c :: rest => do
    let (others, arguments) ← fill heap kind source total fuel arguments rest
    return (c :: others, arguments)

/-- Fills in a text; an argument that nothing used is refused, unless it can hold names. -/
def format (heap : Heap) (text : List Char) (value : Value) (kind : ValueKind) :
    Except Fault (List Char) := do
  let arguments := match value with
    | .tuple ref => Arguments.many (heap.items ref)
    | _ => .single value
  let (filled, left) ← fill heap kind value text.length (text.length + 1) arguments text
  match left with
  | .many (_ :: _) => .error (.unusedArguments kind)
  | .single _ => if value.isMapping kind then return filled else .error (.unusedArguments kind)
  | _ => return filled

end Dalvik.Value
