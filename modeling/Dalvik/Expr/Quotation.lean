import Dalvik.Expr.Constant
import Dalvik.Text.CharName
import Dalvik.Text.Code

/-!
Written texts and byte strings. Marks before the quotes say how they are meant: backslashes may
stand for themselves, and braces may hold fields, which are expressions to be filled in.
-/

namespace Dalvik.Expr

/-- The marks before a text: raw, bytes, plain, or with fields to fill in. -/
structure TextMark where
  raw : Bool := false
  bytes : Bool := false
  plain : Bool := false
  filled : Bool := false

/-- The marks at the head of a text, if a quote follows them. -/
def markOf (mark : TextMark) : List Char → Option (TextMark × List Char)
  | [] => none
  | c :: rest =>
    if c = '"' || c = '\'' then some (mark, c :: rest)
    else if (c = 'b' || c = 'B') && !(mark.bytes || mark.plain || mark.filled) then
      markOf { mark with bytes := true } rest
    else if (c = 'u' || c = 'U') && !(mark.bytes || mark.plain || mark.raw || mark.filled) then
      markOf { mark with plain := true } rest
    else if (c = 'r' || c = 'R') && !(mark.raw || mark.plain) then
      markOf { mark with raw := true } rest
    else if (c = 'f' || c = 'F') && !(mark.filled || mark.bytes || mark.plain) then
      markOf { mark with filled := true } rest
    else none

/-- The characters up to a single closing quote, with the backslashes still in them. -/
def untilQuote (quote : Char) : List Char → Option (List Char × List Char)
  | [] => none
  | '\\' :: c :: rest => (untilQuote quote rest).map fun (body, rest) => ('\\' :: c :: body, rest)
  | c :: rest =>
    if c = quote then some ([], rest)
    else if c = '\n' then none
    else (untilQuote quote rest).map fun (body, rest) => (c :: body, rest)

/-- The characters up to three closing quotes. -/
def untilTriple (quote : Char) : List Char → Option (List Char × List Char)
  | [] => none
  | '\\' :: c :: rest => (untilTriple quote rest).map fun (body, rest) => ('\\' :: c :: body, rest)
  | c :: rest =>
    if c = quote && rest.take 2 = [quote, quote] then some ([], rest.drop 2)
    else (untilTriple quote rest).map fun (body, rest) => (c :: body, rest)

def bodyOf (text : List Char) : Option (List Char × List Char) :=
  match text with
  | [] => none
  | quote :: rest =>
    if rest.take 2 = [quote, quote] then untilTriple quote (rest.drop 2) else untilQuote quote rest

/-! ### Escapes -/

def simpleEscape : Char → Option Char
  | '\\' => some '\\'
  | '\'' => some '\''
  | '"' => some '"'
  | 'a' => some (Char.ofNat 7)
  | 'b' => some (Char.ofNat 8)
  | 'f' => some (Char.ofNat 12)
  | 'n' => some '\n'
  | 'r' => some '\r'
  | 't' => some '\t'
  | 'v' => some (Char.ofNat 11)
  | _ => none

/-- The code point of exactly `width` hexadecimal digits. -/
def hexCode (width : Nat) (text : List Char) : Option Nat :=
  let digits := text.take width
  if digits.length = width && digits.all (fun c => (Text.hexValue c).isSome) then
    some (Number.ofChars 16 digits)
  else none

/-- How many hexadecimal digits an escape letter asks for; byte strings know only `x`. -/
def escapeWidth (bytes : Bool) (c : Char) : Nat :=
  if c = 'x' then 2 else if bytes then 0 else if c = 'u' then 4 else if c = 'U' then 8 else 0

/-- A character by its name in braces, and what follows. -/
def namedEscape (text : List Char) : Option (Char × List Char) := do
  let name ← text.tail?
  if text.head? = some '\x7b' && name.contains '\x7d' then
    let c ← Text.charNamed? (String.ofList (name.takeWhile (· != '\x7d')))
    return (c, (name.dropWhile (· != '\x7d')).drop 1)
  else none

/-- The characters that a body with backslashes stands for. -/
def unescape (bytes : Bool) : Nat → List Char → Option (List Char)
  | 0, _ => some []
  | _ + 1, [] => some []
  | fuel + 1, '\\' :: c :: rest =>
    match simpleEscape c with
    | some value => (unescape bytes fuel rest).map (value :: ·)
    | none =>
      if c = '\n' then unescape bytes fuel rest
      else if (digitOf 8 c).isSome then
        let digits := c :: (rest.take 2).takeWhile fun d => (digitOf 8 d).isSome
        let code := Number.ofChars 8 digits
        let value := Char.ofNat (if bytes then code % 256 else code)
        (unescape bytes fuel (rest.drop (digits.length - 1))).map (value :: ·)
      else if escapeWidth bytes c > 0 then do
        let code ← hexCode (escapeWidth bytes c) rest
        if code ≥ 0x110000 then none
        let others ← unescape bytes fuel (rest.drop (escapeWidth bytes c))
        return Text.ofCode code :: others
      else if c = 'N' && !bytes then do
        let (value, rest) ← namedEscape rest
        let others ← unescape bytes fuel rest
        return value :: others
      else (unescape bytes fuel rest).map fun others => '\\' :: c :: others
  | fuel + 1, c :: rest => (unescape bytes fuel rest).map (c :: ·)

def unescaped (mark : TextMark) (body : List Char) : Option (List Char) :=
  if mark.raw then some body else unescape mark.bytes (body.length + 1) body

/-! ### Fields -/

/-- Deepest nesting of brackets. -/
def maxNesting : Nat := 200

def closes (opening closing : Char) : Bool :=
  (opening = '(' && closing = ')') || (opening = '[' && closing = ']') ||
    (opening = '\x7b' && closing = '\x7d')

/-- Characters that end the expression of a field outside of brackets and quotes, unless an equals
sign makes a comparison of them. -/
def endsField (c : Char) : Bool :=
  c = '!' || c = ':' || c = '=' || c = '\x7d'

/-- Open brackets, the innermost first, and the quote that is open, with whether it is a triple
one. -/
structure FieldState where
  stack : List Char := []
  quote : Option (Char × Bool) := none

/-- How the reading of a field goes on. -/
inductive FieldStep where
  | stop
  | take (count : Nat) (state : FieldState)

/-- A step inside quotes, at a character that is no backslash. -/
def quotedStep (state : FieldState) (mark : Char) (triple : Bool) (c : Char) (rest : List Char) :
    FieldStep :=
  if c != mark then .take 1 state
  else if !triple then .take 1 { state with quote := none }
  else if rest.take 2 = [mark, mark] then .take 3 { state with quote := none }
  else .take 1 state

/-- A step at a character that ends the expression of a field or is part of a comparison. -/
def endingStep (state : FieldState) (c : Char) (rest : List Char) : FieldStep :=
  if rest.head? = some '=' && c != ':' && c != '\x7d' then .take 2 state
  else if endsField c then .stop
  else .take 1 state

/-- Neither backslashes nor comments may stand in a field. -/
def fieldStep (state : FieldState) (c : Char) (rest : List Char) : Option FieldStep :=
  if c = '\\' then none
  else
    match state.quote with
    | some (mark, triple) => some (quotedStep state mark triple c rest)
    | none =>
      if c = '\'' || c = '"' then
        let triple := rest.take 2 = [c, c]
        some (.take (if triple then 3 else 1) { state with quote := some (c, triple) })
      else if c = '(' || c = '[' || c = '\x7b' then
        if state.stack.length < maxNesting then
          some (.take 1 { state with stack := c :: state.stack })
        else none
      else if c = '#' then none
      else if state.stack.isEmpty && (endsField c || c = '<' || c = '>') then
        some (endingStep state c rest)
      else if c = ')' || c = ']' || c = '\x7d' then
        match state.stack with
        | opening :: others =>
          if closes opening c then some (.take 1 { state with stack := others }) else none
        | [] => none
      else some (.take 1 state)

/-- The expression of a field, and what follows it; `seen` is what was read, the last first. -/
def fieldText : Nat → FieldState → List Char → List Char → Option (List Char × List Char)
  | 0, _, _, _ => none
  | fuel + 1, state, seen, text =>
    match text with
    | [] => none
    | c :: rest =>
      match fieldStep state c rest with
      | none => none
      | some .stop => some (seen.reverse, text)
      | some (.take count state) =>
        fieldText fuel state ((text.take count).reverse ++ seen) (text.drop count)

/-- The characters outside of fields at the head of a text, whether a doubled brace ended them, and
the rest. Inside a field braces are never doubled. `naming` tells whether the text stands inside
the braces of a character's name. -/
def fixedText (raw top : Bool) : Bool → List Char → Option (List Char × Bool × List Char)
  | _, [] => some ([], false, [])
  | true, c :: rest => (fixedText raw top (c != '\x7d') rest).map (push [c])
  | false, c :: rest =>
    if c = '\\' && !raw then
      match rest with
      | 'N' :: '\x7b' :: more => (fixedText raw top true more).map (push ['\\', 'N', '\x7b'])
      | d :: more =>
        if d = '\x7b' || d = '\x7d' then (fixedText raw top false (d :: more)).map (push ['\\'])
        else (fixedText raw top false more).map (push ['\\', d])
      | [] => some (['\\'], false, [])
    else if c = '\x7b' || c = '\x7d' then
      if top && rest.head? = some c then some ([c], true, rest.drop 1)
      else if top && c = '\x7d' then none
      else some ([], false, c :: rest)
    else (fixedText raw top false rest).map (push [c])
where
  push (chars : List Char) (found : List Char × Bool × List Char) : List Char × Bool × List Char :=
    (chars ++ found.1, found.2)

/-- Fields may be nested in the format of a field, but no deeper. -/
def maxFieldDepth : Nat := 2

def isFieldBlank (c : Char) : Bool :=
  c = ' ' || c = '\t' || c = '\n' || c = Char.ofNat 12

/-- A letter that says how a field is shown, if there is one. -/
def dropConversion : List Char → Option (List Char)
  | '!' :: c :: rest => if c = 's' || c = 'r' || c = 'a' then some rest else none
  | ['!'] => none
  | rest => some rest

/-- An equals sign after the expression, with blanks behind it. -/
def dropEquals : List Char → List Char
  | '=' :: rest => rest.dropWhile fun c => c = ' ' || ('\t' ≤ c && c ≤ '\r')
  | rest => rest

mutual

/-- The expressions in the fields of a text, up to its end or to the brace that closes the field
that it is the format of. -/
def fieldsOf (mark : TextMark) : Nat → Nat → List Char → Option (List (List Char) × List Char)
  | 0, _, _ => none
  | fuel + 1, depth, text => do
    let (fixed, doubled, rest) ← fixedText mark.raw (depth == 0) false text
    if (unescaped mark fixed).isNone then none
    match rest with
    | '\x7b' :: more =>
      if doubled then fieldsOf mark fuel depth rest
      else
        let (first, rest) ← fieldOf mark fuel depth more
        let (others, rest) ← fieldsOf mark fuel depth rest
        return (first ++ others, rest)
    | _ => if doubled then fieldsOf mark fuel depth rest else return ([], rest)

/-- The expressions in one field; the text stands after its opening brace. -/
def fieldOf (mark : TextMark) : Nat → Nat → List Char → Option (List (List Char) × List Char)
  | 0, _, _ => none
  | fuel + 1, depth, text => do
    if depth ≥ maxFieldDepth then none
    let (expression, rest) ← fieldText (text.length + 1) {} [] text
    if expression.all isFieldBlank then none
    let rest ← dropConversion (dropEquals rest)
    match rest with
    | ':' :: format =>
      let (nested, rest) ← fieldsOf mark fuel (depth + 1) format
      match rest with
      | '\x7d' :: rest => return (expression :: nested, rest)
      | _ => none
    | '\x7d' :: rest => return ([expression], rest)
    | _ => none

end

inductive Written where
  | constant (value : Constant)
  /-- A text with fields, given by their expressions. -/
  | filled (fields : List (List Char))

/-- A text or byte string; the text stands at its first quote. -/
def textOf (mark : TextMark) (text : List Char) : Option (Written × List Char) := do
  let (body, rest) ← bodyOf text
  if mark.filled then
    match ← fieldsOf mark (2 * body.length + 2) 0 body with
    | (fields, []) => return (.filled fields, rest)
    | _ => none
  else if mark.bytes && body.any (·.toNat ≥ 128) then none
  else
    let chars ← unescaped mark body
    if mark.bytes then return (.constant (.bytes (chars.map (·.toNat.toUInt8))), rest)
    else return (.constant (.text (String.ofList chars)), rest)

end Dalvik.Expr
