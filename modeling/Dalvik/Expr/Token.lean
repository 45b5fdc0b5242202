import Dalvik.Expr.Quotation

/-!
The tokens of an expression. Blanks and comments separate them, and line ends count only outside
brackets.
-/

namespace Dalvik.Expr

inductive Token where
  | name (s : String)
  | keyword (s : String)
  | constant (value : Constant)
  /-- A text with fields, given by their expressions. -/
  | filled (fields : List (List Char))
  | symbol (s : String)
  | lineEnd

def keywords : List String :=
  ["False", "None", "True", "and", "as", "assert", "async", "await", "break", "class", "continue",
    "def", "del", "elif", "else", "except", "finally", "for", "from", "global", "if", "import",
    "in", "is", "lambda", "nonlocal", "not", "or", "pass", "raise", "return", "try", "while",
    "with", "yield"]

/-- Names count by their normal form. -/
def wordToken (word : String) : Token :=
  match word with
  | "None" => .constant .null
  | "True" => .constant (.bool true)
  | "False" => .constant (.bool false)
  | _ =>
    if keywords.contains word then .keyword word
    else .name (String.ofList (Text.normalName word.toList))

/-- Symbols, the longer ones before those they begin with. -/
def symbols : List String :=
  ["**=", "//=", ">>=", "<<=", "...", "**", "//", ">>", "<<", "<=", ">=", "==", "!=", "->", "+=",
    "-=", "*=", "/=", "%=", "&=", "|=", "^=", "@=", ":=", "+", "-", "*", "/", "%", "@", "&", "|",
    "^", "~", "<", ">", "(", ")", "[", "]", "\x7b", "\x7d", ",", ":", ".", ";", "="]

def symbolOf (text : List Char) : Option (String × List Char) :=
  (symbols.find? (startsWith · text)).map fun symbol => (symbol, text.drop symbol.length)

def nestingAfter (depth : Nat) (symbol : String) : Nat :=
  if symbol = "(" || symbol = "[" || symbol = "\x7b" then depth + 1
  else if symbol = ")" || symbol = "]" || symbol = "\x7d" then depth - 1
  else depth

/-- The token at the head of a text that begins with no blank, comment or line end. -/
def nextToken (text : List Char) : Option (Token × List Char) :=
  match text with
  | [] => none
  | c :: rest =>
    match markOf {} text with
    | some (mark, quoted) =>
      (textOf mark quoted).map fun
        | (.constant value, rest) => (.constant value, rest)
        | (.filled fields, rest) => (.filled fields, rest)
    | none =>
      if Text.isAsciiDigit c || (c = '.' && rest.head?.any Text.isAsciiDigit) then
        (numberOf text).map fun (value, rest) => (.constant value, rest)
      else if Text.isNameStart c then
        some (wordToken (String.ofList (c :: rest.takeWhile Text.isNameRest)),
          rest.dropWhile Text.isNameRest)
      else (symbolOf text).map fun (symbol, rest) => (.symbol symbol, rest)

/-- The tokens of a text. `content` tells whether the line has had a token, and `indented` whether
it began with blanks. -/
def tokensFrom : Nat → Nat → Bool → Bool → List Char → Option (List Token)
  | 0, _, _, _, _ => none
  | _ + 1, _, content, indented, [] => if indented && !content then none else some []
  | fuel + 1, depth, content, indented, c :: rest =>
    if c = ' ' || c = '\t' then tokensFrom fuel depth content (indented || !content) rest
    else if c = Char.ofNat 12 then tokensFrom fuel depth content (indented && content) rest
    else if c = '#' then
      tokensFrom fuel depth content (indented && content) (rest.dropWhile (· != '\n'))
    else if c = '\n' then
      if depth > 0 then tokensFrom fuel depth content indented rest
      else if content then (tokensFrom fuel depth false false rest).map (.lineEnd :: ·)
      else tokensFrom fuel depth false false rest
    else if c = '\\' then
      match rest with
      | '\n' :: d :: rest => tokensFrom fuel depth content indented (d :: rest)
      | _ => none
    else if indented && !content then none
    else do
      let (token, rest) ← nextToken (c :: rest)
      let depth := match token with
        | .symbol symbol => nestingAfter depth symbol
        | _ => depth
      if depth > maxNesting then none
      let others ← tokensFrom fuel depth true indented rest
      return token :: others

/-- Line ends of any form become line feeds. -/
def unifyLineEnds : List Char → List Char
  | [] => []
  | '\r' :: '\n' :: rest => '\n' :: unifyLineEnds rest
  | '\r' :: rest => '\n' :: unifyLineEnds rest
  | c :: rest => c :: unifyLineEnds rest

/-- The tokens of an expression, `none` if some part of it can belong to none. -/
def tokens (text : List Char) : Option (List Token) :=
  let chars := unifyLineEnds (text.dropWhile fun c => c = ' ' || c = '\t')
  if chars.contains (Char.ofNat 0) then none
  else tokensFrom (chars.length + 1) 0 false false chars

end Dalvik.Expr
