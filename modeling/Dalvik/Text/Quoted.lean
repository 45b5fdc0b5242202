import Dalvik.Text.Printable

/-!
Quoted texts and byte strings, as messages show them. The quote is an apostrophe, unless the text
has apostrophes and no double quote; what cannot be printed is written as an escape.
-/

namespace Dalvik.Text

def hexDigit (n : Nat) : Char :=
  if n < 10 then Char.ofNat (48 + n) else Char.ofNat (87 + n)

/-- The lowest `width` hexadecimal digits of a number. -/
def hexDigits (n : Nat) : Nat → List Char
  | 0 => []
  | width + 1 => hexDigits (n / 16) width ++ [hexDigit (n % 16)]

def chooseQuote (hasApostrophe hasDouble : Bool) : Char :=
  if hasApostrophe && !hasDouble then '"' else '\''

def numericEscape (code : Nat) : List Char :=
  if code < 0x100 then '\\' :: 'x' :: hexDigits code 2
  else if code < 0x10000 then '\\' :: 'u' :: hexDigits code 4
  else '\\' :: 'U' :: hexDigits code 8

/-- The written form of one character between the given quotes. -/
def escapeChar (shown : Char → Bool) (quote c : Char) : List Char :=
  if c = quote || c = '\\' then ['\\', c]
  else if c = '\n' then ['\\', 'n']
  else if c = '\r' then ['\\', 'r']
  else if c = '\t' then ['\\', 't']
  else if shown c then [c]
  else numericEscape c.toNat

def quoteChars (shown : Char → Bool) (chars : List Char) : List Char :=
  let quote := chooseQuote (chars.contains '\'') (chars.contains '"')
  quote :: chars.flatMap (escapeChar shown quote) ++ [quote]

def quote (text : String) : String :=
  String.ofList (quoteChars isPrintable text.toList)

def isPrintableAscii (c : Char) : Bool :=
  32 ≤ c.toNat && c.toNat < 127

/-- Bytes are shown as the ASCII characters that they are, and as escapes beyond. -/
def quoteBytes (data : List UInt8) : String :=
  String.ofList ('b' :: quoteChars isPrintableAscii (data.map fun byte => Char.ofNat byte.toNat))

end Dalvik.Text
