import Dalvik.Text.CharName.Aliases
import Dalvik.Text.CharName.Ancient
import Dalvik.Text.CharName.Extensions
import Dalvik.Text.CharName.Letters
import Dalvik.Text.CharName.Notation
import Dalvik.Text.CharName.Pictures
import Dalvik.Text.CharName.Scripts
import Dalvik.Text.CharName.Signs
import Dalvik.Text.CharName.Syllables
import Dalvik.Text.CharName.Symbols
import Dalvik.Text.Normal

/-!
Characters by their names. Most names are listed; those of syllables and ideographs follow a rule.
-/

namespace Dalvik.Text

/-- The tables of names, row by row. -/
def nameTables : List (List String) :=
  [letterNames, scriptNames, extensionNames, symbolNames, syllableNames, ancientNames,
    signNames, notationNames, pictureNames, aliasNames]

/-- Frequent words of names, with the short forms that the tables have for them. -/
def shortForms : List (String × String) := [
  ("ARROW", "a"), ("ALTERNATE", "aa"), ("ABBREVIATION", "ab"), ("ACUTE", "ac"), ("ACCENT", "ad"),
  ("ALTERNATING", "ae"), ("ANGLE", "ag"), ("ALEF", "al"), ("ANUSVARA", "an"), ("ARROWHEAD", "ar"),
  ("ASTERISK", "as"), ("ANTICLOCKWISE", "at"), ("ABOVE", "b"), ("BARB", "ba"), ("BLOCK", "bl"),
  ("BOTTOM", "bo"), ("BRACKET", "br"), ("CAPITAL", "c"), ("CANDRABINDU", "ca"), ("CROSS", "cb"),
  ("CIRCLED", "cc"), ("CORNER", "cd"), ("CENTRE", "ce"), ("CIRCLE", "ci"), ("CONJOINED", "cj"),
  ("CLOSED", "cl"), ("COMMA", "cm"), ("CONSONANT", "cn"), ("COMBINING", "co"),
  ("C-SIMPLIFIED", "cp"), ("CIRCUMFLEX", "cr"), ("CROSSING", "cs"), ("DOUBLE", "d"),
  ("DIAGONAL", "da"), ("DESCENDER", "dc"), ("DOTTED", "dd"), ("DEGREES", "de"), ("DIGIT", "dg"),
  ("DIAERESIS", "di"), ("DIAMOND", "dm"), ("DOWN-POINTING", "dn"), ("DOWNWARDS", "do"),
  ("DIGRAPH", "dr"), ("DASIA", "ds"), ("DOTS", "dt"), ("DOWN", "dw"), ("LEFT", "e"),
  ("EQUALS", "ea"), ("EIGHT", "ei"), ("EPSILON", "ep"), ("EQUAL", "eq"), ("EAST", "es"),
  ("EQUILATERAL", "eu"), ("EXCLAMATION", "ex"), ("FORM", "f"), ("FACE", "fa"), ("FIVE", "fi"),
  ("FOUR", "fo"), ("RIGHTWARDS", "g"), ("GRAVE", "ga"), ("GREATER-THAN", "gr"), ("INITIAL", "h"),
  ("HARPOON", "ha"), ("HAND-CIRCLE", "hd"), ("HEAVY", "he"), ("HIGH", "hg"), ("HAND-HINGE", "hh"),
  ("HITTING", "hi"), ("HALF", "hl"), ("HAND-FIST", "hn"), ("HOOK", "ho"), ("HUNDRED", "hu"),
  ("ISOLATED", "i"), ("INDEX", "id"), ("IDEOGRAPHIC", "ie"), ("INVERTED", "in"),
  ("INTERSECTION", "it"), ("THREE", "j"), ("JEEM", "je"), ("AND", "k"), ("LETTER", "l"),
  ("LARGE", "la"), ("LATIN", "lb"), ("LINE", "lc"), ("LESS-THAN", "le"), ("LEFT-POINTING", "lf"),
  ("LIGATURE", "lg"), ("LIGHT", "li"), ("LONG", "ln"), ("LOWER", "lo"), ("LITTLE", "lt"),
  ("SMALL", "m"), ("MAKSURA", "ma"), ("MACRON", "mc"), ("MEDIAL", "md"), ("MEDIUM", "me"),
  ("MODIFIER", "mf"), ("MIDDLE", "mi"), ("MEEM", "mm"), ("MOVEMENT-FLOORPLANE", "mo"),
  ("MULTIPLICATION", "mu"), ("MOVEMENT-WALLPLANE", "mv"), ("FINAL", "n"), ("NINE", "ni"),
  ("NINETY", "nn"), ("NORTH", "no"), ("NUMBER", "nu"), ("TRIANGLE-HEADED", "o"), ("OPEN", "oe"),
  ("OPERATOR", "op"), ("ORNAMENT", "or"), ("OVER", "ov"), ("BELOW", "p"), ("PARENTHESIS", "pa"),
  ("PERISPOMENI", "pe"), ("POINTED", "pi"), ("PLUS", "pl"), ("POINTING", "po"),
  ("PROSGEGRAMMENI", "pr"), ("PSILI", "ps"), ("PALATAL", "pt"), ("PUNCTUATION", "pu"),
  ("BLACK", "q"), ("QUARTER", "qa"), ("QUESTION", "qe"), ("QUOTATION", "qu"), ("RIGHT", "r"),
  ("REVERSED", "re"), ("RIGHT-POINTING", "ri"), ("RING", "rn"), ("ROTATED", "ro"),
  ("RETROFLEX", "rt"), ("SIGN", "s"), ("SANS-SERIF", "sa"), ("SOUTH", "sb"), ("SEVEN", "se"),
  ("STRAIGHT", "sg"), ("SHORT", "sh"), ("SINGLE", "si"), ("STOP", "so"), ("SEPARATOR", "sp"),
  ("SQUARE", "sq"), ("SUPERSET", "sr"), ("STROKE", "st"), ("SQUARED", "su"), ("SEVENTY", "sv"),
  ("LEFTWARDS", "t"), ("TRIANGULAR", "ta"), ("THOUSAND", "th"), ("TIMES", "ti"), ("TILDE", "tl"),
  ("THUMB", "tm"), ("TONE", "to"), ("TRIPLE", "tp"), ("TRIANGLE", "tr"), ("TURNED", "tu"),
  ("TWENTY", "tw"), ("WHITE", "u"), ("UPPER", "ue"), ("UNDERBAR", "un"), ("UPWARDS", "up"),
  ("UPSILON", "us"), ("VERTICAL", "v"), ("VARIA", "va"), ("VOCALIC", "vc"), ("VISARGA", "vi"),
  ("VOWEL", "vo"), ("VIRAMA", "vr"), ("WITH", "w"), ("WEST-CREE", "we"), ("MARK", "x"),
  ("SYMBOL", "y"), ("YENISEI", "ye"), ("YPOGEGRAMMENI", "yp"), ("HORIZONTAL", "z"), ("ZERO", "ze")]

def shortForm (word : String) : String :=
  (shortForms.lookup word).getD word

/-- The entries of a table, one for each name. A plus and a number stand for so many names that
count on. -/
def nameEntries (table : List String) : List String :=
  (table.flatMap (·.splitOn ";")).flatMap fun entry =>
    match entry.toList with
    | '+' :: count => List.replicate (hexNumber (String.ofList count)) "+"
    | _ => [entry]

/-- The word with the next number at its end, in as many digits. -/
def countOn (word : String) : String :=
  let stem := (word.toList.reverse.dropWhile Char.isDigit).reverse
  let digits := word.toList.drop stem.length
  let number := digits.foldl (fun value c => value * 10 + (hexValue c).getD 0) 0
  let next := Nat.toDigits 10 (number + 1)
  String.ofList (stem ++ List.replicate (digits.length - next.length) '0' ++ next)

/-- The words that an entry writes out, behind those that it shares with the name before it. -/
def writtenWords (words : List String) (body : String) : List String :=
  let shared := ((body.toList.head?).bind hexValue).getD 0
  words.take shared ++ ((String.ofList (body.toList.drop 1)).splitOn " ").filter (!·.isEmpty)

/-- The words of an entry, given those of the name before it: the same ones with the next number,
the same ones for a small letter in place of a capital one, or other ones behind those that are
shared. -/
def nextWords (words : List String) (body : String) : List String :=
  if body = "+" then words.dropLast ++ (words.getLast?.map countOn).toList
  else if body = "&" then
    words.map fun word => if word = shortForm "CAPITAL" then shortForm "SMALL" else word
  else writtenWords words body

/-- Adds so many names, each one like the name that is as far back, with other words in place of
its first ones. -/
def copyNames (back givingWay : Nat) (words : List String) :
    Nat → Nat → List (Nat × List String) → List (Nat × List String)
  | 0, _, names => names
  | count + 1, code, names =>
    let kept := (names[back - 1]?).elim [] fun (_, copied) => copied.drop givingWay
    copyNames back givingWay words count (code + 1) ((code, words ++ kept) :: names)

/-- Adds the names of an entry to those before it; the last one comes first. An entry begins with
the number of words that it shares with the name before it. A code point stands before it where the
numbering leaps. Behind a star stand the number of names that are copied, how far back they are, and
how many of their words give way. -/
def addNames (names : List (Nat × List String)) (entry : String) : List (Nat × List String) :=
  let (last, words) := names.headD (0, [])
  let (code, body) :=
    match entry.splitOn ":" with
    | [start, body] => (hexNumber start, body)
    | _ => (last + 1, entry)
  match body.splitOn "*" with
  | [written, numbers] =>
    match (numbers.splitOn " ").map hexNumber with
    | [count, back, givingWay] =>
      copyNames back givingWay (writtenWords words written) count code names
    | _ => names
  | _ => (code, nextWords words body) :: names

/-- The code point of a name, in short forms, in a table. -/
def findName (wanted : List String) (table : List String) : Option Nat :=
  (((nameEntries table).foldl addNames []).find? (·.2 = wanted)).map (·.1)

/-- Beginnings of names that end in the code point itself, and where the characters are. -/
def numberedNames : List (String × Nat × Nat) := [
  ("CJK COMPATIBILITY IDEOGRAPH-", 0xf900, 0xfa6d),
  ("CJK COMPATIBILITY IDEOGRAPH-", 0xfa70, 0xfad9),
  ("CJK COMPATIBILITY IDEOGRAPH-", 0x2f800, 0x2fa1d),
  ("KHITAN SMALL SCRIPT CHARACTER-", 0x18b00, 0x18cd5),
  ("NUSHU CHARACTER-", 0x1b170, 0x1b2fb)]

def numberedName? (name : String) : Option Nat :=
  let number := (name.splitOn "-").getLast?.getD ""
  let code := hexNumber number
  let fits := numberedNames.any fun (beginning, first, last) =>
    name = beginning ++ number && first ≤ code && code ≤ last
  if fits && String.ofList ((Nat.toDigits 16 code).map Char.toUpper) = number then some code
  else none

def ideographBeginning : String := "CJK UNIFIED IDEOGRAPH-"

def ideographRanges : Array (Nat × Nat) := #[
  (0x3400, 0x4dbf), (0x4e00, 0x9fff), (0x20000, 0x2a6df), (0x2a700, 0x2b738), (0x2b740, 0x2b81d),
  (0x2b820, 0x2cea1), (0x2ceb0, 0x2ebe0), (0x30000, 0x3134a)]

/-- The ideograph that a name of four or five capital digits gives. -/
def ideographNamed? (name : List Char) : Option Nat :=
  let beginning := ideographBeginning.toList
  let digits := name.drop beginning.length
  let code := hexNumber (String.ofList digits)
  if beginning.isPrefixOf name && (digits.length = 4 || digits.length = 5) &&
      digits.all (fun c => isAsciiCapitalHex c) && inRanges ideographRanges code then
    some code
  else none
where
  isAsciiCapitalHex (c : Char) : Bool :=
    ('0' ≤ c && c ≤ '9') || ('A' ≤ c && c ≤ 'F')

def syllableBeginning : String := "HANGUL SYLLABLE "

def leadNames : List String :=
  ["G", "GG", "N", "D", "DD", "R", "M", "B", "BB", "S", "SS", "", "J", "JJ", "C", "K", "T", "P",
    "H"]

def vowelNames : List String :=
  ["A", "AE", "YA", "YAE", "EO", "E", "YEO", "YE", "O", "WA", "WAE", "OE", "YO", "U", "WEO", "WE",
    "WI", "YU", "EU", "YI", "I"]

def trailNames : List String :=
  ["", "G", "GG", "GS", "N", "NJ", "NH", "D", "L", "LG", "LM", "LB", "LS", "LT", "LP", "LH", "M",
    "B", "BS", "S", "SS", "NG", "J", "C", "K", "T", "P", "H"]

/-- The number of the longest name that a text begins with, and the rest. -/
def takeLongest (names : List String) (text : List Char) : Option (Nat × List Char) :=
  let fitting := names.zipIdx.filter fun (name, _) => name.toList.isPrefixOf text
  let longest := fitting.foldl (fun best (name, index) =>
    match best with
    | some (other, _) => if other.length < name.length then some (name, index) else best
    | none => some (name, index)) (none : Option (String × Nat))
  longest.map fun (name, index) => (index, text.drop name.length)

/-- The syllable that a name spells. -/
def syllableNamed? (name : List Char) : Option Nat := do
  if !syllableBeginning.toList.isPrefixOf name then none
  let (lead, rest) ← takeLongest leadNames (name.drop syllableBeginning.length)
  let (vowel, rest) ← takeLongest vowelNames rest
  let (trail, rest) ← takeLongest trailNames rest
  if rest.isEmpty then return firstSyllable + (lead * vowelCount + vowel) * trailCount + trail
  else none

/-- The character with the given name. Small letters count as capitals, except in names that are
made by a rule. -/
def charNamed? (name : String) : Option Char :=
  let chars := name.toList
  let capital := String.ofList (chars.map Char.toUpper)
  let code := (syllableNamed? chars).or <| (ideographNamed? chars).or <|
    (numberedName? capital).or <|
      nameTables.findSome? (findName ((capital.splitOn " ").map shortForm))
  code.map Char.ofNat

end Dalvik.Text
