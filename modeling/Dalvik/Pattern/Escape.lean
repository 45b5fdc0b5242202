import Dalvik.Number.Numeral
import Dalvik.Text.CharName
import Dalvik.Pattern.Reading

/-!
Characters and sets of characters as patterns spell them: escapes after a backslash and lists
between brackets.
-/

namespace Dalvik.Pattern

def isOctal (c : Char) : Bool :=
  '0' ≤ c && c ≤ '7'

def controlEscape : Char → Option Char
  | 'a' => some (Char.ofNat 7)
  | 'f' => some (Char.ofNat 12)
  | 'n' => some '\n'
  | 'r' => some '\r'
  | 't' => some '\t'
  | 'v' => some (Char.ofNat 11)
  | '\\' => some '\\'
  | _ => none

def classEscape (mode : Mode) : Char → Option CharSet
  | 'd' => some (if mode.ascii then .asciiDigit else .digit)
  | 'D' => some (.outside (if mode.ascii then .asciiDigit else .digit))
  | 's' => some (if mode.ascii then .asciiBlank else .blank)
  | 'S' => some (.outside (if mode.ascii then .asciiBlank else .blank))
  | 'w' => some mode.word
  | 'W' => some (.outside mode.word)
  | _ => none

/-- The digits after `\x`, `\u` or `\U`; the reading stands after the letter. -/
def hexEscape (letter : Char) (width : Nat) (reading : Reading) :
    Except Misprint (Char × Reading) :=
  let digits := (reading.rest.take width).takeWhile fun c => (Text.hexValue c).isSome
  let reading := reading.advance digits.length
  if digits.length = width then
    let code := Number.ofChars 16 digits
    if code < 0x110000 then .ok (Text.ofCode code, reading)
    else reading.fault (.badEscape ('\\' :: letter :: digits)) (width + 2)
  else reading.fault (.incompleteEscape ('\\' :: letter :: digits)) (digits.length + 2)

/-- A character by its name in braces; the reading stands after the letter. -/
def nameEscape (reading : Reading) : Except Misprint (Char × Reading) :=
  if reading.next = ['\x7b'] then do
    let (name, reading) ← (reading.advance 1).name '\x7d' "character name"
    match Text.charNamed? (String.ofList name) with
    | some c => return (c, reading)
    | none => reading.fault (.unknownCharacter name) (name.length + 4)
  else reading.fault .missingBrace 0

/-- An escape that names a character or a class in any place. The reading stands after the
escaped character, and a letter without a meaning is refused. -/
def commonEscape (mode : Mode) (c : Char) (reading : Reading) :
    Except Misprint (CharSet × Reading) :=
  match classEscape mode c, controlEscape c with
  | some set, _ => .ok (set, reading)
  | none, some control => .ok (.only control, reading)
  | none, none =>
    let width := if c = 'x' then 2 else if c = 'u' then 4 else if c = 'U' then 8 else 0
    if width > 0 then
      (hexEscape c width reading).map fun (value, reading) => (.only value, reading)
    else if c = 'N' then
      (nameEscape reading).map fun (value, reading) => (.only value, reading)
    else if Text.isAsciiLetter c then reading.fault (.badEscape ['\\', c]) 2
    else .ok (.only c, reading)

def setEscape (mode : Mode) (c : Char) (reading : Reading) : Except Misprint (CharSet × Reading) :=
  if c = 'b' then .ok (.only (Char.ofNat 8), reading)
  else if isOctal c then
    let digits := c :: (reading.rest.take 2).takeWhile isOctal
    let reading := reading.advance (digits.length - 1)
    let code := Number.ofChars 8 digits
    if code > 255 then reading.fault (.octalTooLarge ('\\' :: digits)) (digits.length + 1)
    else .ok (.only (Char.ofNat code), reading)
  else if Text.isAsciiDigit c then reading.fault (.badEscape ['\\', c]) 2
  else commonEscape mode c reading

/-- One member of a bracketed set. -/
def setMember (mode : Mode) (reading : Reading) : Except Misprint (CharSet × Reading) :=
  match reading.rest with
  | '\\' :: c :: _ => setEscape mode c (reading.advance 2)
  | '\\' :: [] => reading.fault .endingEscape 0
  | c :: _ => .ok (.only c, reading.advance 1)
  | [] => reading.fault .unterminatedSet 0

/-- The members of a bracketed set up to its closing bracket. A range that is none is reported with
the first characters of its ends. -/
def setMembers (mode : Mode) (start : Nat) :
    Nat → List CharSet → Reading → Except Misprint (List CharSet × Reading)
  | 0, _, _ => .error ⟨.unterminatedSet, some start⟩
  | fuel + 1, members, reading => do
    let first := reading.next
    if first.isEmpty then .error ⟨.unterminatedSet, some start⟩
    if first = [']'] && !members.isEmpty then return (members, reading.advance 1)
    let (low, after) ← setMember mode reading
    match after.rest with
    | '-' :: [] => .error ⟨.unterminatedSet, some start⟩
    | '-' :: ']' :: _ => return (members ++ [low, .only '-'], after.advance 2)
    | '-' :: _ =>
      let last := (after.advance 1).next
      let (high, after) ← setMember mode (after.advance 1)
      let refusal := after.fault (.badRange first last) (first.length + 1 + last.length)
      match low, high with
      | .only low, .only high =>
        if high < low then refusal
        else setMembers mode start fuel (members ++ [.between low high]) after
      | _, _ => refusal
    | _ => setMembers mode start fuel (members ++ [low]) after

def Item.ofSet (set : CharSet) : Item :=
  { pattern := .one set, width := .one }

/-- A set of the given members. -/
def Item.ofMembers (mode : Mode) (members : List CharSet) : Item :=
  { Item.ofSet (.ofMembers mode.rule members.eraseDups) with members := some members }

/-- A bracketed set; the reading stands after the opening bracket. -/
def bracketed (mode : Mode) (reading : Reading) : Except Misprint (Item × Reading) := do
  let start := reading.position - 1
  let fuel := reading.rest.length + 1
  match reading.rest with
  | '^' :: _ =>
    let (members, reading) ← setMembers mode start fuel [] (reading.advance 1)
    return (.ofSet (.outside (.ofMembers mode.rule members.eraseDups)), reading)
  | _ =>
    let (members, reading) ← setMembers mode start fuel [] reading
    return (.ofMembers mode members, reading)

def Item.anchor (pattern : Pattern) : Item :=
  { pattern := pattern, width := .zero, kind := .anchor }

/-- What a group caught before; the reading stands after the number or name, which is `length`
characters long. -/
def reference (mode : Mode) (number length : Nat) (reading : Reading) :
    Except Misprint (Item × Reading) := do
  match reading.widths.lookup number with
  | none => reading.fault .openGroup length
  | some width =>
    reading.checkBehind number
    return ({ pattern := .again number mode.rule, width := width }, reading)

/-- An escape outside sets; the reading stands after the escaped character. -/
def escape (mode : Mode) (c : Char) (reading : Reading) : Except Misprint (Item × Reading) :=
  match c with
  | 'A' => .ok (.anchor .atStart, reading)
  | 'Z' => .ok (.anchor .atVeryEnd, reading)
  | 'b' => .ok (.anchor (.edge mode.word true), reading)
  | 'B' => .ok (.anchor (.edge mode.word false), reading)
  | '0' =>
    let digits := (reading.rest.take 2).takeWhile isOctal
    let char := Char.ofNat (Number.ofChars 8 digits)
    .ok (.ofMembers mode [.only char], reading.advance digits.length)
  | _ =>
    if Text.isAsciiDigit c then
      let second := (reading.rest.take 1).takeWhile Text.isAsciiDigit
      let octal := c :: reading.rest.take 2
      if octal.length = 3 && octal.all isOctal then
        let code := Number.ofChars 8 octal
        let reading := reading.advance 2
        if code > 255 then reading.fault (.octalTooLarge ('\\' :: octal)) 4
        else .ok (.ofMembers mode [.only (Char.ofNat code)], reading)
      else
        let number := Number.ofChars 10 (c :: second)
        let reading := reading.advance second.length
        if number > reading.groups then
          reading.fault (.unknownGroup number) (1 + second.length)
        else reference mode number (2 + second.length) reading
    else (commonEscape mode c reading).map fun (set, reading) => (.ofMembers mode [set], reading)

end Dalvik.Pattern
