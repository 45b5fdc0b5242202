import Dalvik.Pattern.Escape
import Dalvik.Pattern.Group

/-!
Patterns given as text. A pattern that cannot be read is reported with the place of the fault; one
that looks back over a varying number of characters is refused once it has been read.
-/

namespace Dalvik.Pattern

/-- A pattern and its width. -/
abbrev Sized := Pattern × Width

/-- A sequence of items, of which the last one comes first. -/
def joinItems (items : List Item) : Sized :=
  items.foldl (fun (rest, width) item => (.both item.pattern rest, item.width.both width))
    (.empty, .zero)

/-- Alternatives, each a sequence with its last item first. If each is a single set, they make one
set. -/
def joinAlternatives (mode : Mode) (alternatives : List (List Item)) : Sized :=
  let members := alternatives.mapM fun
    | [item] => item.members
    | _ => none
  match alternatives, members with
  | _ :: _ :: _, some members => (.one (.ofMembers mode.rule members.flatten.eraseDups), .one)
  | _, _ =>
    match (alternatives.map joinItems).reverse with
    | [] => (.empty, .zero)
    | last :: others =>
      others.foldl
        (fun (rest, width) (pattern, own) => (.either pattern rest, own.either width)) last

def closing (start : Nat) (reading : Reading) : Except Misprint Reading :=
  if reading.rest.head? = some ')' then .ok (reading.advance 1)
  else .error ⟨.unterminatedGroup, some start⟩

/-- What follows a comment that ends at an unescaped parenthesis. -/
def skipComment (start : Nat) : Nat → Reading → Except Misprint Reading
  | 0, _ => .error ⟨.unterminatedComment, some start⟩
  | fuel + 1, reading =>
    match reading.next with
    | [] => .error ⟨.unterminatedComment, some start⟩
    | token =>
      let after := reading.advance token.length
      if token = [')'] then .ok after else skipComment start fuel after

/-- What follows a comment to the end of a line. -/
def skipLine : Nat → Reading → Reading
  | 0, reading => reading
  | fuel + 1, reading =>
    match reading.next with
    | [] => reading
    | token =>
      let after := reading.advance token.length
      if token = ['\n'] then after else skipLine fuel after

mutual

def readAlternatives : Nat → Mode → Reading → Except Misprint (List (List Item) × Reading)
  | 0, _, reading => reading.fault .unexpectedEnd 0
  | fuel + 1, mode, reading => do
    let (items, reading) ← readItems fuel mode [] reading
    match reading.rest with
    | '|' :: _ =>
      let (others, reading) ← readAlternatives fuel mode (reading.advance 1)
      return (items :: others, reading)
    | _ => return ([items], reading)

/-- The items of one alternative, the last one first. -/
def readItems : Nat → Mode → List Item → Reading → Except Misprint (List Item × Reading)
  | 0, _, _, reading => reading.fault .unexpectedEnd 0
  | fuel + 1, mode, items, reading =>
    match reading.rest with
    | [] | '|' :: _ | ')' :: _ => .ok (items, reading)
    | '\\' :: c :: _ => do
      let (item, reading) ← escape mode c (reading.advance 2)
      readItems fuel mode (item :: items) reading
    | '\\' :: [] => reading.fault .endingEscape 0
    | '[' :: _ => do
      let (item, reading) ← bracketed mode (reading.advance 1)
      readItems fuel mode (item :: items) reading
    | '.' :: _ =>
      let set := if mode.wholeText then .anything else .inLine
      readItems fuel mode (.ofSet set :: items) (reading.advance 1)
    | '^' :: _ =>
      let item := Item.anchor (if mode.manyLines then .atLineStart else .atStart)
      readItems fuel mode (item :: items) (reading.advance 1)
    | '$' :: _ =>
      let item := Item.anchor (if mode.manyLines then .atLineEnd else .atEnd)
      readItems fuel mode (item :: items) (reading.advance 1)
    | '(' :: _ => do
      let (item, reading) ← readGroup fuel mode (reading.advance 1)
      readItems fuel mode (item.toList ++ items) reading
    | c :: _ => do
      let after := reading.advance 1
      if mode.spaced && (c = ' ' || ('\t' ≤ c && c ≤ '\r')) then readItems fuel mode items after
      else if mode.spaced && c = '#' then
        readItems fuel mode items (skipLine (after.rest.length + 1) after)
      else if c = '?' || c = '*' || c = '+' || c = '\x7b' then
        match ← quantifier c after with
        | .literal => readItems fuel mode (.ofMembers mode [.only c] :: items) after
        | .range least most reading =>
          let (items, reading) ← repetition items least most after.position reading
          readItems fuel mode items reading
      else readItems fuel mode (.ofMembers mode [.only c] :: items) after

/-- What stands inside a group, and its closing parenthesis; the group began at `start`. -/
def readBody : Nat → Mode → Nat → Reading → Except Misprint (Sized × Reading)
  | 0, _, _, reading => reading.fault .unexpectedEnd 0
  | fuel + 1, mode, start, reading => do
    let (alternatives, reading) ← readAlternatives fuel mode reading
    return (joinAlternatives mode alternatives, ← closing start reading)

/-- A group, or nothing for a comment; the reading stands after the opening parenthesis. -/
def readGroup : Nat → Mode → Reading → Except Misprint (Option Item × Reading)
  | 0, _, reading => reading.fault .unexpectedEnd 0
  | fuel + 1, mode, reading => do
    let start := reading.position - 1
    let (kind, reading) ← groupKind mode reading
    match kind with
    | .comment => return (none, ← skipComment start (reading.rest.length + 1) reading)
    | .reference name =>
      match reading.names.lookup name with
      | none => reading.fault (.unknownName name) (name.length + 1)
      | some number =>
        let (item, reading) ← reference mode number (name.length + 1) reading
        return (some item, reading)
    | .capturing name =>
      let (number, reading) ← reading.openGroup name
      let ((body, width), reading) ← readBody fuel mode start reading
      return (some { pattern := .group number body, width := width },
        reading.closeGroup number width)
    | .plain mode =>
      let ((body, width), reading) ← readBody fuel mode start reading
      return (some { pattern := body, width := width }, reading)
    | .ahead present =>
      let ((body, _), reading) ← readBody fuel mode start reading
      return (some { pattern := .ahead body present, width := .zero }, reading)
    | .behind present =>
      let outer := reading.behind
      let reading := { reading with behind := some (outer.getD reading.groups) }
      let ((body, width), reading) ← readBody fuel mode start reading
      let reading := { reading with behind := outer }.checkWidth start width
      return (some { pattern := .behind width.least body present, width := .zero }, reading)
    | .settled =>
      let ((body, width), reading) ← readBody fuel mode start reading
      return (some { pattern := .settled body, width := width }, reading)
    | .condition number =>
      let (yes, reading) ← readItems fuel mode [] reading
      let (yes, width) := joinItems yes
      match reading.rest with
      | '|' :: _ =>
        let (no, reading) ← readItems fuel mode [] (reading.advance 1)
        let (no, other) := joinItems no
        if reading.rest.head? = some '|' then reading.fault .tooManyBranches 0
        let reading ← closing start reading
        return (some { pattern := .ifCaught number yes no, width := width.either other }, reading)
      | _ =>
        let reading ← closing start reading
        return (some { pattern := .ifCaught number yes .empty, width := width.either .zero },
          reading)

end

/-- Conditions may speak of groups that come after them, but not of groups that never come. -/
def checkMentioned (reading : Reading) : Except Misprint Unit :=
  match reading.mentioned.reverse.find? fun (number, _) => number > reading.groups with
  | some (number, place) => .error ⟨.unknownGroup number, some place⟩
  | none => .ok ()

/-- The first look back that cannot be made is reported. -/
def checkRefused (reading : Reading) : Except Misprint Unit :=
  match reading.refused.mergeSort fun left right => left.1 ≤ right.1 with
  | (_, defect) :: _ => .error ⟨defect, none⟩
  | [] => .ok ()

/-- Reads a pattern; the whole text has to belong to it. -/
def ofString (written : String) : Except Misprint Pattern := do
  let text := written.toList
  let (alternatives, reading) ← readAlternatives (4 * text.length + 4) {} { rest := text }
  if !reading.rest.isEmpty then reading.fault .unbalancedParenthesis 0
  checkMentioned reading
  checkRefused reading
  return (joinAlternatives {} alternatives).1

end Dalvik.Pattern
