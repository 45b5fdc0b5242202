import Dalvik.Pattern.Basic
import Dalvik.Pattern.Misprint

/-!
The state of a reader of patterns: what remains to be read, the groups seen so far with the widths
of those that are closed, and the looks back that turned out to have no fixed width.
-/

namespace Dalvik.Pattern

/-! ### Widths -/

/-- The least and the greatest number of characters that a pattern matches. -/
structure Width where
  least : Nat
  most : Nat

namespace Width

/-- Greater widths are not told apart. -/
def unbounded : Nat := Nat.pow 2 64

def bounded (least most : Nat) : Width :=
  ⟨min least unbounded, min most unbounded⟩

def zero : Width := ⟨0, 0⟩

def one : Width := ⟨1, 1⟩

def both (first second : Width) : Width :=
  bounded (first.least + second.least) (first.most + second.most)

def either (first second : Width) : Width :=
  ⟨min first.least second.least, max first.most second.most⟩

def repeated (body : Width) (least : Nat) (most : Option Nat) : Width :=
  match most with
  | some most => bounded (body.least * least) (body.most * most)
  | none => bounded (body.least * least) (if body.most = 0 then 0 else unbounded)

end Width

/-! ### What is being read -/

/-- Switches that change how a part of a pattern is meant. -/
structure Mode where
  ignoreCase : Bool := false
  /-- Line feeds inside the text begin and end lines. -/
  manyLines : Bool := false
  /-- The point takes line feeds too. -/
  wholeText : Bool := false
  /-- Blanks and comments mean nothing. -/
  spaced : Bool := false
  ascii : Bool := false

def Mode.rule (mode : Mode) : CaseRule :=
  if !mode.ignoreCase then .distinct else if mode.ascii then .asciiAlike else .alike

def Mode.word (mode : Mode) : CharSet :=
  if mode.ascii then .asciiWord else .word

/-- What remains to be read of a pattern, and what was seen so far. -/
structure Reading where
  rest : List Char
  position : Nat := 0
  groups : Nat := 0
  /-- The widths of the groups that are closed. -/
  widths : List (Nat × Width) := []
  names : List (List Char × Nat) := []
  /-- Inside a look back: the number of groups before it. -/
  behind : Option Nat := none
  /-- Groups that conditions speak of, with the place of the first mention, the latest first. -/
  mentioned : List (Nat × Nat) := []
  /-- Looks back that cannot be made, by their place. -/
  refused : List (Nat × Defect) := []

namespace Reading

def advance (reading : Reading) (count : Nat) : Reading :=
  { reading with rest := reading.rest.drop count, position := reading.position + count }

def fault {α : Type} (reading : Reading) (defect : Defect) (back : Nat) : Except Misprint α :=
  .error ⟨defect, some (reading.position - back)⟩

/-- The next character, with the one after it if it is a backslash; empty at the end. -/
def next (reading : Reading) : List Char :=
  match reading.rest with
  | '\\' :: c :: _ => ['\\', c]
  | c :: _ => [c]
  | [] => []

def closed (reading : Reading) (number : Nat) : Bool :=
  (reading.widths.lookup number).isSome

/-- A look back must not speak of groups that are open or that it holds itself. -/
def checkBehind (reading : Reading) (number : Nat) : Except Misprint Unit :=
  match reading.behind with
  | none => .ok ()
  | some before =>
    if !reading.closed number then reading.fault .openGroup 0
    else if number > before then reading.fault .groupBehind 0
    else .ok ()

/-- Notes where a group is first spoken of. -/
def mention (reading : Reading) (number place : Nat) : Reading :=
  if (reading.mentioned.lookup number).isSome then reading
  else { reading with mentioned := (number, place) :: reading.mentioned }

/-- The characters up to the one that closes a name. -/
def untilClosing (closing : Char) (what : String) :
    Nat → List Char → Reading → Except Misprint (List Char × Reading)
  | 0, _, reading => reading.fault (.missingName what) 0
  | fuel + 1, name, reading =>
    match reading.next with
    | [] =>
      if name.isEmpty then reading.fault (.missingName what) 0
      else reading.fault (.unterminatedName closing) name.length
    | token =>
      let after := reading.advance token.length
      if token = [closing] then
        if name.isEmpty then after.fault (.missingName what) 1 else .ok (name, after)
      else untilClosing closing what fuel (name ++ token) after

def name (reading : Reading) (closing : Char) (what : String) :
    Except Misprint (List Char × Reading) :=
  untilClosing closing what (reading.rest.length + 1) [] reading

end Reading

inductive ItemKind where
  | plain
  | anchor
  | repetition

/-- One element of a sequence, with what a repetition after it needs to know. -/
structure Item where
  pattern : Pattern
  width : Width
  kind : ItemKind := .plain
  /-- The members of a set that is not an exclusion, before the case of letters is looked at. -/
  members : Option (List CharSet) := none

end Dalvik.Pattern
