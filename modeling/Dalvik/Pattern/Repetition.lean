import Dalvik.Number.Numeral
import Dalvik.Pattern.Reading

/-!
Repetitions: how often the item before them may stand, and whether as many as possible, as few as
possible, or as many as possible once and for all.
-/

namespace Dalvik.Pattern

/-- Counts of repetitions are below this number. -/
def maxRepetitions : Nat := 0xffffffff

def repetitionCount (digits : List Char) : Except Misprint Nat :=
  if digits.length > Number.maxDigits then .error ⟨.numeralTooLong digits.length, none⟩
  else if Number.ofChars 10 digits < maxRepetitions then .ok (Number.ofChars 10 digits)
  else .error ⟨.tooManyRepetitions, none⟩

/-- The digits of the bounds in braces, if the text reads as such; the reading stands after the
brace. -/
def bounds (reading : Reading) : Option (List Char × List Char × Reading) :=
  let least := reading.rest.takeWhile Text.isAsciiDigit
  let after := reading.advance least.length
  match after.rest with
  | ',' :: _ =>
    let most := (after.rest.drop 1).takeWhile Text.isAsciiDigit
    let after := after.advance (1 + most.length)
    if after.rest.head? = some '\x7d' then some (least, most, after.advance 1) else none
  | '\x7d' :: _ => if least.isEmpty then none else some (least, least, after.advance 1)
  | _ => none

inductive Quantifier where
  | literal
  | range (least : Nat) (most : Option Nat) (after : Reading)

/-- The repetition that a character asks for; the reading stands after it. -/
def quantifier (c : Char) (reading : Reading) : Except Misprint Quantifier :=
  match c with
  | '?' => .ok (.range 0 (some 1) reading)
  | '*' => .ok (.range 0 none reading)
  | '+' => .ok (.range 1 none reading)
  | _ =>
    match bounds reading with
    | none => .ok .literal
    | some (least, most, after) => do
      let least ← if least.isEmpty then pure 0 else repetitionCount least
      if most.isEmpty then return .range least none after
      let most ← repetitionCount most
      if most < least then reading.fault .emptyRepeatRange 0
      else return .range least (some most) after

/-- A repetition of the last item read; `reading` stands after the quantifier, which began one
character before `start`. A repetition that gives nothing back takes each round in the first way in
which the body matches. -/
def repetition (items : List Item) (least : Nat) (most : Option Nat) (start : Nat)
    (reading : Reading) : Except Misprint (List Item × Reading) :=
  match items with
  | [] => .error ⟨.nothingToRepeat, some (start - 1)⟩
  | item :: others =>
    let made (pattern : Pattern) : List Item :=
      { pattern := pattern, width := item.width.repeated least most, kind := .repetition } :: others
    match item.kind with
    | .anchor => .error ⟨.nothingToRepeat, some (start - 1)⟩
    | .repetition => .error ⟨.multipleRepeat, some (start - 1)⟩
    | .plain =>
      match reading.rest with
      | '?' :: _ => .ok (made (.repeated item.pattern least most true), reading.advance 1)
      | '+' :: _ =>
        .ok (made (.settled (.repeated (.settled item.pattern) least most false)),
          reading.advance 1)
      | _ => .ok (made (.repeated item.pattern least most false), reading)

end Dalvik.Pattern
