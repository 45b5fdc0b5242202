import Dalvik.Text.Identifier
import Dalvik.Pattern.Repetition

/-!
What an opening parenthesis may begin: groups with or without a name, switches, conditions, looks
ahead and back, and comments.
-/

namespace Dalvik.Pattern

/-! ### Switches -/

def isSwitch (c : Char) : Bool :=
  ['a', 'i', 'L', 'm', 's', 't', 'u', 'x'].contains c

/-- Switches that choose what counts as a letter. -/
def isAlphabetSwitch (c : Char) : Bool :=
  ['a', 'L', 'u'].contains c

/-- The defect of a token that is no switch. -/
def refuseSwitch {α : Type} (token : List Char) (otherwise : Defect) (reading : Reading) :
    Except Misprint α :=
  match token with
  | [] => reading.fault otherwise 0
  | [c] => (reading.advance 1).fault (if Text.isLetter c then .unknownSwitch else otherwise) 1
  | _ => (reading.advance token.length).fault otherwise token.length

/-- Letters switched on after the given one, up to the character that ends them. -/
def switchesOn : Nat → List Char → Char → Reading → Except Misprint (List Char × Char × Reading)
  | 0, _, _, reading => reading.fault .missingSwitchEnd 0
  | fuel + 1, on, c, reading =>
    if c = 'L' then reading.fault .localeSwitch 0
    else if isAlphabetSwitch c && on.any (fun d => isAlphabetSwitch d && d != c) then
      reading.fault .mixedAlphabets 0
    else
      match reading.next with
      | [d] =>
        if d = ')' || d = '-' || d = ':' then .ok (c :: on, d, reading.advance 1)
        else if isSwitch d then switchesOn fuel (c :: on) d (reading.advance 1)
        else refuseSwitch [d] .missingSwitchEnd reading
      | token => refuseSwitch token .missingSwitchEnd reading

/-- Letters switched off after the given one, up to the colon. -/
def switchesOff : Nat → List Char → Char → Reading → Except Misprint (List Char × Reading)
  | 0, _, _, reading => reading.fault .missingColon 0
  | fuel + 1, off, c, reading =>
    if isAlphabetSwitch c then reading.fault .fixedAlphabet 0
    else
      match reading.next with
      | [d] =>
        if d = ':' then .ok (c :: off, reading.advance 1)
        else if isSwitch d then switchesOff fuel (c :: off) d (reading.advance 1)
        else refuseSwitch [d] .missingColon reading
      | token => refuseSwitch token .missingColon reading

def Mode.switched (mode : Mode) (on off : List Char) : Mode :=
  let value (c : Char) (old : Bool) := (old || on.contains c) && !off.contains c
  { ignoreCase := value 'i' mode.ignoreCase
    manyLines := value 'm' mode.manyLines
    wholeText := value 's' mode.wholeText
    spaced := value 'x' mode.spaced
    ascii := if on.any isAlphabetSwitch then on.contains 'a' else mode.ascii }

/-- The mode of a group with switches of its own. The reading stands after the first of them, `c`;
the group began at `start`. Switches without a group are refused. -/
def switches (mode : Mode) (start : Nat) (c : Char) (reading : Reading) :
    Except Misprint (Mode × Reading) := do
  let fuel := reading.rest.length + 1
  let (on, ending, reading) ←
    if c = '-' then pure ([], '-', reading) else switchesOn fuel [] c reading
  if ending = ')' then .error ⟨.misplacedSwitches, some start⟩
  if on.contains 't' then reading.fault .wholeSwitchOn 1
  let (off, reading) ←
    if ending = '-' then
      match reading.next with
      | [d] =>
        if isSwitch d then switchesOff fuel [] d (reading.advance 1)
        else refuseSwitch [d] .missingSwitch reading
      | token => refuseSwitch token .missingSwitch reading
    else pure ([], reading)
  if off.contains 't' then reading.fault .wholeSwitchOff 1
  if on.any off.contains then reading.fault .onAndOff 1
  return (mode.switched on off, reading)

/-! ### Groups -/

inductive GroupKind where
  | capturing (name : Option (List Char))
  | reference (name : List Char)
  | plain (mode : Mode)
  | comment
  | ahead (present : Bool)
  | behind (present : Bool)
  | settled
  | condition (number : Nat)

def isGroupName (name : List Char) : Bool :=
  match name with
  | c :: rest => Text.isNameStart c && rest.all Text.isNameRest
  | [] => false

/-- The name of a group, up to the character that closes it. -/
def groupName (closing : Char) (reading : Reading) : Except Misprint (List Char × Reading) := do
  let (name, reading) ← reading.name closing "group name"
  if isGroupName name then return (name, reading)
  else reading.fault (.badName name) (name.length + 1)

/-- Numbers of groups are below this one. -/
def maxGroups : Int := 0x3fffffff

/-- The group that a condition speaks of, by name or by number. -/
def conditionGroup (reading : Reading) : Except Misprint (Nat × Reading) := do
  let (name, reading) ← reading.name ')' "group name"
  let refuse {α : Type} (defect : Defect) : Except Misprint α :=
    reading.fault defect (name.length + 1)
  if isGroupName name then
    match reading.names.lookup name with
    | some number =>
      reading.checkBehind number
      return (number, reading)
    | none => refuse (.unknownName name)
  else
    match Number.readNumeral 10 name with
    | .error _ => refuse (.badName name)
    | .ok number =>
      if number < 0 then refuse (.badName name)
      else if number = 0 then refuse .badGroupNumber
      else if number ≥ maxGroups then refuse (.unknownGroup number.toNat)
      else
        let reading := reading.mention number.toNat (reading.position - name.length - 1)
        reading.checkBehind number.toNat
        return (number.toNat, reading)

/-- What stands after an opening parenthesis; the reading stands there too. -/
def groupKind (mode : Mode) (reading : Reading) : Except Misprint (GroupKind × Reading) :=
  match reading.rest with
  | '?' :: _ =>
    let start := reading.position - 1
    let reading := reading.advance 1
    match reading.next with
    | [':'] => .ok (.plain mode, reading.advance 1)
    | ['#'] => .ok (.comment, reading.advance 1)
    | ['='] => .ok (.ahead true, reading.advance 1)
    | ['!'] => .ok (.ahead false, reading.advance 1)
    | ['>'] => .ok (.settled, reading.advance 1)
    | ['<'] =>
      let reading := reading.advance 1
      match reading.next with
      | ['='] => .ok (.behind true, reading.advance 1)
      | ['!'] => .ok (.behind false, reading.advance 1)
      | [] => reading.fault .unexpectedEnd 0
      | token =>
        (reading.advance token.length).fault (.unknownExtension ('<' :: token)) (token.length + 2)
    | ['P'] =>
      let reading := reading.advance 1
      match reading.next with
      | ['<'] =>
        (groupName '>' (reading.advance 1)).map fun (name, reading) =>
          (.capturing (some name), reading)
      | ['='] =>
        (groupName ')' (reading.advance 1)).map fun (name, reading) => (.reference name, reading)
      | [] => reading.fault .unexpectedEnd 0
      | token =>
        (reading.advance token.length).fault (.unknownExtension ('P' :: token)) (token.length + 2)
    | ['('] =>
      (conditionGroup (reading.advance 1)).map fun (number, reading) => (.condition number, reading)
    | [] => reading.fault .unexpectedEnd 0
    | token =>
      let after := reading.advance token.length
      match token with
      | [c] =>
        if isSwitch c || c = '-' then
          (switches mode start c after).map fun (mode, reading) => (.plain mode, reading)
        else after.fault (.unknownExtension token) 2
      | _ => after.fault (.unknownExtension token) (token.length + 1)
  | _ => .ok (.capturing none, reading)

def Reading.openGroup (reading : Reading) (name : Option (List Char)) :
    Except Misprint (Nat × Reading) :=
  let number := reading.groups + 1
  match name with
  | none => .ok (number, { reading with groups := number })
  | some name =>
    match reading.names.lookup name with
    | some earlier => reading.fault (.repeatedName name number earlier) (name.length + 1)
    | none => .ok (number, { reading with
        groups := number, names := (name, number) :: reading.names })

def Reading.closeGroup (reading : Reading) (number : Nat) (width : Width) : Reading :=
  { reading with widths := (number, width) :: reading.widths }

/-- Notes a look back that cannot be made. -/
def Reading.checkWidth (reading : Reading) (start : Nat) (width : Width) : Reading :=
  if width.least > maxRepetitions then
    { reading with refused := (start, .looksTooFar) :: reading.refused }
  else if width.least != width.most then
    { reading with refused := (start, .varyingWidth) :: reading.refused }
  else reading

end Dalvik.Pattern
