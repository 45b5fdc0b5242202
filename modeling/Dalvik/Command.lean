import Dalvik.Emulator.Shared

/-!
The two commands on files: one runs a listing and prints what it returns, the other prints what the
listing declares.
-/

namespace Dalvik.Command

/-! ### Parameters of a run -/

/-- Registers from pairs of a name and a value; keys that are no texts name no register. -/
def registersOfPairs (heap : Heap) (index : Nat) (registers : Table Value) :
    List Value → Except Fault (Table Value)
  | [] => .ok registers
  | item :: rest =>
    match item.walk? heap with
    | none => .error (.pairExpected index)
    | some [.text name, value] =>
      registersOfPairs heap (index + 1) (registers.insert name value) rest
    | some [key, _] => do
      let _ ← key.hash heap
      registersOfPairs heap (index + 1) registers rest
    | some parts => .error (.pairLength index parts.length)

def registersOfEntries (entries : List (Value × Value)) : Table Value :=
  entries.filterMap fun
    | (.text name, value) => some (name, value)
    | _ => none

/-- Registers from a table, or from a sequence of pairs. -/
def registersOf (heap : Heap) (parameters : Value) : Except Fault (Table Value) := do
  let length ← parameters.length heap
  if length = 0 then return []
  match parameters with
  | .dict ref => return registersOfEntries (heap.entries ref)
  | _ => registersOfPairs heap 0 [] (← parameters.walk heap)

/-- Parameters are written as a literal; without any, no register is set. -/
def readParameters : Option String → Except Fault (Value × Heap)
  | none | some "" => .ok (({} : Heap).newDict [])
  | some text => Expr.readLiteral {} text

/-- The machine that a run begins with, and the lines that it runs. -/
def prepare (content : String) (parameters : Option String) :
    Except Fault (List String × Machine) := do
  let (value, heap) ← readParameters parameters
  let lines ← Emulator.checkLines (Text.lines content)
  let registers ← registersOf heap value
  return (lines, { heap := heap, registers := registers })

/-- Runs the listing in a file and prints what it returns. -/
def execute (content : String) (parameters : Option String) : Emulator × Ending Unit :=
  match prepare content parameters with
  | .error cause => ({}, .raised cause)
  | .ok (lines, machine) =>
    Emulator.andThen (Emulator.Shared.run {} lines machine false Emulator.unlimited)
      fun emulator result =>
        match result.plain emulator.machine.heap with
        | .ok text => (emulator.print (text ++ "\n"), .done ())
        | .error cause => (emulator, .raised cause)

/-! ### Inspection -/

def blockText (block : CatchBlock) : String :=
  let handler := (block.handler.map Text.quote).getD "None"
  "(" ++ toString block.first ++ ", " ++ toString block.last ++ ", " ++ handler ++ ")"

def blocksText (blocks : List CatchBlock) : String :=
  "[" ++ ", ".intercalate (blocks.map blockText) ++ "]"

/-- Prints the guarded blocks of the listing in a file. -/
def inspectBlocks (content : String) : Emulator × Ending Unit :=
  match Emulator.checkLines (Text.lines content) with
  | .error cause => ({}, .raised cause)
  | .ok lines =>
    Emulator.andThen (Emulator.declare { source := some lines }) fun emulator _ =>
      (emulator.print (blocksText emulator.machine.catchBlocks ++ "\n"), .done ())

/-- Inspection of methods is not available. -/
def inspectMethods (emulator : Emulator) : Emulator × Ending Unit :=
  (emulator, .raised (.notCallable "NotImplementedType"))

def inspect (content : String) (blocks methods : Bool) : Emulator × Ending Unit :=
  let first := if blocks then inspectBlocks content else ({}, .done ())
  if methods then Emulator.andThen first fun emulator _ => inspectMethods emulator else first

end Dalvik.Command
