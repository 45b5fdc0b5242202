import Dalvik.Instruction.Execute
import Dalvik.Instruction.Form
import Dalvik.Listing.Scan

/-!
The emulator: a machine, the listing that it runs, and the text printed so far. An operation of the
emulator ends with a value, with a fault that no handler takes, or by leaving the program after a
report of what cannot go on.
-/

namespace Dalvik

inductive Ending (α : Type) where
  | done (value : α)
  | raised (cause : Fault)
  | exited
  /-- The steps that were allowed are used up. -/
  | outOfSteps
deriving DecidableEq, Repr

/-- A list that the emulator goes by. -/
inductive OwnList where
  | blocks
  | pending
  | lines
deriving DecidableEq, Repr

/-- A list of the store that is one of the emulator's own. -/
structure Share where
  ref : Ref
  list : OwnList

structure Emulator where
  machine : Machine := {}
  source : Option (List String) := none
  steps : Nat := 0
  tracing : Bool := false
  output : String := ""
  /-- Lists that the program has got hold of. -/
  shared : List Share := []

namespace Emulator

variable {α β : Type}

/-- Goes on with the value of an operation that was done. -/
def andThen (result : Emulator × Ending α) (next : Emulator → α → Emulator × Ending β) :
    Emulator × Ending β :=
  match result with
  | (emulator, .done value) => next emulator value
  | (emulator, .raised cause) => (emulator, .raised cause)
  | (emulator, .exited) => (emulator, .exited)
  | (emulator, .outOfSteps) => (emulator, .outOfSteps)

def print (emulator : Emulator) (text : String) : Emulator :=
  { emulator with output := emulator.output ++ text }

/-- A number with at least three characters, its sign among them. -/
def lineNumber (n : Int) : String :=
  let digits := toString n.natAbs
  let sign := if n < 0 then "-" else ""
  sign ++ String.ofList (List.replicate (3 - digits.length - sign.length) '0') ++ digits

/-! ### Lines of the listing -/

/-- Whether the listing has a line; a negative number is no line. -/
def hasLine (emulator : Emulator) (index : Int) : Except Fault Bool :=
  match emulator.source with
  | some lines => .ok (0 ≤ index && index < lines.length)
  | none => .error (.noAttribute .null "has_line")

/-- A line of the listing; a negative index counts from the end. -/
def lineAt (emulator : Emulator) (index : Int) : Except Fault String :=
  match emulator.source with
  | some lines => Value.itemAt .list lines (.int index)
  | none => .error (.notSubscriptable .null)

def setLine (emulator : Emulator) (index : Int) (line : String) : Except Fault Emulator :=
  match emulator.source with
  | some lines =>
    if Value.fitsIndex index then
      match Value.resolve lines.length index with
      | some place => .ok { emulator with source := some (lines.set place line) }
      | none => .error .assignmentOutOfRange
    else .error .indexTooWide
  | none => .error (.noItemAssignment .null)

/-! ### Reports and faults -/

/-- Prints a message with the line that was run last, and leaves the program. -/
def report (emulator : Emulator) (message : String) : Emulator × Ending α :=
  let number := lineNumber emulator.machine.pc
  let emulator :=
    emulator.print ("\n-------------------------\nFatal error on line " ++ number ++ ":\n\n")
  match emulator.lineAt (emulator.machine.pc - 1) with
  | .ok line =>
    (emulator.print ("  " ++ number ++ " " ++ line ++ "\n\n" ++ message ++ "\n"), .exited)
  | .error cause => (emulator, .raised cause)

/-- Lets an action work on the machine. What is fatal is reported, and every fault is let out. -/
def perform (emulator : Emulator) (action : Action α) : Emulator × Ending α :=
  match action emulator.machine with
  | .ok value machine => ({ emulator with machine := machine }, .done value)
  | .error (.fault cause) machine => ({ emulator with machine := machine }, .raised cause)
  | .error (.fatal message) machine => { emulator with machine := machine }.report message

/-- Keeps a fault and goes on at the handler of the first block around the current line; without
one the program is left, with a report if the fault has a text. -/
def throw (emulator : Emulator) (cause : Fault) : Emulator × Ending Unit :=
  let emulator := { emulator with machine := emulator.machine.keep cause }
  match emulator.machine.catcher? with
  | some block => emulator.perform (Action.enter block)
  | none =>
    match cause.text with
    | .ok text => emulator.report ("Unhandled exception '" ++ text ++ "'.")
    | .error obstacle => (emulator, .raised obstacle)

/-! ### Instructions -/

/-- Executes an instruction; a fault that it lets out is thrown, also one in a report. -/
def execute (emulator : Emulator) (instruction : Instruction) : Emulator × Ending Unit :=
  match emulator.perform instruction.execute with
  | (emulator, .raised cause) => emulator.throw cause
  | (emulator, ending) => (emulator, ending)

def trace (emulator : Emulator) (line : String) : Emulator :=
  if emulator.tracing then
    emulator.print (lineNumber emulator.machine.pc ++ " " ++ line ++ "\n")
  else emulator

/-- Executes the instruction that was read from a line, if any; tells whether there was one. -/
def attempt (emulator : Emulator) (line : String) (instruction? : Option Instruction) :
    Emulator × Ending Bool :=
  match instruction? with
  | some instruction =>
    andThen ((emulator.trace line).execute instruction) fun emulator _ => (emulator, .done true)
  | none => (emulator, .done false)

/-- Executes a line if it has the given form. -/
def executeForm (emulator : Emulator) (form : Form) (line : String) : Emulator × Ending Bool :=
  emulator.attempt line (form.read? line)

/-- Executes a line by the first form that it has. -/
def executeLine (emulator : Emulator) (line : String) : Emulator × Ending Bool :=
  emulator.attempt line (Instruction.ofLine? line)

end Emulator

end Dalvik
