import Dalvik.Emulator.Basic
import Dalvik.Text.Lines
import Dalvik.Value.Datum

/-!
Running a listing: its tables are declared first, then its lines are run one by one until the
program returns, leaves the listing, or cannot go on. A written expression that reaches a list of
the emulator's own has no value here; `Emulator.Shared` has runs in which such a list is handed out.
-/

namespace Dalvik

namespace Machine

/-- Puts values into registers. -/
def load (machine : Machine) (values : Table Datum) : Machine :=
  values.foldl (fun machine (register, datum) =>
    machine.writeFrom register (machine.heap.store datum)) machine

end Machine

namespace Emulator

/-- A listing has at least one line. -/
def checkLines (lines : List String) : Except Fault (List String) :=
  if lines.isEmpty then .error .missingSource else .ok lines

/-- Strips the lines of the listing and declares its tables. -/
def declare (emulator : Emulator) : Emulator × Ending Unit :=
  match emulator.source with
  | none => (emulator, .raised (.noAttribute .null "lines"))
  | some lines =>
    let lines := lines.map Text.strip
    let (machine, halt) := Listing.scan emulator.machine lines
    let emulator := { emulator with source := some lines, machine := machine }
    match halt with
    | none => (emulator, .done ())
    | some (.fault cause) => (emulator, .raised cause)
    | some (.fatal message) => emulator.report message

/-- The line that is run next. -/
def nextLine? (emulator : Emulator) : Option String :=
  if emulator.machine.stopped then none
  else
    match emulator.source, emulator.machine.pc with
    | some lines, .ofNat index => lines[index]?
    | _, _ => none

/-- Moves on to the next line, and counts the one that is left. -/
def advance (emulator : Emulator) : Emulator :=
  { emulator with
    machine := { emulator.machine with pc := emulator.machine.pc + 1 }
    steps := emulator.steps + 1 }

/-- Runs one line; the place in the program has moved on before the line takes effect. -/
def step (emulator : Emulator) (line : String) : Emulator × Ending Unit :=
  if Listing.isPassive line then (emulator.advance, .done ())
  else
    andThen (emulator.advance.executeLine line) fun emulator found =>
      if found then (emulator, .done ()) else emulator.report "Unsupported opcode."

/-- Runs at most the given number of lines. -/
def runFor : Nat → Emulator → Emulator × Ending Value
  | fuel, emulator =>
    match emulator.nextLine? with
    | none => (emulator, .done emulator.machine.result)
    | some line =>
      match fuel with
      | 0 => (emulator, .outOfSteps)
      | fuel + 1 => andThen (emulator.step line) fun emulator _ => runFor fuel emulator

/-- The emulator after each line that `runFor` runs. -/
def statesFor : Nat → Emulator → List Emulator
  | 0, _ => []
  | fuel + 1, emulator =>
    match emulator.nextLine? with
    | none => []
    | some line =>
      match emulator.step line with
      | (emulator, .done _) => emulator :: statesFor fuel emulator
      | (emulator, _) => [emulator]

/-- Prepares a run of a listing on a machine. -/
def start (emulator : Emulator) (lines : List String) (machine : Machine) (tracing : Bool) :
    Emulator × Ending Unit :=
  declare { emulator with
    source := some lines, machine := machine, steps := 0, tracing := tracing, shared := [] }

/-- Runs a listing on a machine. -/
def run (emulator : Emulator) (lines : List String) (machine : Machine) (tracing : Bool)
    (limit : Nat) : Emulator × Ending Value :=
  match checkLines lines with
  | .error cause => (emulator, .raised cause)
  | .ok lines =>
    andThen (emulator.start lines machine tracing) fun emulator _ => runFor limit emulator

/-- Runs the listing in a text file on a machine. -/
def runFile (emulator : Emulator) (content : String) (machine : Machine) (tracing : Bool)
    (limit : Nat) : Emulator × Ending Value :=
  emulator.run (Text.lines content) machine tracing limit

/-- More lines than any run can have. -/
def unlimited : Nat := 0x4000000000000000

end Emulator

end Dalvik
