import Dalvik.Emulator.Run

/-!
Runs in which the program may share lists with its emulator. The names in a written expression
reach the machine itself, and through it the blocks, the faults that are kept and the lines of the
listing. A register that is given one of these holds the very list that the emulator goes by: what
is put into it later changes where faults are handed to, which faults are kept, or what is run. All
other lines are run as `step` runs them.
-/

namespace Dalvik

namespace Expr

/-- The emulator's list that an expression reads off the machine. -/
def ownList? : Expr → Option OwnList
  | .member (.name "vm") "catch_blocks" => some .blocks
  | .member (.name "vm") "exceptions" => some .pending
  | .member (.member (.member (.name "vm") "emu") "source") "lines" => some .lines
  | _ => none

/-- The emulator's list that is the value of an expression, where it is one. -/
def reached? (scope : Scope) (heap : Heap) : Expr → Option OwnList
  | .both left right =>
    match left.eval scope heap with
    | .ok (value, heap) => if value.truth heap then right.reached? scope heap else none
    | .error _ => none
  | .either left right =>
    match left.eval scope heap with
    | .ok (value, heap) => if value.truth heap then none else right.reached? scope heap
    | .error _ => none
  | .choice test yes no =>
    match test.eval scope heap with
    | .ok (value, heap) =>
      if value.truth heap then yes.reached? scope heap else no.reached? scope heap
    | .error _ => none
  | expr => expr.ownList?

end Expr

/-- The register that an instruction gives one of the emulator's lists, and which. -/
def Instruction.reached? (machine : Machine) (instruction : Instruction) :
    Option (String × OwnList) :=
  match instruction with
  | .literalArithmetic _ target source literal => do
    let expr ← (instruction.evaluated? machine).bind Expr.ofString
    let list ← expr.reached? (writtenScope target source literal) machine.heap
    return (target, list)
  | _ => none

/-- A block as a value. -/
def CatchBlock.store (heap : Heap) (block : CatchBlock) : Value × Heap :=
  heap.newTuple [.int block.first, .int block.last, (block.handler.map .text).getD .null]

def CatchBlock.storeAll (heap : Heap) : List CatchBlock → List Value × Heap
  | [] => ([], heap)
  | block :: rest =>
    let (value, heap) := block.store heap
    let (values, heap) := storeAll heap rest
    (value :: values, heap)

/-- The block that a value stands for. -/
def CatchBlock.ofValue? (heap : Heap) : Value → Option CatchBlock
  | .tuple ref =>
    match heap.items ref with
    | [.int first, .int last, .text handler] => some ⟨first, last, handler⟩
    | [.int first, .int last, .null] => some ⟨first, last, none⟩
    | _ => none
  | _ => none

def Thrown.toValue (thrown : Thrown) : Value :=
  .raised thrown.cause thrown.serial

def Thrown.ofValue? : Value → Option Thrown
  | .raised cause serial => some ⟨cause, serial⟩
  | _ => none

namespace Emulator

/-- The items of one of the emulator's lists. -/
def ownItems (emulator : Emulator) : OwnList → List Value × Heap
  | .blocks => CatchBlock.storeAll emulator.machine.heap emulator.machine.catchBlocks
  | .pending => (emulator.machine.pending.map Thrown.toValue, emulator.machine.heap)
  | .lines => ((emulator.source.getD []).map .text, emulator.machine.heap)

/-- Gives a register one of the emulator's lists. -/
def lend (emulator : Emulator) (register : String) (list : OwnList) : Emulator :=
  match emulator.shared.find? (·.list = list) with
  | some share =>
    { emulator with machine := emulator.machine.write register (.list share.ref) }
  | none =>
    let (items, heap) := emulator.ownItems list
    let (ref, heap) := heap.alloc items
    { emulator with
      machine := emulator.machine.writeFrom register (.list ref, heap)
      shared := ⟨ref, list⟩ :: emulator.shared }

/-- Goes by the items that a shared list has now. A list with an item that the emulator can make
nothing of is left aside. -/
def adopt (emulator : Emulator) (share : Share) : Emulator :=
  let machine := emulator.machine
  let items := machine.heap.items share.ref
  match share.list with
  | .blocks =>
    let blocks := (items.mapM (CatchBlock.ofValue? machine.heap)).getD machine.catchBlocks
    { emulator with machine := { machine with catchBlocks := blocks } }
  | .pending =>
    let pending := (items.mapM Thrown.ofValue?).getD machine.pending
    { emulator with machine := { machine with pending := pending } }
  | .lines =>
    let lines := items.mapM fun
      | .text line => some line
      | _ => none
    { emulator with source := lines.or emulator.source }

/-- Brings shared lists up to date after a line. Faults that the emulator has kept or handed out are
in the list, and everything else comes from the list. -/
def reconcile (before after : Emulator) : Emulator :=
  after.shared.foldl (fun emulator share =>
    if share.list = .pending ∧ after.machine.pending ≠ before.machine.pending then
      let items := after.machine.pending.map Thrown.toValue
      { emulator with machine := { emulator.machine with
          heap := emulator.machine.heap.write share.ref items } }
    else emulator.adopt share) after

namespace Shared

/-- Executes the instruction that was read from a line, if any; tells whether there was one. -/
def attempt (emulator : Emulator) (line : String) (instruction? : Option Instruction) :
    Emulator × Ending Bool :=
  match instruction?.bind (·.reached? emulator.machine) with
  | some (register, list) => ((emulator.trace line).lend register list, .done true)
  | none =>
    let (after, ending) := emulator.attempt line instruction?
    (emulator.reconcile after, ending)

/-- Executes a line if it has the given form. -/
def executeForm (emulator : Emulator) (form : Form) (line : String) : Emulator × Ending Bool :=
  attempt emulator line (form.read? line)

/-- Executes a line by the first form that it has. -/
def executeLine (emulator : Emulator) (line : String) : Emulator × Ending Bool :=
  attempt emulator line (Instruction.ofLine? line)

/-- Runs one line; the place in the program has moved on before the line takes effect. -/
def step (emulator : Emulator) (line : String) : Emulator × Ending Unit :=
  if Listing.isPassive line then (emulator.advance, .done ())
  else
    andThen (executeLine emulator.advance line) fun emulator found =>
      if found then (emulator, .done ()) else emulator.report "Unsupported opcode."

/-- Runs at most the given number of lines. -/
def runFor : Nat → Emulator → Emulator × Ending Value
  | fuel, emulator =>
    match emulator.nextLine? with
    | none => (emulator, .done emulator.machine.result)
    | some line =>
      match fuel with
      | 0 => (emulator, .outOfSteps)
      | fuel + 1 => andThen (step emulator line) fun emulator _ => runFor fuel emulator

/-- The emulator after each line that `runFor` runs. -/
def statesFor : Nat → Emulator → List Emulator
  | 0, _ => []
  | fuel + 1, emulator =>
    match emulator.nextLine? with
    | none => []
    | some line =>
      match step emulator line with
      | (emulator, .done _) => emulator :: statesFor fuel emulator
      | (emulator, _) => [emulator]

/-- Runs a listing on a machine. -/
def run (emulator : Emulator) (lines : List String) (machine : Machine) (tracing : Bool)
    (limit : Nat) : Emulator × Ending Value :=
  match checkLines lines with
  | .error cause => (emulator, .raised cause)
  | .ok lines =>
    andThen (emulator.start lines machine tracing) fun emulator _ => runFor limit emulator

/-- Runs the listing in a text file on a machine. -/
def runFile (emulator : Emulator) (content : String) (machine : Machine) (tracing : Bool)
    (limit : Nat) : Emulator × Ending Value :=
  run emulator (Text.lines content) machine tracing limit

end Shared

end Emulator

end Dalvik
