import Dalvik.Library.Basic
import Dalvik.Value.Show

/-!
The state of the machine that runs a program: registers, the store of lists, the tables that the
listing declares, faults that were raised and not yet taken, and the place in the program.
-/

namespace Dalvik

/-- Lines `first` to `last` hand their faults to a handler. -/
structure CatchBlock where
  first : Int
  last : Int
  handler : Option String
deriving DecidableEq, Repr

/-- Cases of a switch; the first one belongs to the value `first`, the next to its successor. -/
structure Switch where
  first : Value
  cases : List String

/-- Constant data; the elements are a list of the store. -/
structure DataArray where
  width : Value
  elements : Ref

/-- A fault that was raised, told apart from others like it by a serial number. -/
structure Thrown where
  cause : Fault
  serial : Nat
deriving DecidableEq, Repr

structure Machine where
  registers : Table Value := []
  heap : Heap := {}
  labels : Table Int := []
  catchBlocks : List CatchBlock := []
  switches : Table Switch := []
  arrays : Table DataArray := []
  /-- Faults not yet taken by a handler, the oldest first. -/
  pending : List Thrown := []
  thrownCount : Nat := 0
  /-- What the last method call or the return statement gave. -/
  result : Value := .null
  stopped : Bool := false
  pc : Int := 0
  library : Library := Library.standard

/-- Why an instruction does not complete: a fault, which the program may catch, or something that
the machine cannot do at all. -/
inductive Halt where
  | fault (cause : Fault)
  | fatal (message : String)
deriving DecidableEq, Repr

/-- A fault stops an instruction. -/
instance : MonadLift (Except Fault) (Except Halt) where
  monadLift
    | .ok value => .ok value
    | .error cause => .error (.fault cause)

namespace Machine

def read (machine : Machine) (register : String) : Except Fault Value :=
  match machine.registers.get? register with
  | some value => .ok value
  | none => .error (.missing (Text.quote register))

def write (machine : Machine) (register : String) (value : Value) : Machine :=
  { machine with registers := machine.registers.insert register value }

/-- Writes a register with a value that lives in a changed store. -/
def writeFrom (machine : Machine) (register : String) : Value × Heap → Machine
  | (value, heap) => { machine with heap := heap }.write register value

def giveFrom (machine : Machine) : Value × Heap → Machine
  | (value, heap) => { machine with heap := heap, result := value }

/-- Keeps a fault for a handler to take. -/
def keep (machine : Machine) (cause : Fault) : Machine :=
  { machine with
    pending := machine.pending ++ [⟨cause, machine.thrownCount⟩]
    thrownCount := machine.thrownCount + 1 }

def covers (block : CatchBlock) (line : Int) : Bool :=
  block.first ≤ line && line ≤ block.last

/-- The first block around the current line. -/
def catcher? (machine : Machine) : Option CatchBlock :=
  machine.catchBlocks.find? (covers · machine.pc)

end Machine

end Dalvik
