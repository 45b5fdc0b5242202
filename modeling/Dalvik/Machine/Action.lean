import Dalvik.Machine.Basic

/-!
Actions on the machine. An action gives a value or halts; the machine is then as the action left it,
so that one which halts half way has done the first half.
-/

namespace Dalvik

abbrev Action := EStateM Halt Machine

namespace Action

variable {α : Type}

/-- The outcome of something that does not touch the machine. -/
def ofExcept : Except Halt α → Action α
  | .ok value => pure value
  | .error halt => throw halt

instance : MonadLift (Except Halt) Action where
  monadLift := ofExcept

/-! ### Registers and results -/

def fetch (register : String) : Action Value := do
  (← get).read register

def store (register : String) (value : Value) : Action Unit :=
  modify (·.write register value)

/-- Writes a register with a value that was made in a larger store. -/
def storeFrom (register : String) (made : Value × Heap) : Action Unit :=
  modify (·.writeFrom register made)

def give (value : Value) : Action Unit :=
  modify fun machine => { machine with result := value }

def giveFrom (made : Value × Heap) : Action Unit :=
  modify (·.giveFrom made)

def stop : Action Unit :=
  modify fun machine => { machine with stopped := true }

/-! ### The store of lists -/

/-- Takes over the store that a value was made in. -/
def install (made : Value × Heap) : Action Value := do
  modify fun machine => { machine with heap := made.2 }
  return made.1

/-- Changes lists in place. -/
def changeHeap (change : Heap → Except Fault Heap) : Action Unit := do
  let heap ← change (← get).heap
  modify fun machine => { machine with heap := heap }

/-! ### The place in the program -/

/-- Goes on at the line of a label. -/
def jump (label : String) : Action Unit := do
  match (← get).labels.get? label with
  | some line => modify fun machine => { machine with pc := line }
  | none => throw (.fault (.missing (Text.quote label)))

/-- Goes on at the handler of a block. -/
def enter (block : CatchBlock) : Action Unit :=
  match block.handler with
  | some label => jump label
  | none => throw (.fault (.missing "None"))

/-- Takes out the fault that was kept last. -/
def takePending : Action Thrown := do
  match (← get).pending.getLast? with
  | some thrown =>
    modify fun machine => { machine with pending := machine.pending.dropLast }
    return thrown
  | none => throw (.fault .emptyPop)

end Action

end Dalvik
