import Dalvik.Emulator.Shared

/-!
Measured runs: what a listing computes, and in how many steps.
-/

namespace Dalvik.Benchmark

/-- A run that came to its end. -/
structure Measured where
  result : Datum
  machine : Machine
  steps : Nat

/-- Steps that are enough for a listing with a body of at most sixty lines to count up to `n`. -/
def stepsFor (n : Int) : Nat :=
  64 * (n.natAbs + 2)

/-- Runs a listing that counts up to `n`, with the given registers; `none` if it does not come to
its end. -/
def measure (lines : List String) (n : Int) (registers : Table Datum) : Option Measured :=
  let machine := ({} : Machine).load (("p0", .int n) :: registers)
  match Emulator.Shared.run {} lines machine false (stepsFor n) with
  | (emulator, .done value) =>
    some ⟨emulator.machine.heap.view value, emulator.machine, emulator.steps⟩
  | _ => none

/-- What a register holds at the end of a run. -/
def Measured.register? (measured : Measured) (register : String) : Option Datum :=
  (measured.machine.registers.get? register).map measured.machine.heap.view

end Dalvik.Benchmark
