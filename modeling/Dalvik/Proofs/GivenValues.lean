import Dalvik.Proofs.LiteralForms

/-!
# What a line gives a register

An instruction that calculates gives its target one value, which may live in a larger store, and
does nothing else; or it throws a fault, and then no register changes. What the value is depends on
the values of the operands alone.
-/

namespace Dalvik

/-- The text that a register holds. -/
def Machine.textAt? (machine : Machine) (register : String) : Option String :=
  match machine.registers.get? register with
  | some (.text s) => some s
  | _ => none

namespace Emulator

/-- The emulator after a register was given a value, or after a fault was thrown instead. -/
def handOver (emulator : Emulator) (register : String) :
    Except Fault (Value × Heap) → Emulator × Ending Unit
  | .ok made => ({ emulator with machine := emulator.machine.writeFrom register made }, .done ())
  | .error cause => emulator.throw cause

/-- Executing the line gives the register the value or throws the fault, and does nothing else. -/
def Gives (emulator : Emulator) (line register : String) (result : Except Fault (Value × Heap)) :
    Prop :=
  emulator.executeLine line =
    andThen ((emulator.trace line).handOver register result) fun after _ => (after, .done true)

variable {emulator : Emulator} {line register : String}

/-- A register that is given a value holds it, and no fault is kept. -/
theorem Gives.of_ok {made : Value × Heap} (hgives : emulator.Gives line register (.ok made)) :
    (emulator.executeLine line).1.machine = emulator.machine.writeFrom register made ∧
      (emulator.executeLine line).2 = .done true := by
  rw [hgives]
  simp only [handOver, andThen, trace_machine, and_self]

theorem Gives.get?_of_ok {made : Value × Heap}
    (hgives : emulator.Gives line register (.ok made)) :
    (emulator.executeLine line).1.machine.registers.get? register = some made.1 := by
  rw [hgives.of_ok.1]
  exact Table.get?_insert_self ..

theorem andThen_machine {α β : Type} (result : Emulator × Ending α) (value : β) :
    (andThen result fun after _ => (after, .done value)).1.machine = result.1.machine := by
  obtain ⟨after, ending⟩ := result
  cases ending <;> rfl

/-- A fault that is thrown leaves the registers as they were, and is kept behind the others. -/
theorem Gives.of_error {cause : Fault} (hgives : emulator.Gives line register (.error cause)) :
    (emulator.executeLine line).1.machine.registers = emulator.machine.registers ∧
      (emulator.executeLine line).1.machine.pending =
        emulator.machine.pending ++ [⟨cause, emulator.machine.thrownCount⟩] := by
  rw [hgives, andThen_machine, handOver, throw_machine, trace_machine]
  exact ⟨rfl, rfl⟩

/-- A line gives a register at most one value. -/
theorem Gives.value_eq {result : Except Fault (Value × Heap)} {made : Value × Heap}
    (hgives : emulator.Gives line register result)
    (hmade : emulator.Gives line register (.ok made)) :
    ∃ given, result = .ok given ∧ given.1 = made.1 := by
  cases result with
  | ok given =>
      have hvalue := hgives.get?_of_ok.symm.trans hmade.get?_of_ok
      exact ⟨given, rfl, Option.some.inj hvalue⟩
  | error cause =>
      have hpending := hgives.of_error.2
      rw [hmade.of_ok.1] at hpending
      have hlength := congrArg List.length hpending
      simp [Machine.writeFrom, Machine.write] at hlength

/-- Executing the line throws a fault, and does nothing else. -/
def Throws (emulator : Emulator) (line register : String) : Prop :=
  ∃ cause, emulator.Gives line register (.error cause)

/-- As `Gives`, where lists may be shared. -/
def Shared.Gives (emulator : Emulator) (line register : String)
    (result : Except Fault (Value × Heap)) : Prop :=
  Shared.executeLine emulator line =
    andThen ((emulator.trace line).handOver register result) fun after _ => (after, .done true)

theorem gives_of_read {instruction : Instruction} {result : Except Fault (Value × Heap)}
    (hread : Instruction.ofLine? line = some instruction)
    (houtcome : instruction.outcome emulator.machine =
      (result.mapError Halt.fault).map (emulator.machine.writeFrom register)) :
    emulator.Gives line register result := by
  rw [Gives, executeLine, hread, attempt, execute_eq_settle, trace_machine, houtcome]
  cases result with
  | ok made => rw [handOver, trace_machine]; rfl
  | error cause => rfl

theorem gives_print {statement : Statement} {result : Except Fault (Value × Heap)}
    (gaps : Nat → Gap)
    (houtcome : statement.instruction.outcome emulator.machine =
      (result.mapError Halt.fault).map (emulator.machine.writeFrom register)) :
    emulator.Gives (statement.print gaps) register result :=
  gives_of_read (Statement.ofLine?_print statement gaps) houtcome

/-! ### The instructions that calculate -/

theorem lift_ok_bind {α β : Type} (value : α) (next : α → Except Halt β) :
    ((liftM (Except.ok value : Except Fault α) : Except Halt α) >>= next) = next value := rfl

theorem lift_writeFrom (machine : Machine) (register : String)
    (result : Except Fault (Value × Heap)) :
    ((liftM result : Except Halt (Value × Heap)) >>= fun made =>
        pure (machine.writeFrom register made)) =
      (result.mapError Halt.fault).map (machine.writeFrom register) := by
  cases result <;> rfl

variable (gaps : Nat → Gap) {target source other literal : Token} {left right : Value}

theorem gives_arithmetic {operation : Arithmetic}
    (hsource : emulator.machine.registers.get? source.text = some left)
    (hother : emulator.machine.registers.get? other.text = some right) :
    emulator.Gives ((Statement.arithmetic operation target source other).print gaps) target.text
      (operation.apply emulator.machine.heap left right) := by
  apply gives_print
  rw [← lift_writeFrom]
  simp only [Statement.instruction, Instruction.outcome, Machine.read_eq_ok.mpr hsource,
    Machine.read_eq_ok.mpr hother, lift_ok_bind]

theorem gives_literalArithmetic (operation : LiteralArithmetic) (width : LiteralWidth) :
    emulator.Gives
      ((Statement.literalArithmetic operation width target source literal).print gaps) target.text
      (Instruction.literalResult emulator.machine operation target.text source.text
        literal.text) :=
  gives_print gaps (lift_writeFrom ..)

theorem gives_xorInto (twoAddresses : Bool)
    (htarget : emulator.machine.registers.get? target.text = some left)
    (hsource : emulator.machine.registers.get? source.text = some right) :
    emulator.Gives ((Statement.xorInto twoAddresses target source).print gaps) target.text
      (Instruction.numberOrCode right >>= left.xorInPlace emulator.machine.heap) := by
  apply gives_print
  rw [← lift_writeFrom]
  simp only [Statement.instruction, Instruction.outcome, Machine.read_eq_ok.mpr htarget,
    Machine.read_eq_ok.mpr hsource, lift_ok_bind]
  cases Instruction.numberOrCode right <;> rfl

end Emulator

end Dalvik
