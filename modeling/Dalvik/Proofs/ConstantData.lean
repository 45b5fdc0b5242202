import Dalvik.Proofs.DeclaredTables
import Dalvik.Proofs.InstructionFrame
import Dalvik.Proofs.ProgramCounter

/-!
# Constant data along a run

The table of constant data never changes: each name keeps the list that was made for it. The list
itself is handed out, and not a copy of it, so that it keeps the declared elements only as long as
no instruction puts an item into it or appends to it.
-/

namespace Dalvik.Emulator

open Listing Instruction

variable {emulator : Emulator} {line : String} {ref : Ref}

/-- The line that is run next completes and changes a list in place. -/
def ChangesList (emulator : Emulator) (ref : Ref) : Prop :=
  ∃ line instruction after, emulator.nextLine? = some line ∧ isPassive line = false ∧
    Instruction.ofLine? line = some instruction ∧
    instruction.outcome emulator.advance.machine = .ok after ∧
    instruction.changed? emulator.advance.machine = some (.list ref)

/-! ### One line -/

/-- A line that does not change a list in place leaves its items. -/
theorem step_items (hline : emulator.nextLine? = some line)
    (hlt : ref < emulator.machine.heap.sequences.size) (hsame : ¬emulator.ChangesList ref) :
    (emulator.step line).1.machine.heap.items ref = emulator.machine.heap.items ref ∧
      ref < (emulator.step line).1.machine.heap.sequences.size := by
  rcases step_idle_or_executes hline with ⟨-, hidle⟩ | ⟨instruction, hexecutes⟩
  · rw [hidle]
    exact ⟨rfl, hlt⟩
  · rw [hexecutes.step_eq]
    cases houtcome : instruction.outcome emulator.advance.machine with
    | ok machine =>
        have hkeeps := (outcome_frame houtcome).heap
        refine ⟨hkeeps.items ref hlt fun hchanged => ?_, hlt.trans_le hkeeps.sequences_size⟩
        exact hsame ⟨line, instruction, machine, hline, hexecutes.active, hexecutes.read, houtcome,
          hchanged⟩
    | error halt =>
        rw [settle_error_machine, trace_machine]
        exact ⟨rfl, hlt⟩

/-! ### Runs -/

theorem runFor_items {started : Emulator} (hlt : ref < started.machine.heap.sequences.size)
    (limit : Nat) (hsame : ∀ earlier < limit, ¬(runFor earlier started).1.ChangesList ref) :
    (runFor limit started).1.machine.heap.items ref = started.machine.heap.items ref ∧
      ref < (runFor limit started).1.machine.heap.sequences.size := by
  induction limit with
  | zero =>
      have hstate : (runFor 0 started).1 = started := by
        rw [runFor]
        split <;> rfl
      rw [hstate]
      exact ⟨rfl, hlt⟩
  | succ limit ih =>
      obtain ⟨hitems, hstored⟩ := ih fun earlier hearlier => hsame earlier (by omega)
      rcases runFor_last limit started with hstate | ⟨line, hline, hstate⟩
      · rw [hstate]
        exact ⟨hitems, hstored⟩
      · rw [hstate]
        obtain ⟨hkept, hstill⟩ := step_items hline hstored (hsame limit (Nat.lt_succ_self limit))
        exact ⟨hkept.trans hitems, hstill⟩

theorem runFor_tables (started : Emulator) (limit : Nat) :
    started.machine.SameTables (runFor limit started).1.machine := by
  refine statesFor_induction (motive := fun state => started.machine.SameTables state.machine)
    ?_ limit ⟨rfl, rfl, rfl, rfl⟩ _ (runFor_mem_states limit started)
  intro current line hcurrent _
  exact hcurrent.trans (step_tables current line).2

/-- A line that fills an array binds the register to the list of the table. -/
theorem step_fillArray {target label : String} {data : DataArray}
    (hactive : isPassive line = false)
    (hread : Instruction.ofLine? line = some (.fillArray target label))
    (hdata : emulator.machine.arrays.get? label = some data) :
    ∃ after, emulator.step line = (after, .done ()) ∧
      after.machine.registers.get? target = some (.list data.elements) ∧
      after.machine.heap = emulator.machine.heap := by
  have houtcome : (Instruction.fillArray target label).outcome emulator.advance.machine =
      .ok (emulator.advance.machine.write target (.list data.elements)) := by
    have hadvance : emulator.advance.machine.arrays.get? label = some data := hdata
    simp only [outcome, hadvance]
    rfl
  rw [step_eq_settle emulator hactive hread, houtcome]
  exact ⟨_, rfl, Table.get?_insert_self _ target _, rfl⟩

/-- **Constant data.** As long as the texts that a run evaluates are self-contained, the table of
constant data is the one that was declared, a list keeps the items it began with unless a line
changes it in place, and a line that fills an array hands out the list of the table itself. -/
theorem run_constantData (emulator : Emulator) (lines : List String) (arguments : Table Datum)
    (tracing : Bool) (label : String) (data : DataArray)
    (hdone : (emulator.start lines (({} : Machine).load arguments) tracing).2 = .done ())
    (hdata : (emulator.start lines (({} : Machine).load arguments) tracing).1.machine.arrays.get?
      label = some data) :
    let started := (emulator.start lines (({} : Machine).load arguments) tracing).1
    (∃ index, LastOutside (lines.map Text.strip) label index ∧
      ArrayDeclared started.machine.heap ((lines.map Text.strip).drop (index + 1)) data) ∧
    ∀ limit, Confined limit started →
      let state := (Shared.runFor limit started).1
      state.machine.arrays = started.machine.arrays ∧
      (∀ ref < started.machine.heap.sequences.size,
        (∀ earlier < limit, ¬(Shared.runFor earlier started).1.ChangesList ref) →
        state.machine.heap.items ref = started.machine.heap.items ref) ∧
      ∀ line target, state.nextLine? = some line → isPassive line = false →
        Instruction.ofLine? line = some (.fillArray target label) →
        ∃ after, Shared.step state line = (after, .done ()) ∧
          after.machine.registers.get? target = some (.list data.elements) ∧
          after.machine.heap = state.machine.heap := by
  intro started
  obtain ⟨declared, hscan, hstart⟩ := start_eq_of_done hdone
  have htables : DeclaredTables (lines.map Text.strip) started.machine := by
    rw [show started = _ from hstart]
    exact scan_declaredTables hscan
  constructor
  · have hname : label ∈ started.machine.arrays.names :=
      (Table.get?_isSome_iff _ _).mp (by simp [started, hdata])
    obtain ⟨-, index, hlast⟩ := (htables.array_iff label).mp hname
    exact ⟨index, hlast, htables.array_declared label data index hdata hlast⟩
  · intro limit hconfined state
    have hshared : started.shared = [] := start_shared _ _ _ _
    have hrun : ∀ earlier ≤ limit, Shared.runFor earlier started = runFor earlier started :=
      fun earlier hle => ((hconfined.of_le hle).agrees hshared).run
    have hstate : state = (runFor limit started).1 := congrArg Prod.fst (hrun limit le_rfl)
    have harrays : state.machine.arrays = started.machine.arrays := by
      rw [hstate]
      exact (runFor_tables started limit).arrays
    refine ⟨harrays, fun ref hlt hsame => ?_, fun line target hline hactive hread => ?_⟩
    · rw [hstate]
      refine (runFor_items hlt limit fun earlier hearlier => ?_).1
      rw [← hrun earlier hearlier.le]
      exact hsame earlier hearlier
    · have hnothing : state.shared = [] := by
        rw [hstate]
        exact (hconfined.agrees hshared).shared _ (runFor_mem_states limit started)
      have hself : state.evaluatesSelfContained = true := by
        rw [evaluatesSelfContained, hline, Option.bind_some, hread]
        rfl
      rw [Shared.step_eq hnothing hline hself]
      exact step_fillArray hactive hread (harrays ▸ hdata)

/-- A first item is overwritten between two lines that fill an array with the same data. -/
def refillingListing : List String := [
  "const v1, 9", "const v2, 0", "fill-array-data v0, :array_0", "aput v1, v0, v2",
  "fill-array-data v3, :array_0", "return-object v3", ":array_0", ".array-data 4", "1", "2",
  ".end array-data"]

theorem run_constantData_refillingListing :
    let start := Emulator.start {} refillingListing (({} : Machine).load []) false
    (start.2 = .done () ∧ Confined 3 start.1) ∧
    ∃ data, start.1.machine.arrays.get? ":array_0" = some data ∧
      (∃ index, LastOutside (refillingListing.map Text.strip) ":array_0" index ∧
        ArrayDeclared start.1.machine.heap
          ((refillingListing.map Text.strip).drop (index + 1)) data) ∧
      ∀ ref < start.1.machine.heap.sequences.size,
        (∀ earlier < 3, ¬(Shared.runFor earlier start.1).1.ChangesList ref) →
        (Shared.runFor 3 start.1).1.machine.heap.items ref = start.1.machine.heap.items ref := by
  have hfacts : ((Emulator.start {} refillingListing (({} : Machine).load []) false).2 =
          .done () ∧
        Confined 3 (Emulator.start {} refillingListing (({} : Machine).load []) false).1) ∧
      ((Emulator.start {} refillingListing (({} : Machine).load []) false).1.machine.arrays.get?
        ":array_0").isSome = true := by
    decide +kernel
  obtain ⟨⟨hdone, hconfined⟩, hdeclared⟩ := hfacts
  obtain ⟨data, hdata⟩ := Option.isSome_iff_exists.mp hdeclared
  obtain ⟨hplace, hruns⟩ :=
    run_constantData {} refillingListing [] false ":array_0" data hdone hdata
  exact ⟨⟨hdone, hconfined⟩, data, hdata, hplace, (hruns 3 hconfined).2.1⟩

/-- The numbers in a list. -/
def numbersIn (heap : Heap) : Option Value → Option (List (Option Int))
  | some (.list ref) => some ((heap.items ref).map Value.asInt?)
  | _ => none

/-- The elements of constant data, as the machine has them. -/
def elementsOf (machine : Machine) (label : String) : Option (List (Option Int)) :=
  numbersIn machine.heap ((machine.arrays.get? label).map fun data => .list data.elements)

/-- The item that was put into the array is in the constant data as well, and the second array is
filled with it. -/
theorem refillingListing_overwrites_data :
    let start := Emulator.start {} refillingListing (({} : Machine).load []) false
    start.2 = .done () ∧
      elementsOf start.1.machine ":array_0" = some [some 1, some 2] ∧
      elementsOf (Shared.runFor 4 start.1).1.machine ":array_0" = some [some 9, some 2] ∧
      numbersIn (Shared.runFor 5 start.1).1.machine.heap
        ((Shared.runFor 5 start.1).1.machine.registers.get? "v3") = some [some 9, some 2] := by
  decide +kernel

end Dalvik.Emulator
