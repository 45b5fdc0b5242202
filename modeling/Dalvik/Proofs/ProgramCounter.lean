import Dalvik.Proofs.DeclaredTables
import Dalvik.Proofs.GuardedBlocks
import Dalvik.Proofs.SharedRuns
import Dalvik.Proofs.Steps

/-!
# The place in the program

Every state of a run stands on a line of the listing or right behind the last one, with the tables
that were declared at the start. A line goes on with the next one, or at a label: the one that its
instruction leads to, or the handler of the block that takes its fault. A label is always the text
of the line that it leads to.
-/

namespace Dalvik.Emulator

variable {emulator : Emulator} {line label : String}

/-- The line makes the program go on at a label; the emulator has moved on already. -/
inductive Transfers (moved : Emulator) (line label : String) : Prop where
  | taken {instruction : Instruction} (hactive : Listing.isPassive line = false)
      (hread : Instruction.ofLine? line = some instruction)
      (hdestination : instruction.destination moved.machine = .ok (some label))
  | caught {instruction : Instruction} {raised : Emulator} {cause : Fault} {block : CatchBlock}
      (hactive : Listing.isPassive line = false)
      (hread : Instruction.ofLine? line = some instruction)
      (hraised : (moved.trace line).perform instruction.execute = (raised, .raised cause))
      (hblock : moved.machine.catcher? = some block) (hhandler : block.handler = some label)

/-- A number is that of a line with the given text. -/
def OnLine (lines : List String) (number : Int) (text : String) : Prop :=
  ∃ index : Nat, number = index ∧ lines[index]? = some text

/-- A state stands in its program, and the tables fit the lines. -/
structure InProgram (lines : List String) (started : Machine) (state : Emulator) : Prop where
  source : state.source = some lines
  nonneg : 0 ≤ state.machine.pc
  le_length : state.machine.pc ≤ lines.length
  label_line : ∀ label number, state.machine.labels.get? label = some number →
    OnLine lines number label
  block_range : ∀ block ∈ state.machine.catchBlocks,
    0 ≤ block.first ∧ block.first < block.last ∧ block.last < lines.length
  tables : started.SameTables state.machine

/-- A state stands in its program and finds the line to run next. If this line evaluates no text that
is not self-contained, the state goes on with the next line or on the line of a label that it
transfers to. -/
structure KeepsPlace (lines : List String) (started : Machine) (state : Emulator) : Prop
    extends InProgram lines started state where
  fetch : state.machine.stopped = false → state.machine.pc < lines.length →
    ∃ line, OnLine lines state.machine.pc line ∧ state.nextLine? = some line ∧
      state.lineAt state.machine.pc = .ok line
  next : state.evaluatesSelfContained = true → ∀ line, state.nextLine? = some line →
    (Shared.step state line).1.machine.pc = state.machine.pc + 1 ∨
      ∃ label, Transfers state.advance line label ∧
        OnLine lines (Shared.step state line).1.machine.pc label
  transfer : state.evaluatesSelfContained = true → ∀ line label,
    state.nextLine? = some line → Transfers state.advance line label →
    (state.machine.labels.get? label).isSome = true →
    (Shared.step state line).2 = .done () ∧
      OnLine lines (Shared.step state line).1.machine.pc label

/-! ### One line -/

/-- A line leaves the listing and its tables alone. -/
theorem step_tables (emulator : Emulator) (line : String) :
    (emulator.step line).1.source = emulator.source ∧
      emulator.machine.SameTables (emulator.step line).1.machine := by
  obtain ⟨after, ending, hstep, hsource, hcases⟩ := step_cases emulator line
  rw [hstep]
  refine ⟨hsource, ?_⟩
  rcases hcases with hmachine | ⟨instruction, -, -, hcourse⟩
  · rw [hmachine]
    exact ⟨rfl, rfl, rfl, rfl⟩
  · have hadvance : emulator.machine.SameTables emulator.advance.machine := ⟨rfl, rfl, rfl, rfl⟩
    cases hcourse with
    | stays hplace => exact hadvance.trans hplace.toSameTables
    | goes _ _ hmachine =>
        rw [hmachine]
        exact ⟨rfl, rfl, rfl, rfl⟩
    | faults _ _ hmachine =>
        rw [hmachine]
        exact ⟨rfl, rfl, rfl, rfl⟩

/-- A line goes on with the next one, or at a label that it transfers to. -/
theorem step_pc (emulator : Emulator) (line : String) :
    (emulator.step line).1.machine.pc = emulator.machine.pc + 1 ∨
      ∃ label index, Transfers emulator.advance line label ∧
        emulator.machine.labels.get? label = some index ∧
        (emulator.step line).1.machine.pc = index := by
  obtain ⟨after, ending, hstep, -, hcases⟩ := step_cases emulator line
  rw [hstep]
  rcases hcases with hmachine | ⟨instruction, hactive, hread, hcourse⟩
  · left
    rw [hmachine]
    rfl
  · cases hcourse with
    | stays hplace => exact Or.inl hplace.pc
    | goes hdestination hindex hmachine =>
        exact Or.inr ⟨_, _, .taken hactive hread hdestination, hindex, by rw [hmachine]⟩
    | faults hraised _ _ hhanded =>
        cases hhanded with
        | caught hblock hlabel hindex hpc =>
            exact Or.inr ⟨_, _, .caught hactive hread hraised hblock hlabel, hindex, hpc⟩
        | astray _ _ hpc => exact Or.inl hpc
        | unhandled _ hpc => exact Or.inl hpc
        | unreported _ hpc => exact Or.inl hpc
        | untold _ hpc => exact Or.inl hpc

/-- A transfer to a label that is declared arrives there. -/
theorem Transfers.step_eq {index : Int} (htransfers : Transfers emulator.advance line label)
    (hindex : emulator.machine.labels.get? label = some index) :
    (emulator.step line).1.machine.pc = index ∧ (emulator.step line).2 = .done () := by
  cases htransfers with
  | taken hactive hread hdestination =>
      obtain ⟨after, ending, hstep, -, hcourse⟩ := step_of_read emulator hactive hread
      rw [hstep]
      cases hcourse with
      | stays _ hnowhere => exact absurd hindex (hnowhere _ _ hdestination)
      | goes hsame hfound hmachine =>
          cases hsame.symm.trans hdestination
          rw [hmachine]
          exact ⟨Option.some.inj (hfound.symm.trans hindex), rfl⟩
      | faults _ hnowhere => exact absurd hindex (hnowhere _ _ hdestination)
  | caught hactive hread hraised hblock hhandler =>
      obtain ⟨after, ending, hstep, -, hcourse⟩ := step_of_read emulator hactive hread
      rw [hstep]
      cases hcourse with
      | stays _ _ hnot => exact absurd hraised (hnot _ _)
      | goes _ _ _ hnot => exact absurd hraised (hnot _ _)
      | faults _ _ _ hhanded =>
          cases hhanded with
          | caught hfirst hlabel hfound hpc =>
              cases hfirst.symm.trans hblock
              cases hlabel.symm.trans hhandler
              exact ⟨hpc.trans (Option.some.inj (hfound.symm.trans hindex)), rfl⟩
          | astray hfirst hlabel _ =>
              cases hfirst.symm.trans hblock
              cases (hlabel _ hhandler).symm.trans hindex
          | unhandled hnone => cases hnone.symm.trans hblock
          | unreported hnone => cases hnone.symm.trans hblock
          | untold hnone => cases hnone.symm.trans hblock

/-! ### Whole runs -/

variable {lines : List String} {started : Machine} {state : Emulator}

theorem OnLine.le_length {number : Int} {text : String} (honLine : OnLine lines number text) :
    0 ≤ number ∧ number < lines.length := by
  obtain ⟨index, rfl, hline⟩ := honLine
  have hlt := (List.getElem?_eq_some_iff.mp hline).1
  omega

theorem InProgram.onLine_of_nextLine? (hin : InProgram lines started state)
    (hline : state.nextLine? = some line) : OnLine lines state.machine.pc line := by
  obtain ⟨index, hpc, found, hsource, hfound⟩ := nextLine?_eq_some hline
  cases hsource.symm.trans hin.source
  exact ⟨index, hpc, hfound⟩

theorem InProgram.step (hin : InProgram lines started state)
    (hline : state.nextLine? = some line) : InProgram lines started (state.step line).1 := by
  obtain ⟨hsource, htables⟩ := step_tables state line
  have hpc : 0 ≤ (state.step line).1.machine.pc ∧
      (state.step line).1.machine.pc ≤ lines.length := by
    have hrange := (hin.onLine_of_nextLine? hline).le_length
    rcases step_pc state line with hnext | ⟨label, number, -, hnumber, hpc⟩
    · omega
    · have htarget := (hin.label_line label number hnumber).le_length
      omega
  refine ⟨hsource.trans hin.source, hpc.1, hpc.2, ?_, ?_, hin.tables.trans htables⟩
  · rw [htables.labels]
    exact hin.label_line
  · rw [htables.catchBlocks]
    exact hin.block_range

theorem InProgram.keepsPlace (hin : InProgram lines started state)
    (hshared : state.shared = []) : KeepsPlace lines started state := by
  refine ⟨hin, fun hrunning hlt => ?_, fun hself line hline => ?_,
    fun hself line label hline htransfers hsome => ?_⟩
  · obtain ⟨index, hpc⟩ := Int.eq_ofNat_of_zero_le hin.nonneg
    have hindex : index < lines.length := by omega
    have hline : lines[index]? = some lines[index] := List.getElem?_eq_getElem hindex
    refine ⟨lines[index], ⟨index, hpc, hline⟩, ?_, ?_⟩
    · simp [nextLine?, hrunning, hin.source, hpc, hline]
    · rw [hpc]
      exact lineAt_of_getElem? hin.source hline
  · rw [Shared.step_eq hshared hline hself]
    rcases step_pc state line with hnext | ⟨label, number, htransfers, hnumber, hpc⟩
    · exact Or.inl hnext
    · exact Or.inr ⟨label, htransfers, hpc ▸ hin.label_line label number hnumber⟩
  · rw [Shared.step_eq hshared hline hself]
    obtain ⟨number, hnumber⟩ := Option.isSome_iff_exists.mp hsome
    obtain ⟨hpc, hdone⟩ := htransfers.step_eq hnumber
    exact ⟨hdone, hpc ▸ hin.label_line label number hnumber⟩

theorem inProgram_start {arguments : Table Datum} {tracing : Bool}
    (hdone : (emulator.start lines (({} : Machine).load arguments) tracing).2 = .done ()) :
    InProgram (lines.map Text.strip)
      (emulator.start lines (({} : Machine).load arguments) tracing).1.machine
      (emulator.start lines (({} : Machine).load arguments) tracing).1 := by
  obtain ⟨declared, hscan, hstart⟩ := start_eq_of_done hdone
  have hload := Machine.load_frame {} arguments
  have hpc : declared.pc = 0 := by
    rw [(Listing.scan_frame hscan).2, hload]
  rw [hstart]
  refine ⟨rfl, Int.le_of_eq hpc.symm, ?_, ?_, ?_, ⟨rfl, rfl, rfl, rfl⟩⟩
  · simp only [hpc]
    omega
  · intro label number hnumber
    obtain ⟨-, index, hindex, hlast⟩ :=
      ((Listing.scan_declaredTables hscan).label_iff label number).mp hnumber
    exact ⟨index, hindex, hlast.line⟩
  · exact Listing.scan_catchBlocks_range (by rw [hload]) hscan

/-- Every state of a run stands in the program. -/
theorem inProgram_of_mem_states {arguments : Table Datum} {tracing : Bool}
    (hdone : (emulator.start lines (({} : Machine).load arguments) tracing).2 = .done ())
    (limit : Nat) :
    ∀ state ∈ (emulator.start lines (({} : Machine).load arguments) tracing).1 ::
        statesFor limit (emulator.start lines (({} : Machine).load arguments) tracing).1,
      InProgram (lines.map Text.strip)
        (emulator.start lines (({} : Machine).load arguments) tracing).1.machine state :=
  statesFor_induction (fun _ _ hcurrent hline => hcurrent.step hline) limit (inProgram_start hdone)

/-- A state in which a run of a listing stops for want of steps stands in the program. -/
theorem inProgram_of_run {arguments : Table Datum} {tracing : Bool} {limit : Nat}
    (hreached : emulator.run lines (({} : Machine).load arguments) tracing limit =
      (state, .outOfSteps)) :
    InProgram (lines.map Text.strip)
      (emulator.start lines (({} : Machine).load arguments) tracing).1.machine state := by
  obtain ⟨hdone, hrun, -⟩ := run_eq_outOfSteps hreached
  have hmem := runFor_mem_states limit
    (emulator.start lines (({} : Machine).load arguments) tracing).1
  rw [hrun] at hmem
  exact inProgram_of_mem_states hdone limit state hmem

/-- Every state of a run of a listing keeps its place, the one in which the run ends among them, as
long as the texts that are evaluated are self-contained. -/
theorem run_keepsPlace (emulator : Emulator) (lines : List String) (arguments : Table Datum)
    (tracing : Bool) (limit : Nat)
    (hdone : (emulator.start lines (({} : Machine).load arguments) tracing).2 = .done ())
    (hconfined : Confined limit
      (emulator.start lines (({} : Machine).load arguments) tracing).1) :
    let started := (emulator.start lines (({} : Machine).load arguments) tracing).1
    (Shared.runFor limit started).1 ∈ started :: Shared.statesFor limit started ∧
      ∀ state ∈ started :: Shared.statesFor limit started,
        KeepsPlace (lines.map Text.strip) started.machine state := by
  intro started
  have hagrees : Agrees limit started := hconfined.agrees (start_shared _ _ _ _)
  constructor
  · rw [hagrees.run, hagrees.states]
    exact runFor_mem_states limit started
  · intro state hstate
    rw [hagrees.states] at hstate
    exact (inProgram_of_mem_states hdone limit state hstate).keepsPlace
      (hagrees.shared state hstate)

/-- A loop over the characters of a text, left by the fault behind the last one. -/
def charactersListing : List String := [
  "const/4 v0, 0x0", ":try_start_0", ":next",
  "  invoke-virtual \x7bp0, v0\x7d, Ljava/lang/String;->charAt(I)C", "add-int/lit8 v0, v0, 0x1",
  "goto :next", ":try_end_0", ".catch Ljava/lang/Exception; \x7b:try_start_0 .. :try_end_0\x7d :end",
  "", ":end", "return v0"]

theorem run_keepsPlace_charactersListing :
    let start := Emulator.start {} charactersListing (({} : Machine).load [("p0", .text "ab")]) false
    (start.2 = .done () ∧ Confined 99 start.1) ∧
      (Shared.statesFor 99 start.1).map (·.machine.pc) =
        [1, 2, 3, 4, 5, 2, 3, 4, 5, 2, 3, 9, 10, 11] ∧
      (Shared.runFor 99 start.1).1 ∈ start.1 :: Shared.statesFor 99 start.1 ∧
      ∀ state ∈ start.1 :: Shared.statesFor 99 start.1,
        KeepsPlace (charactersListing.map Text.strip) start.1.machine state := by
  have hfacts :
      let start :=
        Emulator.start {} charactersListing (({} : Machine).load [("p0", .text "ab")]) false
      (start.2 = .done () ∧ Confined 99 start.1) ∧
        (Shared.statesFor 99 start.1).map (·.machine.pc) =
          [1, 2, 3, 4, 5, 2, 3, 4, 5, 2, 3, 9, 10, 11] := by
    decide +kernel
  obtain ⟨⟨hdone, hconfined⟩, hplaces⟩ := hfacts
  exact ⟨⟨hdone, hconfined⟩, hplaces,
    run_keepsPlace {} charactersListing [("p0", .text "ab")] false 99 hdone hconfined⟩

/-- The text of a sum reaches the list of guarded blocks, and a block that ends before it begins is
put into it. -/
def forgedBlockListing : List String := [
  "add-int/lit8 v0, p0, -1 or vm.catch_blocks", "const v1, 0", "aput p1, v0, v1", "return-void"]

def forgedBlockStart : Emulator × Ending Unit :=
  Emulator.start {} forgedBlockListing (({} : Machine).load
    [("p0", .int 1), ("p1", .tuple [.int 5, .int 2, .text ":end"])]) false

/-- The blocks are not those that were declared, and the new one is none of the listing. -/
theorem forgedBlockListing_changes_tables :
    forgedBlockStart.2 = .done () ∧ forgedBlockStart.1.machine.catchBlocks = [] ∧
      (Shared.runFor 3 forgedBlockStart.1).1.machine.catchBlocks = [⟨5, 2, some ":end"⟩] ∧
      ¬((5 : Int) < 2 ∧ (2 : Int) < forgedBlockListing.length) := by
  decide +kernel

end Dalvik.Emulator
