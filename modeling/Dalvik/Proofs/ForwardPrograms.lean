import Dalvik.Proofs.ProgramCounter
import Dalvik.Proofs.RepeatedScan
import Dalvik.Proofs.TameValues
import Mathlib.Tactic.MkIffOfInductiveProp

/-!
# Programs that only go forward

Every line that is run counts one step. If all labels that instructions go to stand further down,
and every handler stands behind the lines that it guards, each step also leads further down, so that
the program ends before it has made more steps than it has lines.
-/

namespace Dalvik

/-! ### Steps are counted one by one -/

namespace Emulator

theorem step_steps (emulator : Emulator) (line : String) :
    (emulator.step line).1.steps = emulator.steps + 1 :=
  (step_sameRest emulator line).steps

/-- A run that stops for want of steps has made all of them, and has a line left to run. -/
theorem steps_of_outOfSteps {limit : Nat} {first state : Emulator}
    (hreached : runFor limit first = (state, .outOfSteps)) :
    state.steps = first.steps + limit ∧ ∃ line, state.nextLine? = some line := by
  induction limit generalizing first with
  | zero =>
      cases hline : first.nextLine? with
      | none =>
          rw [runFor, hline] at hreached
          cases hreached
      | some line =>
          rw [runFor, hline] at hreached
          cases hreached
          exact ⟨rfl, line, hline⟩
  | succ limit ih =>
      cases hline : first.nextLine? with
      | none =>
          rw [runFor, hline] at hreached
          cases hreached
      | some line =>
          have hsteps := step_steps first line
          have hending := step_ne_outOfSteps first line
          rw [runFor_succ hline] at hreached
          generalize first.step line = result at hreached hsteps hending
          obtain ⟨next, ending⟩ := result
          cases ending with
          | done value =>
              obtain ⟨hcount, hnext⟩ := ih hreached
              have hfirst : next.steps = first.steps + 1 := hsteps
              exact ⟨by omega, hnext⟩
          | raised cause => cases hreached
          | exited => cases hreached
          | outOfSteps => exact absurd rfl hending

end Emulator

/-! ### Where instructions lead -/

namespace Instruction

/-- The labels that an instruction can go to. -/
def targets (switches : Table Switch) : Instruction → List String
  | .branch _ _ _ label | .branchZero _ _ label | .goto label => [label]
  | .packedSwitch _ table => ((switches.get? table).map Switch.cases).getD []
  | _ => []

/-- An instruction goes nowhere but to its labels. -/
theorem mem_targets {instruction : Instruction} {machine : Machine} {label : String}
    (hdestination : instruction.destination machine = .ok (some label)) :
    label ∈ instruction.targets machine.switches := by
  cases instruction with
  | branch test left right target =>
      obtain ⟨x, -, hrest⟩ := bind_eq_ok.mp hdestination
      obtain ⟨y, -, hrest⟩ := bind_eq_ok.mp hrest
      obtain ⟨holds, -, hlabel⟩ := bind_eq_ok.mp hrest
      cases holds with
      | true =>
          cases hlabel
          exact List.mem_singleton_self label
      | false => cases hlabel
  | branchZero test source target =>
      obtain ⟨x, -, hrest⟩ := bind_eq_ok.mp hdestination
      obtain ⟨holds, -, hlabel⟩ := bind_eq_ok.mp hrest
      cases holds with
      | true =>
          cases hlabel
          exact List.mem_singleton_self label
      | false => cases hlabel
  | goto target =>
      cases hdestination
      exact List.mem_singleton_self label
  | packedSwitch source table =>
      obtain ⟨value, -, hcase⟩ := bind_eq_ok.mp hdestination
      unfold caseOf at hcase
      obtain ⟨index, -, hrest⟩ := bind_eq_ok.mp hcase
      obtain ⟨beyond, -, hrest⟩ := bind_eq_ok.mp hrest
      cases beyond with
      | true => cases hrest
      | false =>
          obtain ⟨before, -, hrest⟩ := bind_eq_ok.mp hrest
          cases before with
          | true => cases hrest
          | false =>
              obtain ⟨found, hfound, hlabel⟩ := bind_eq_ok.mp hrest
              cases hlabel
              exact Value.mem_of_itemAt hfound
  | _ => cases hdestination

theorem targets_behind (instruction : Instruction) (switches : Table Switch) (base : Heap) :
    instruction.targets (switches.mapValues (Switch.behind base)) =
      instruction.targets switches := by
  cases instruction with
  | packedSwitch source table =>
      simp only [targets, Table.get?_mapValues, Option.map_map]
      rfl
  | _ => rfl

end Instruction

/-- Every label that a line goes to stands behind the line, and every handler behind the block that
it belongs to. Labels that are not declared do not matter. -/
@[mk_iff]
structure Machine.ForwardOnly (machine : Machine) (lines : List String) : Prop where
  jumps : ∀ entry ∈ lines.zipIdx, Listing.isPassive entry.1 = false →
    ∀ instruction ∈ Instruction.ofLine? entry.1,
      ∀ label ∈ instruction.targets machine.switches, ∀ number ∈ machine.labels.get? label,
        (entry.2 : Int) < number
  handlers : ∀ block ∈ machine.catchBlocks, ∀ label ∈ block.handler,
    ∀ number ∈ machine.labels.get? label, block.last ≤ number

namespace Machine

instance (machine : Machine) (lines : List String) : Decidable (machine.ForwardOnly lines) :=
  decidable_of_iff _ (machine.forwardOnly_iff lines).symm

variable {machine other declared : Machine} {lines : List String}

theorem ForwardOnly.of_sameTables (hforward : machine.ForwardOnly lines)
    (htables : machine.SameTables other) : other.ForwardOnly lines where
  jumps := by
    rw [htables.switches, htables.labels]
    exact hforward.jumps
  handlers := by
    rw [htables.catchBlocks, htables.labels]
    exact hforward.handlers

/-- Where instructions lead does not depend on the machine that the listing is declared on. -/
theorem ForwardOnly.overlay_load (hforward : declared.ForwardOnly lines)
    (arguments : Table Datum) :
    ((({} : Machine).load arguments).overlay declared).ForwardOnly lines := by
  have hholds := holds_overlay_load arguments declared
  refine ⟨?_, ?_⟩
  · rw [hholds.switches, hholds.labels]
    simp only [Instruction.targets_behind]
    exact hforward.jumps
  · rw [hholds.labels, catchBlocks_overlay_load]
    exact hforward.handlers

end Machine

namespace Emulator

variable {state : Emulator} {lines : List String} {started : Machine} {line : String}

/-- A line leads further down. -/
theorem InProgram.pc_lt_step (hin : InProgram lines started state)
    (hforward : started.ForwardOnly lines) (hline : state.nextLine? = some line) :
    state.machine.pc < (state.step line).1.machine.pc := by
  have hhere := hforward.of_sameTables hin.tables
  obtain ⟨index, hindex, hat⟩ := hin.onLine_of_nextLine? hline
  rcases step_pc state line with hnext | ⟨label, number, htransfers, hnumber, hpc⟩
  · omega
  rw [hpc]
  cases htransfers with
  | @taken instruction hactive hread hdestination =>
      rw [hindex]
      exact hhere.jumps (line, index) (List.mem_zipIdx_iff_getElem?.mpr hat) hactive instruction
        hread label (Instruction.mem_targets hdestination) number hnumber
  | @caught _ _ _ block _ _ _ hblock hhandler =>
      -- the block covers the line behind this one, and the handler is not before its end
      have hbehind := hhere.handlers block (List.mem_of_find?_eq_some hblock) label hhandler number
        hnumber
      have hcovers := List.find?_some hblock
      simp only [Machine.covers, Bool.and_eq_true, decide_eq_true_eq] at hcovers
      have hmoved : state.advance.machine.pc = state.machine.pc + 1 := rfl
      omega

/-- A state of a program that only goes forward has made no more steps than it has gone down. -/
structure GoneForward (lines : List String) (started : Machine) (state : Emulator) : Prop
    extends InProgram lines started state where
  steps_le : (state.steps : Int) ≤ state.machine.pc

theorem GoneForward.step (hgone : GoneForward lines started state)
    (hforward : started.ForwardOnly lines) (hline : state.nextLine? = some line) :
    GoneForward lines started (state.step line).1 := by
  refine ⟨hgone.toInProgram.step hline, ?_⟩
  have hsteps := step_steps state line
  have hlt := hgone.toInProgram.pc_lt_step hforward hline
  have hle := hgone.steps_le
  omega

theorem GoneForward.steps_le_length (hgone : GoneForward lines started state) :
    state.steps ≤ lines.length := by
  have hle := hgone.steps_le
  have hlength := hgone.le_length
  omega

/-- **Programs that only go forward end.** Whatever the arguments, a run of such a listing comes to
its end within as many steps as the listing has lines. The texts that it evaluates are
self-contained. -/
theorem run_forward (emulator : Emulator) (lines : List String) (declared : Machine)
    (hne : lines ≠ [])
    (hscan : Listing.scan {} (lines.map Text.strip) = (declared, none))
    (hforward : declared.ForwardOnly (lines.map Text.strip)) (arguments : Table Datum)
    (tracing : Bool)
    (hconfined : Confined lines.length
      (emulator.start lines (({} : Machine).load arguments) tracing).1) :
    ∃ final ending, ending ≠ .outOfSteps ∧ final.steps ≤ lines.length ∧
      ∀ limit ≥ lines.length,
        Shared.run emulator lines (({} : Machine).load arguments) tracing limit =
          (final, ending) := by
  have hstart := start_of_scan_new emulator arguments tracing hscan
  have hrun : ∀ limit, emulator.run lines (({} : Machine).load arguments) tracing limit =
      runFor limit (emulator.start lines (({} : Machine).load arguments) tracing).1 := by
    intro limit
    rw [run, checkLines_of_ne_nil hne]
    simp only [hstart, andThen]
  have hin := inProgram_start (congrArg Prod.snd hstart)
  have hsteps : (emulator.start lines (({} : Machine).load arguments) tracing).1.steps = 0 := by
    rw [hstart]
  have hahead : (emulator.start lines (({} : Machine).load arguments)
      tracing).1.machine.ForwardOnly (lines.map Text.strip) := by
    rw [hstart]
    exact hforward.overlay_load arguments
  have hshared := start_shared emulator lines (({} : Machine).load arguments) tracing
  have hsame := fun limit => @Confined.run_eq limit emulator (({} : Machine).load arguments) lines
    tracing
  generalize (emulator.start lines (({} : Machine).load arguments) tracing).1 = first
    at hrun hin hsteps hahead hconfined hshared hsame
  have hfirst : GoneForward (lines.map Text.strip) first.machine first :=
    ⟨hin, by have hnonneg := hin.nonneg; omega⟩
  have hgone : GoneForward (lines.map Text.strip) first.machine
      (runFor lines.length first).1 :=
    statesFor_induction (fun _ _ hcurrent hline => hcurrent.step hahead hline) lines.length hfirst
      _ (runFor_mem_states lines.length first)
  have hended : (runFor lines.length first).2 ≠ .outOfSteps := by
    intro hout
    -- all lines have made a step, so that there is none left to run
    obtain ⟨hcount, line, hline⟩ := steps_of_outOfSteps (eq_mk_of_snd_eq hout)
    have hplace := (hgone.toInProgram.onLine_of_nextLine? hline).le_length
    have hle := hgone.steps_le
    rw [List.length_map] at hplace
    omega
  refine ⟨(runFor lines.length first).1, (runFor lines.length first).2, hended, ?_, ?_⟩
  · have hle := hgone.steps_le_length
    rwa [List.length_map] at hle
  · intro limit hlimit
    have hall : Confined limit first := by
      refine hconfined.of_ended ?_ limit
      rw [(hconfined.agrees hshared).run]
      exact hended
    obtain ⟨more, rfl⟩ := Nat.exists_eq_add_of_le hlimit
    rw [hsame _ hall, hrun, runFor_of_ended hended]

/-- A switch, one case of which is a line that is guarded, and another one not declared. -/
def forwardListing : List String := [
  ":try_start_0", "if-eqz p0, :zero", "packed-switch p0, :pswitch_data_0", ":pswitch_0",
  "return p1", ":try_end_0", ".catch Ljava/lang/Exception; \x7b:try_start_0 .. :try_end_0\x7d :zero",
  ":zero", "goto :pswitch_1", ":pswitch_1", "return p0", ":pswitch_data_0", ".packed-switch 1",
  ":pswitch_0", ":pswitch_1", ":pswitch_9", ".end packed-switch"]

theorem run_forward_forwardListing :
    ∃ final ending, ending ≠ .outOfSteps ∧ final.steps ≤ 17 ∧
      ∀ limit ≥ 17, Shared.run {} forwardListing
        (({} : Machine).load [("p0", .int 2), ("p1", .int 5)]) false limit = (final, ending) := by
  have hfacts : (Listing.scan {} (forwardListing.map Text.strip)).2 = none ∧
      (Listing.scan {} (forwardListing.map Text.strip)).1.ForwardOnly
        (forwardListing.map Text.strip) ∧
      Confined 17 (Emulator.start {} forwardListing
        (({} : Machine).load [("p0", .int 2), ("p1", .int 5)]) false).1 := by
    decide +kernel
  obtain ⟨hscan, hforward, hconfined⟩ := hfacts
  exact run_forward {} forwardListing _ (by decide) (eq_mk_of_snd_eq hscan) hforward
    [("p0", .int 2), ("p1", .int 5)] false hconfined

/-- The text of a sum reaches the lines of the listing, and a line is added that goes back. -/
def addedLineListing : List String := [
  ":top", "add-int/lit8 v0, p0, -1 or vm.emu.source.lines", "const v1, 4", "aput p1, v0, v1"]

def addedLineRun : Emulator × Ending Value :=
  Shared.run {} addedLineListing
    (({} : Machine).load [("p0", .int 1), ("p1", .text "goto :top")]) false 20

/-- No line of the listing goes back, but the run makes more steps than there are lines. -/
theorem addedLineListing_goes_round :
    (Listing.scan {} (addedLineListing.map Text.strip)).2 = none ∧
      (Listing.scan {} (addedLineListing.map Text.strip)).1.ForwardOnly
        (addedLineListing.map Text.strip) ∧
      addedLineRun.2 = .outOfSteps ∧ addedLineRun.1.steps = 20 ∧
      addedLineListing.length = 4 := by
  have hfacts : (Listing.scan {} (addedLineListing.map Text.strip)).2 = none ∧
      (Listing.scan {} (addedLineListing.map Text.strip)).1.ForwardOnly
        (addedLineListing.map Text.strip) ∧
      isOutOfSteps addedLineRun.2 = true ∧ addedLineRun.1.steps = 20 := by
    decide +kernel
  obtain ⟨hscan, hforward, hout, hsteps⟩ := hfacts
  exact ⟨hscan, hforward, isOutOfSteps_iff.mp hout, hsteps, rfl⟩

end Emulator

end Dalvik
