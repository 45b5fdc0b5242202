import Dalvik.Proofs.GuardedRange
import Dalvik.Proofs.InstructionFrame

/-!
# Faults that are kept

Every fault that an instruction raises is kept, and a line that takes a fault takes the latest one.
So a handler that begins with such a line gets the fault that has led there, and leaves those that
earlier handlers did not take. At any time, as many faults are kept as were raised and not taken.
-/

namespace Dalvik.Emulator

open Listing (isPassive)

variable {state first : Emulator} {lines : List String} {line register : String}
  {instruction : Instruction} {cause : Fault}

/-! ### Raising and taking -/

/-- The instruction on the line that is run next, and how it ends by itself: a fault is not handed
on yet. -/
def nextEnding? (state : Emulator) : Option (Instruction × Ending Unit) :=
  state.nextLine?.bind fun line =>
    if isPassive line then none
    else (Instruction.ofLine? line).map fun instruction =>
      (instruction, ((state.advance.trace line).perform instruction.execute).2)

/-- The instruction on the line that is run next raises a fault. -/
def raisesFault (state : Emulator) : Bool :=
  state.nextEnding?.any fun (_, ending) => ending matches .raised _

/-- The instruction on the line that is run next takes a fault, and completes. -/
def takesFault (state : Emulator) : Bool :=
  state.nextEnding?.any fun (instruction, ending) =>
    instruction.takesPending && ending matches .done _

/-- How an instruction with the given outcome ends. -/
def endingOf : Except Halt Machine → Ending Unit
  | .ok _ => .done ()
  | .error (.fault cause) => .raised cause
  | .error (.fatal _) => .exited

theorem Executes.nextEnding?_eq (hexecutes : state.Executes line instruction) :
    state.nextEnding? =
      some (instruction, endingOf (instruction.outcome state.advance.machine)) := by
  have hperform : ((state.advance.trace line).perform instruction.execute).2 =
      endingOf (instruction.outcome state.advance.machine) := by
    have hcommits := instruction.execute_commits (state.advance.trace line).machine
    rw [← trace_machine state.advance line]
    cases houtcome : instruction.outcome (state.advance.trace line).machine with
    | ok after =>
        rw [houtcome] at hcommits
        rw [perform_of_ok hcommits]
        rfl
    | error halt =>
        rw [houtcome] at hcommits
        cases halt with
        | fault cause =>
            rw [perform_of_fault hcommits]
            rfl
        | fatal message =>
            rw [perform_of_fatal _ hcommits, report_of_line (lineAt_trace_advance hexecutes.next)]
            rfl
  simp [nextEnding?, hexecutes.next, hexecutes.active, hexecutes.read, hperform]

/-- A line with an instruction keeps its fault, or gives up the one that it takes. -/
theorem Executes.step_pending (hexecutes : state.Executes line instruction) :
    (state.step line).1.machine.pending.length + (if state.takesFault then 1 else 0) =
      state.machine.pending.length + (if state.raisesFault then 1 else 0) := by
  have hending := hexecutes.nextEnding?_eq
  rw [hexecutes.step_eq]
  cases houtcome : instruction.outcome state.advance.machine with
  | ok after =>
      rw [houtcome] at hending
      have hframe := Instruction.outcome_frame houtcome
      have hpending : state.advance.machine.pending = state.machine.pending := rfl
      cases htakes : instruction.takesPending with
      | true =>
          obtain ⟨thrown, htaken⟩ := hframe.taken htakes
          simp [raisesFault, takesFault, hending, endingOf, htakes, settle, ← hpending, htaken]
      | false =>
          have hsame := hframe.pending htakes
          simp [raisesFault, takesFault, hending, endingOf, htakes, settle, hsame, hpending]
  | error halt =>
      rw [houtcome] at hending
      cases halt with
      | fault cause =>
          have hkept : ((state.advance.trace line).throw cause).1.machine.pending =
              state.machine.pending ++ [⟨cause, state.machine.thrownCount⟩] := by
            rw [throw_machine, trace_machine]
            rfl
          simp [raisesFault, takesFault, hending, endingOf, settle, hkept]
      | fatal message =>
          have hline := lineAt_trace_advance hexecutes.next
          rw [settle_fatal hline, report_of_line hline]
          simp [raisesFault, takesFault, hending, endingOf, advance]

/-- As many faults are kept more as the line has raised, and fewer as it has taken. -/
theorem step_pending (hline : state.nextLine? = some line) :
    (state.step line).1.machine.pending.length + (if state.takesFault then 1 else 0) =
      state.machine.pending.length + (if state.raisesFault then 1 else 0) := by
  rcases step_idle_or_executes hline with ⟨hread, hidle⟩ | ⟨instruction, hexecutes⟩
  · have hnone : state.nextEnding? = none := by
      rcases hread with hpassive | hnone
      · simp [nextEnding?, hline, hpassive]
      · simp [nextEnding?, hline, hnone]
    rw [hidle]
    simp [raisesFault, takesFault, hnone, advance]
  · exact hexecutes.step_pending

/-- The states in which `runFor` runs a line. -/
def runStates (limit : Nat) (first : Emulator) : List Emulator :=
  (first :: statesFor limit first).dropLast

/-- The states in which `Shared.runFor` runs a line. -/
def Shared.runStates (limit : Nat) (first : Emulator) : List Emulator :=
  (first :: Shared.statesFor limit first).dropLast

theorem runStates_of_done (hline : state.nextLine? = some line)
    (hdone : (state.step line).2 = .done ()) (limit : Nat) :
    runStates (limit + 1) state = state :: runStates limit (state.step line).1 := by
  rw [runStates, statesFor_of_done hline hdone]
  rfl

theorem runStates_of_ended (hline : state.nextLine? = some line)
    (hended : (state.step line).2 ≠ .done ()) (limit : Nat) :
    runStates (limit + 1) state = [state] := by
  rw [runStates, statesFor_of_ended hline hended]
  rfl

theorem runStates_of_none (hline : state.nextLine? = none) (limit : Nat) :
    runStates limit state = [] := by
  cases limit with
  | zero => rfl
  | succ limit =>
      rw [runStates, statesFor, hline]
      rfl

/-- A run keeps the faults that its lines raise and do not take. -/
theorem runFor_pending (limit : Nat) (first : Emulator) :
    (runFor limit first).1.machine.pending.length + (runStates limit first).countP takesFault =
      first.machine.pending.length + (runStates limit first).countP raisesFault := by
  induction limit generalizing first with
  | zero =>
      rw [runFor]
      split <;> simp [runStates, statesFor]
  | succ limit ih =>
      cases hline : first.nextLine? with
      | none =>
          rw [runFor, hline, runStates_of_none hline]
          rfl
      | some line =>
          have hstep := step_pending hline
          by_cases hending : (first.step line).2 = .done ()
          · have hrest := ih (first.step line).1
            rw [runFor_of_done hline hending, runStates_of_done hline hending, List.countP_cons,
              List.countP_cons]
            omega
          · have hover : (runFor (limit + 1) first).1 = (first.step line).1 := by
              rw [runFor_succ hline]
              generalize first.step line = result at hending ⊢
              obtain ⟨after, ending⟩ := result
              cases ending with
              | done value => exact absurd rfl hending
              | _ => rfl
            rw [hover, runStates_of_ended hline hending, List.countP_singleton,
              List.countP_singleton]
            exact hstep

/-! ### The fault that leads to a handler -/

/-- The first line from `start` on that is not passed over. -/
structure FirstActive (lines : List String) (start place : Nat) (line : String) : Prop where
  le : start ≤ place
  found : lines[place]? = some line
  active : isPassive line = false
  passed : ∀ between passing, start ≤ between → between < place →
    lines[between]? = some passing → isPassive passing = true

/-- A run passes over lines that are no instructions. -/
theorem runFor_passed {start place : Nat} (hfirst : FirstActive lines start place line)
    (hsource : state.source = some lines) (hgoing : state.machine.stopped = false)
    (hpc : state.machine.pc = start) :
    ∃ arrived, (∀ more, runFor (place - start + more) state = runFor more arrived) ∧
      arrived.source = some lines ∧ arrived.machine = { state.machine with pc := place } := by
  -- on the lines that are still to be passed
  induction hcount : place - start generalizing state start with
  | zero =>
      have heq : start = place := Nat.le_antisymm hfirst.le (Nat.sub_eq_zero_iff_le.mp hcount)
      refine ⟨state, fun more => by rw [Nat.zero_add], hsource, ?_⟩
      rw [← heq, ← hpc]
  | succ count ih =>
      have hlt : start < place := by omega
      have hplace : place < lines.length := (List.getElem?_eq_some_iff.mp hfirst.found).1
      obtain ⟨passing, hpassing⟩ : ∃ passing, lines[start]? = some passing :=
        ⟨_, List.getElem?_eq_getElem (hlt.trans hplace)⟩
      have hpassive := hfirst.passed start passing (Nat.le_refl start) hlt hpassing
      have hnext : state.nextLine? = some passing :=
        (nextLine?_of_getElem? hsource hpc hgoing).trans hpassing
      have hstep : state.step passing = (state.advance, .done ()) := by
        simp [step, hpassive]
      have hrest : FirstActive lines (start + 1) place line :=
        ⟨hlt, hfirst.found, hfirst.active, fun between passing hle =>
          hfirst.passed between passing (Nat.le_of_succ_le hle)⟩
      have hadvanced : state.advance.machine.pc = (start + 1 : Nat) := by
        simp [advance, hpc]
      obtain ⟨arrived, hrun, hlines, hmachine⟩ :
          ∃ arrived, (∀ more, runFor (count + more) state.advance = runFor more arrived) ∧
            arrived.source = some lines ∧
            arrived.machine = { state.advance.machine with pc := place } := by
        exact ih hrest hsource hgoing hadvanced (by omega)
      refine ⟨arrived, fun more => ?_, hlines, hmachine⟩
      rw [Nat.succ_add, runFor_of_done hnext (by rw [hstep]), hstep]
      exact hrun more

/-- A line that takes a fault takes the latest one. -/
theorem Executes.step_moveException {earlier : List Thrown} {thrown : Thrown}
    (hexecutes : state.Executes line (.moveException register))
    (hpending : state.machine.pending = earlier ++ [thrown]) :
    (state.step line).1.machine = { state.machine with
        registers := state.machine.registers.insert register (.raised thrown.cause thrown.serial)
        pending := earlier
        pc := state.machine.pc + 1 } ∧
      (state.step line).2 = .done () := by
  have hlast : state.advance.machine.pending = earlier ++ [thrown] := hpending
  apply hexecutes.step_of_ok
  simp only [Instruction.outcome, hlast, List.getLast?_concat]
  simp only [Machine.dropPending, hlast, List.dropLast_concat]
  rfl

/-- From the fault to the handler, over the lines that are passed, and to the line that takes it. -/
theorem Raises.runFor_taken {index handler place : Nat} {taker : String}
    (hraises : Raises state index line cause) (hsource : state.source = some lines)
    (hcaught : (state.step line).2 = .done ())
    (hhandler : (state.step line).1.machine.pc = handler)
    (htaker : FirstActive lines handler place taker)
    (hread : Instruction.ofLine? taker = some (.moveException register)) :
    ∃ taken, (∀ more, runFor (place - handler + 2 + more) state = runFor more taken) ∧
      taken.machine = { state.machine with
        registers := state.machine.registers.insert register
          (.raised cause state.machine.thrownCount)
        thrownCount := state.machine.thrownCount + 1
        pc := place + 1 } := by
  obtain ⟨hsame, hkept, -⟩ := hraises.step_faults
  have hgoing : state.machine.stopped = false := by
    by_contra hstopped
    have hnone : state.nextLine? = none := by simp [nextLine?, hstopped]
    cases hnone.symm.trans hraises.next
  have hstopped : (state.step line).1.machine.stopped = false := by
    rw [hkept]
    exact hgoing
  -- from the handler on, only lines that do nothing are passed
  obtain ⟨arrived, hpassed, hlines, hmachine⟩ :=
    runFor_passed htaker (hsame.trans hsource) hstopped hhandler
  have harrived : arrived.machine = { state.machine.keep cause with pc := place } := by
    rw [hmachine, hkept]
  have hexecutes : arrived.Executes taker (.moveException register) := by
    refine ⟨?_, htaker.active, hread⟩
    have hfound : arrived.nextLine? = lines[place]? :=
      nextLine?_of_getElem? hlines (by rw [harrived]) (by rw [harrived]; exact hgoing)
    rw [hfound, htaker.found]
  have hpending : arrived.machine.pending =
      state.machine.pending ++ [⟨cause, state.machine.thrownCount⟩] := by
    rw [harrived]
    rfl
  obtain ⟨htaken, hdone⟩ := hexecutes.step_moveException hpending
  refine ⟨(arrived.step taker).1, fun more => ?_, ?_⟩
  · calc runFor (place - handler + 2 + more) state
        = runFor (place - handler + (1 + more) + 1) state := by congr 1; omega
      _ = runFor (place - handler + (1 + more)) (state.step line).1 :=
          runFor_of_done hraises.next hcaught _
      _ = runFor (1 + more) arrived := hpassed (1 + more)
      _ = runFor (more + 1) arrived := by rw [Nat.add_comm]
      _ = runFor more (arrived.step taker).1 := runFor_of_done hexecutes.next hdone more
  · rw [htaken, harrived]
    rfl

theorem pending_start {emulator : Emulator} {arguments : Table Datum} {tracing : Bool}
    (hdone : (emulator.start lines (({} : Machine).load arguments) tracing).2 = .done ()) :
    (emulator.start lines (({} : Machine).load arguments) tracing).1.machine.pending = [] := by
  obtain ⟨declared, hscan, hstart⟩ := start_eq_of_done hdone
  rw [hstart]
  change declared.pending = []
  rw [(Listing.scan_frame hscan).2, Machine.load_frame]

/-- **Kept faults.** In a run of a listing on a new machine, a fault that leads to a handler is kept
behind those that are kept already. If the first line there that is not passed over takes a fault,
the run comes to it, its register gets this fault, and those are kept that were kept before. At any
time, the faults that are kept and those that were taken are together as many as were raised. The
texts that the run evaluates are self-contained. -/
theorem run_takes_latest_fault (emulator : Emulator) (lines : List String)
    (arguments : Table Datum) (tracing : Bool) (started : Emulator)
    (hstart : emulator.start lines (({} : Machine).load arguments) tracing = (started, .done ()))
    (hconfined : ∀ steps, Confined steps started) :
    (∀ (limit : Nat) (state : Emulator) (index handler place : Nat)
      (line taker register : String) (cause : Fault),
      Shared.runFor limit started = (state, .outOfSteps) → Raises state index line cause →
      (Shared.step state line).2 = .done () → (Shared.step state line).1.machine.pc = handler →
      FirstActive (lines.map Text.strip) handler place taker →
      Instruction.ofLine? taker = some (.moveException register) →
      (Shared.step state line).1.machine.pending =
          state.machine.pending ++ [⟨cause, state.machine.thrownCount⟩] ∧
        ∃ taken, (∀ more, Shared.runFor (limit + (place - handler + 2 + more)) started =
            Shared.runFor more taken) ∧
          taken.machine = { state.machine with
            registers := state.machine.registers.insert register
              (.raised cause state.machine.thrownCount)
            thrownCount := state.machine.thrownCount + 1
            pc := place + 1 }) ∧
    ∀ limit, (Shared.runFor limit started).1.machine.pending.length +
        (Shared.runStates limit started).countP takesFault =
      (Shared.runStates limit started).countP raisesFault := by
  have hdone : (emulator.start lines (({} : Machine).load arguments) tracing).2 = .done () := by
    rw [hstart]
  have hself : started.KeepsToItself := by
    have hshared := start_shared emulator lines (({} : Machine).load arguments) tracing
    rw [hstart] at hshared
    exact ⟨hshared, hconfined⟩
  simp only [hself.runFor_eq]
  constructor
  · intro limit state index handler place line taker register cause hreached hraises
    have hstate : state ∈ started :: statesFor limit started := by
      have hmem := runFor_mem_states limit started
      rwa [hreached] at hmem
    have hprogram := inProgram_of_mem_states hdone limit
    rw [hstart] at hprogram
    rw [(hself.of_runFor hreached).step_eq hraises.next]
    intro hcaught hhandler htaker hread
    constructor
    · rw [hraises.step_faults.2.1]
      rfl
    · obtain ⟨taken, hrun, hmachine⟩ := hraises.runFor_taken (hprogram state hstate).source hcaught
        hhandler htaker hread
      refine ⟨taken, fun more => ?_, hmachine⟩
      rw [runFor_add hreached, (hself.of_runFor hreached).runFor_eq_of_passed hrun]
      exact hrun more
  · intro limit
    have hnew := pending_start hdone
    rw [hstart] at hnew
    have hcount := runFor_pending limit started
    rw [hnew, List.length_nil, Nat.zero_add] at hcount
    rw [Shared.runStates, ((hconfined limit).agrees hself.shared).states]
    exact hcount

/-- Two guarded blocks. The handler of the first one leaves its fault where it is. -/
def twiceCaughtListing : List String := [
  ":try_start_0", "aget v0, p0, p1", ":try_end_0",
  ".catch Ljava/lang/Exception; \x7b:try_start_0 .. :try_end_0\x7d :first",
  ":first", ":try_start_1", "aget v0, p0, p2", ":try_end_1",
  ".catch Ljava/lang/Exception; \x7b:try_start_1 .. :try_end_1\x7d :second",
  ":second", "# the latest fault", "move-exception v1", "return-void"]

def twiceCaughtStart : Emulator × Ending Unit :=
  Emulator.start {} twiceCaughtListing (({} : Machine).load [("p0", .list [.int 7])]) false

theorem twiceCaughtListing_firstActive :
    FirstActive (twiceCaughtListing.map Text.strip) 9 11 "move-exception v1" where
  le := by decide
  found := by decide +kernel
  active := by decide +kernel
  passed := by
    have hpassed : ∀ entry ∈ (twiceCaughtListing.map Text.strip).zipIdx,
        9 ≤ entry.2 → entry.2 < 11 → isPassive entry.1 = true := by
      decide +kernel
    intro between passing hle hlt hline
    exact hpassed (passing, between) (List.mk_mem_zipIdx_iff_getElem?.mpr hline) hle hlt

/-- The second handler gets the second fault, and the first one stays. -/
theorem run_takes_latest_fault_twiceCaughtListing :
    twiceCaughtStart.2 = .done () ∧ EndsConfined 19 twiceCaughtStart.1 ∧
    ∃ state, Shared.runFor 4 twiceCaughtStart.1 = (state, .outOfSteps) ∧
      Raises state 6 "aget v0, p0, p2" (.missing "'p2'") ∧
      state.machine.pending = [⟨.missing "'p1'", 0⟩] ∧
      (∃ taken, (∀ more, Shared.runFor (4 + (11 - 9 + 2 + more)) twiceCaughtStart.1 =
          Shared.runFor more taken) ∧
        taken.machine = { state.machine with
          registers := state.machine.registers.insert "v1"
            (.raised (.missing "'p2'") state.machine.thrownCount)
          thrownCount := state.machine.thrownCount + 1
          pc := (11 : Nat) + 1 }) ∧
      (Shared.runStates 9 twiceCaughtStart.1).countP raisesFault = 2 ∧
      (Shared.runFor 9 twiceCaughtStart.1).1.machine.pending.length +
        (Shared.runStates 9 twiceCaughtStart.1).countP takesFault = 2 := by
  have hfacts : twiceCaughtStart.2 = .done () ∧ EndsConfined 19 twiceCaughtStart.1 ∧
      isOutOfSteps (Shared.runFor 4 twiceCaughtStart.1).2 = true ∧
      (Shared.runFor 4 twiceCaughtStart.1).1.machine.pending = [⟨.missing "'p1'", 0⟩] ∧
      (Shared.runFor 4 twiceCaughtStart.1).1.machine.pc = 6 ∧
      (Shared.runFor 4 twiceCaughtStart.1).1.nextLine? = some "aget v0, p0, p2" ∧
      isPassive "aget v0, p0, p2" = false ∧
      Instruction.ofLine? "aget v0, p0, p2" = some (.arrayGet "v0" "p0" "p2") ∧
      (((Shared.runFor 4 twiceCaughtStart.1).1.advance.trace "aget v0, p0, p2").perform
        (Instruction.arrayGet "v0" "p0" "p2").execute).2 = .raised (.missing "'p2'") ∧
      (Shared.step (Shared.runFor 4 twiceCaughtStart.1).1 "aget v0, p0, p2").2 = .done () ∧
      (Shared.step (Shared.runFor 4 twiceCaughtStart.1).1 "aget v0, p0, p2").1.machine.pc = 9 ∧
      Instruction.ofLine? "move-exception v1" = some (.moveException "v1") ∧
      (Shared.runStates 9 twiceCaughtStart.1).countP raisesFault = 2 := by
    decide +kernel
  obtain ⟨hdone, hends, hsteps, hpending, hpc, hnext, hactive, hread, hraised, hcaught, hhandler,
    htaker, hcount⟩ := hfacts
  have hraises : Raises (Shared.runFor 4 twiceCaughtStart.1).1 6 "aget v0, p0, p2"
      (.missing "'p2'") :=
    ⟨hpc, hnext, hactive, _, _, hread, eq_mk_of_snd_eq hraised⟩
  have hreached : Shared.runFor 4 twiceCaughtStart.1 =
      ((Shared.runFor 4 twiceCaughtStart.1).1, .outOfSteps) :=
    eq_mk_of_snd_eq (isOutOfSteps_iff.mp hsteps)
  obtain ⟨hdelivers, hcounts⟩ := run_takes_latest_fault {} twiceCaughtListing
    [("p0", .list [.int 7])] false twiceCaughtStart.1 (eq_mk_of_snd_eq hdone) hends.confined
  obtain ⟨-, htaken⟩ := hdelivers 4 _ 6 9 11 _ _ "v1" _ hreached hraises hcaught hhandler
    twiceCaughtListing_firstActive htaker
  exact ⟨hdone, hends, _, hreached, hraises, hpending, htaken, hcount, (hcounts 9).trans hcount⟩

/-- A fault is taken and then put back among those that are kept: the text of a sum reaches them. -/
def keptAgainListing : List String := [
  ":try_start_0", "goto :nowhere", ":try_end_0",
  ".catch Ljava/lang/Exception; \x7b:try_start_0 .. :try_end_0\x7d :caught", ":caught",
  "move-exception v0", "add-int/lit8 v1, p0, -1 or vm.exceptions", "const v2, 0",
  "aput v0, v1, v2", "return-void"]

def keptAgainStart : Emulator × Ending Unit :=
  Emulator.start {} keptAgainListing (({} : Machine).load [("p0", .int 1)]) false

/-- One fault was thrown in all and one was taken, and there is still one. -/
theorem keptAgainListing_keeps_taken_fault :
    keptAgainStart.2 = .done () ∧
      (Shared.runFor 9 keptAgainStart.1).1.machine.thrownCount = 1 ∧
      (Shared.runStates 9 keptAgainStart.1).countP takesFault = 1 ∧
      (Shared.runFor 9 keptAgainStart.1).1.machine.pending.length = 1 := by
  decide +kernel

end Dalvik.Emulator
