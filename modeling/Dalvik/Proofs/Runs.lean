import Dalvik.Emulator.Run
import Dalvik.Proofs.Precision
import Dalvik.Proofs.Scan

/-!
# Runs from the start

A run begins when the tables of the listing are declared, and goes on line by line while each line
comes to its end. What holds at the beginning and is kept up by each line holds in every state that
the run passes through.
-/

namespace Dalvik

namespace Machine

/-- Loading values writes registers and makes room for lists, and nothing else. -/
theorem load_frame (machine : Machine) (values : Table Datum) :
    machine.load values = { machine with
      registers := (machine.load values).registers, heap := (machine.load values).heap } := by
  induction values generalizing machine with
  | nil => rfl
  | cons entry rest ih => exact ih (machine.writeFrom entry.1 (machine.heap.store entry.2))

end Machine

theorem Value.itemAt_int {α : Type} (kind : ValueKind) {items : List α} {place : Nat} {item : α}
    (hitem : items[place]? = some item) : itemAt kind items (.int place) = .ok item := by
  have hlt : place < items.length := (List.getElem?_eq_some_iff.mp hitem).1
  have hresolve : resolve items.length place = some place := by simp [resolve, hlt]
  simp only [itemAt, asInt?, hresolve, Option.bind_some, hitem]

namespace Emulator

variable {α : Type} {emulator : Emulator} {machine : Machine} {lines : List String}
  {tracing : Bool}

theorem eq_mk_of_snd_eq {α β : Type} {pair : α × β} {second : β} (hsecond : pair.2 = second) :
    pair = (pair.1, second) := by
  rw [← hsecond]

def isOutOfSteps {α : Type} : Ending α → Bool
  | .outOfSteps => true
  | _ => false

theorem isOutOfSteps_iff {α : Type} {ending : Ending α} :
    isOutOfSteps ending = true ↔ ending = .outOfSteps := by
  cases ending <;> simp [isOutOfSteps]

/-- A report never goes on. -/
theorem report_ne_done (emulator : Emulator) (message : String) (value : α) :
    (emulator.report message : Emulator × Ending α).2 ≠ .done value := by
  rcases report_cases (α := α) emulator message with ⟨_, _, -, hreport⟩ | ⟨_, _, -, hreport⟩ <;>
    simp [hreport]

theorem report_ne_outOfSteps (emulator : Emulator) (message : String) :
    (emulator.report message : Emulator × Ending α).2 ≠ .outOfSteps := by
  rcases report_cases (α := α) emulator message with ⟨_, _, -, hreport⟩ | ⟨_, _, -, hreport⟩ <;>
    simp [hreport]

/-! Steps are counted by runs alone, so that no line ends for want of them. -/

theorem perform_ne_outOfSteps (emulator : Emulator) (action : Action α) :
    (emulator.perform action).2 ≠ .outOfSteps := by
  unfold perform
  split
  · exact fun hout => nomatch hout
  · exact fun hout => nomatch hout
  · exact report_ne_outOfSteps _ _

theorem execute_ne_outOfSteps (emulator : Emulator) (instruction : Instruction) :
    (emulator.execute instruction).2 ≠ .outOfSteps := by
  unfold execute
  split
  · unfold throw
    simp only
    split
    · exact perform_ne_outOfSteps _ _
    · split
      · exact report_ne_outOfSteps _ _
      · exact fun hout => nomatch hout
  · rename_i hperform
    have hending := perform_ne_outOfSteps emulator instruction.execute
    rwa [hperform] at hending

theorem step_ne_outOfSteps (emulator : Emulator) (line : String) :
    (emulator.step line).2 ≠ .outOfSteps := by
  unfold step executeLine attempt
  split
  · exact fun hout => nomatch hout
  · split
    · rename_i instruction _
      have hending := execute_ne_outOfSteps (emulator.advance.trace line) instruction
      generalize (emulator.advance.trace line).execute instruction = result at hending ⊢
      obtain ⟨after, ending⟩ := result
      cases ending with
      | outOfSteps => exact absurd rfl hending
      | _ => exact fun hout => nomatch hout
    · exact report_ne_outOfSteps _ _

theorem start_eq_of_done (hdone : (emulator.start lines machine tracing).2 = .done ()) :
    ∃ declared, Listing.scan machine (lines.map Text.strip) = (declared, none) ∧
      (emulator.start lines machine tracing).1 = { emulator with
        source := some (lines.map Text.strip), machine := declared, steps := 0,
        tracing := tracing, shared := [] } := by
  unfold start declare at hdone ⊢
  simp only at hdone ⊢
  generalize Listing.scan machine (lines.map Text.strip) = result at hdone ⊢
  obtain ⟨declared, halt⟩ := result
  cases halt with
  | none => exact ⟨declared, rfl, rfl⟩
  | some halt =>
      cases halt with
      | fault cause => cases hdone
      | fatal message => exact absurd hdone (report_ne_done _ message ())

theorem start_of_scan {declared : Machine}
    (hscan : Listing.scan machine (lines.map Text.strip) = (declared, none)) :
    emulator.start lines machine tracing = ({ emulator with
      source := some (lines.map Text.strip), machine := declared, steps := 0,
      tracing := tracing, shared := [] }, .done ()) := by
  unfold start declare
  simp only [hscan]

theorem start_ne_outOfSteps (emulator : Emulator) (lines : List String) (machine : Machine)
    (tracing : Bool) : (emulator.start lines machine tracing).2 ≠ .outOfSteps := by
  unfold start declare
  simp only
  generalize Listing.scan machine (lines.map Text.strip) = result
  obtain ⟨declared, halt⟩ := result
  cases halt with
  | none => exact fun hout => nomatch hout
  | some halt =>
      cases halt with
      | fault cause => exact fun hout => nomatch hout
      | fatal message => exact report_ne_outOfSteps _ message

/-! ### The states of a run -/

theorem statesFor_of_done {line : String} (hline : emulator.nextLine? = some line)
    (hdone : (emulator.step line).2 = .done ()) (limit : Nat) :
    statesFor (limit + 1) emulator =
      (emulator.step line).1 :: statesFor limit (emulator.step line).1 := by
  rw [statesFor, hline]
  dsimp only
  generalize emulator.step line = result at hdone ⊢
  obtain ⟨after, ending⟩ := result
  cases hdone
  rfl

theorem statesFor_of_ended {line : String} (hline : emulator.nextLine? = some line)
    (hended : (emulator.step line).2 ≠ .done ()) (limit : Nat) :
    statesFor (limit + 1) emulator = [(emulator.step line).1] := by
  rw [statesFor, hline]
  dsimp only
  generalize emulator.step line = result at hended ⊢
  obtain ⟨after, ending⟩ := result
  cases ending with
  | done value => exact absurd rfl hended
  | _ => rfl

/-- What holds at the beginning and is kept up by the lines of a run holds in its states. -/
theorem statesFor_induction_mem {motive : Emulator → Prop} (limit : Nat) {first : Emulator}
    (hstep : ∀ current ∈ first :: statesFor limit first, ∀ line, motive current →
      current.nextLine? = some line → motive (current.step line).1)
    (hfirst : motive first) : ∀ state ∈ first :: statesFor limit first, motive state := by
  induction limit generalizing first with
  | zero =>
      intro state hstate
      rw [statesFor, List.mem_singleton] at hstate
      exact hstate ▸ hfirst
  | succ limit ih =>
      intro state hstate
      rcases List.mem_cons.mp hstate with rfl | hlater
      · exact hfirst
      · cases hline : first.nextLine? with
        | none =>
            rw [statesFor, hline] at hlater
            cases hlater
        | some line =>
            have hnext := hstep first List.mem_cons_self line hfirst hline
            -- a line that ends the run leaves one last state
            by_cases hending : (first.step line).2 = .done ()
            · rw [statesFor_of_done hline hending] at hlater hstep
              exact ih (fun current hcurrent => hstep current (List.mem_cons_of_mem first hcurrent))
                hnext state hlater
            · rw [statesFor_of_ended hline hending, List.mem_singleton] at hlater
              exact hlater ▸ hnext

theorem statesFor_induction {motive : Emulator → Prop}
    (hstep : ∀ current line, motive current → current.nextLine? = some line →
      motive (current.step line).1)
    (limit : Nat) {first : Emulator} (hfirst : motive first) :
    ∀ state ∈ first :: statesFor limit first, motive state :=
  statesFor_induction_mem limit (fun current _ => hstep current) hfirst

/-- A run ends in one of its states. -/
theorem runFor_mem_states (limit : Nat) (first : Emulator) :
    (runFor limit first).1 ∈ first :: statesFor limit first := by
  induction limit generalizing first with
  | zero =>
      rw [runFor, statesFor]
      split <;> exact List.mem_singleton_self first
  | succ limit ih =>
      rw [runFor, statesFor]
      split
      · exact List.mem_singleton_self first
      · rename_i line _
        obtain ⟨next, ending⟩ := first.step line
        cases ending with
        | done _ => exact List.mem_cons_of_mem first (ih next)
        | _ => exact List.mem_cons_of_mem first (List.mem_singleton_self next)

/-! One line of a run: the run goes on after a line that comes to its end, and is over otherwise. -/

theorem runFor_succ {line : String} (hline : emulator.nextLine? = some line) (limit : Nat) :
    runFor (limit + 1) emulator =
      andThen (emulator.step line) fun next _ => runFor limit next := by
  rw [runFor, hline]

theorem runFor_of_done {line : String} (hline : emulator.nextLine? = some line)
    (hdone : (emulator.step line).2 = .done ()) (limit : Nat) :
    runFor (limit + 1) emulator = runFor limit (emulator.step line).1 := by
  rw [runFor_succ hline]
  generalize emulator.step line = result at hdone ⊢
  obtain ⟨after, ending⟩ := result
  cases hdone
  rfl

theorem runFor_of_exited {line : String} (hline : emulator.nextLine? = some line)
    (hexited : (emulator.step line).2 = .exited) (limit : Nat) :
    runFor (limit + 1) emulator = ((emulator.step line).1, .exited) := by
  rw [runFor_succ hline]
  generalize emulator.step line = result at hexited ⊢
  obtain ⟨after, ending⟩ := result
  cases hexited
  rfl

theorem runFor_of_raised {line : String} {cause : Fault} (hline : emulator.nextLine? = some line)
    (hraised : (emulator.step line).2 = .raised cause) (limit : Nat) :
    runFor (limit + 1) emulator = ((emulator.step line).1, .raised cause) := by
  rw [runFor_succ hline]
  generalize emulator.step line = result at hraised ⊢
  obtain ⟨after, ending⟩ := result
  cases hraised
  rfl

/-- A run lets no fault out that none of its lines lets out. -/
theorem runFor_ne_raised {limit : Nat} {first : Emulator}
    (hlines : ∀ state ∈ first :: statesFor limit first, ∀ line, state.nextLine? = some line →
      ∀ cause, (state.step line).2 ≠ .raised cause) (cause : Fault) :
    (runFor limit first).2 ≠ .raised cause := by
  induction limit generalizing first with
  | zero =>
      rw [runFor]
      split <;> exact fun hraised => nomatch hraised
  | succ limit ih =>
      cases hline : first.nextLine? with
      | none =>
          rw [runFor, hline]
          exact fun hraised => nomatch hraised
      | some line =>
          have hfirst := hlines first List.mem_cons_self line hline
          have hdone := fun hending => statesFor_of_done hline hending limit
          rw [runFor_succ hline]
          generalize first.step line = result at hfirst hdone ⊢
          obtain ⟨next, ending⟩ := result
          cases ending with
          | done value =>
              refine ih fun state hstate => hlines state (List.mem_cons_of_mem first ?_)
              rw [hdone rfl]
              exact hstate
          | raised other => exact absurd rfl (hfirst other)
          | exited => exact fun hraised => nomatch hraised
          | outOfSteps => exact fun hraised => nomatch hraised

/-- A run that stops for want of steps goes on from where it stopped. -/
theorem runFor_add {limit : Nat} {first state : Emulator}
    (hreached : runFor limit first = (state, .outOfSteps)) (more : Nat) :
    runFor (limit + more) first = runFor more state := by
  induction limit generalizing first with
  | zero =>
      rw [runFor] at hreached
      split at hreached
      · cases hreached
      · cases hreached
        rw [Nat.zero_add]
  | succ limit ih =>
      rw [runFor] at hreached
      rw [Nat.succ_add, runFor]
      split at hreached
      · cases hreached
      · rename_i line _
        have hending := step_ne_outOfSteps first line
        simp only at hreached ⊢
        generalize first.step line = result at hreached hending ⊢
        obtain ⟨next, ending⟩ := result
        cases ending with
        | done value => exact ih hreached
        | raised cause => cases hreached
        | exited => cases hreached
        | outOfSteps => exact absurd rfl hending

/-- A run that has come to its end stays there. -/
theorem runFor_of_ended {limit : Nat} {first : Emulator}
    (hended : (runFor limit first).2 ≠ .outOfSteps) (more : Nat) :
    runFor (limit + more) first = runFor limit first := by
  induction limit generalizing first with
  | zero =>
      cases hline : first.nextLine? with
      | none =>
          rw [runFor, hline, runFor, hline]
      | some line =>
          rw [runFor, hline] at hended
          exact absurd rfl hended
  | succ limit ih =>
      cases hline : first.nextLine? with
      | none =>
          rw [runFor, hline, runFor, hline]
      | some line =>
          rw [runFor_succ hline] at hended
          rw [Nat.succ_add, runFor_succ hline, runFor_succ hline]
          generalize first.step line = result at hended ⊢
          obtain ⟨next, ending⟩ := result
          cases ending with
          | done value => exact ih hended
          | raised cause => rfl
          | exited => rfl
          | outOfSteps => rfl

/-- With one more line allowed, a run is where it was or has run the next line. -/
theorem runFor_last (limit : Nat) (first : Emulator) :
    (runFor (limit + 1) first).1 = (runFor limit first).1 ∨
      ∃ line, (runFor limit first).1.nextLine? = some line ∧
        (runFor (limit + 1) first).1 = ((runFor limit first).1.step line).1 := by
  by_cases hended : (runFor limit first).2 = .outOfSteps
  · have hmore := runFor_add (eq_mk_of_snd_eq hended) 1
    generalize (runFor limit first).1 = state at hmore ⊢
    rw [hmore]
    cases hline : state.nextLine? with
    | none =>
        left
        rw [runFor, hline]
    | some line =>
        right
        refine ⟨line, rfl, ?_⟩
        rw [runFor_succ hline 0]
        obtain ⟨next, ending⟩ := state.step line
        cases ending with
        | done value =>
            simp only [andThen, runFor]
            split <;> rfl
        | raised cause => rfl
        | exited => rfl
        | outOfSteps => rfl
  · left
    rw [runFor_of_ended hended]

theorem checkLines_of_ne_nil (hne : lines ≠ []) : checkLines lines = .ok lines := by
  unfold checkLines
  rw [if_neg (by simpa using hne)]

/-- How a run comes to a state with a line left to run, and how it goes on there. -/
theorem run_eq_outOfSteps {limit : Nat} {state : Emulator}
    (hreached : emulator.run lines machine tracing limit = (state, .outOfSteps)) :
    (emulator.start lines machine tracing).2 = .done () ∧
      runFor limit (emulator.start lines machine tracing).1 = (state, .outOfSteps) ∧
      ∀ more, emulator.run lines machine tracing (limit + more) = runFor more state := by
  have hending := start_ne_outOfSteps emulator lines machine tracing
  have hchecked : checkLines lines = .ok lines := by
    cases hcheck : checkLines lines with
    | error cause =>
        simp only [run, hcheck] at hreached
        cases hreached
    | ok checked =>
        unfold checkLines at hcheck
        split at hcheck
        · cases hcheck
        · exact hcheck.symm
  simp only [run, hchecked] at hreached ⊢
  generalize emulator.start lines machine tracing = result at hreached hending ⊢
  obtain ⟨started, ending⟩ := result
  cases ending with
  | done value => exact ⟨rfl, hreached, runFor_add hreached⟩
  | raised cause => cases hreached
  | exited => cases hreached
  | outOfSteps => exact absurd rfl hending

theorem nextLine?_eq_some {line : String} (hline : emulator.nextLine? = some line) :
    ∃ index : Nat, emulator.machine.pc = index ∧ ∃ lines, emulator.source = some lines ∧
      lines[index]? = some line := by
  unfold nextLine? at hline
  split at hline
  · cases hline
  · split at hline
    · rename_i lines index hsource hpc
      exact ⟨index, hpc, lines, hsource, hline⟩
    · cases hline

theorem nextLine?_of_getElem? {index : Nat} (hsource : emulator.source = some lines)
    (hpc : emulator.machine.pc = (index : Int))
    (hgoing : emulator.machine.stopped = false) : emulator.nextLine? = lines[index]? := by
  unfold nextLine?
  rw [hgoing, hsource, hpc]
  rfl

theorem lineAt_of_getElem? {index : Nat} {line : String} (hsource : emulator.source = some lines)
    (hline : lines[index]? = some line) : emulator.lineAt index = .ok line := by
  simp only [lineAt, hsource, Value.itemAt_int .list hline]

/-- A report finds the line that is run. -/
theorem lineAt_advance {line : String} (hline : emulator.nextLine? = some line) :
    emulator.advance.lineAt (emulator.advance.machine.pc - 1) = .ok line := by
  obtain ⟨index, hpc, found, hsource, hfound⟩ := nextLine?_eq_some hline
  have hplace : emulator.advance.machine.pc - 1 = index := by
    simp only [advance, hpc]
    omega
  rw [hplace]
  exact lineAt_of_getElem? hsource hfound

theorem lineAt_trace_advance {line : String} (hline : emulator.nextLine? = some line) :
    (emulator.advance.trace line).lineAt ((emulator.advance.trace line).machine.pc - 1) =
      .ok line := by
  rw [trace_machine, lineAt_congr (trace_source emulator.advance line)]
  exact lineAt_advance hline

end Emulator

end Dalvik
