import Dalvik.Proofs.Runs
import Dalvik.Proofs.SelfContained

/-!
# Runs on self-contained texts

A run in which all texts that are evaluated are self-contained shares nothing: it passes through the
same states and ends in the same way as one in which nothing can be shared. What is proved of `run`
and `runFor` thus holds of `Shared.run` and `Shared.runFor` wherever the texts are self-contained.
-/

namespace Dalvik.Emulator

variable {limit : Nat} {emulator first state : Emulator} {line : String}

/-- The states of a run in which there is a line to run, up to the one in which the steps are used
up. -/
def Shared.goingStates : Nat → Emulator → List Emulator
  | limit, emulator =>
    match emulator.nextLine? with
    | none => []
    | some line =>
      emulator ::
        match limit with
        | 0 => []
        | limit + 1 =>
          match Shared.step emulator line with
          | (emulator, .done _) => goingStates limit emulator
          | _ => []

/-- The texts that are evaluated in a run are self-contained. -/
def Confined (limit : Nat) (first : Emulator) : Prop :=
  ∀ state ∈ Shared.goingStates limit first, state.evaluatesSelfContained = true

instance (limit : Nat) (first : Emulator) : Decidable (Confined limit first) :=
  inferInstanceAs (Decidable (∀ state ∈ Shared.goingStates limit first,
    state.evaluatesSelfContained = true))

theorem confined_of_none (hline : first.nextLine? = none) (limit : Nat) :
    Confined limit first := by
  rw [Confined, Shared.goingStates, hline]
  exact List.forall_mem_nil _

theorem confined_zero (hline : first.nextLine? = some line) :
    Confined 0 first ↔ first.evaluatesSelfContained = true := by
  rw [Confined, Shared.goingStates, hline]
  exact List.forall_mem_singleton

/-- The run goes on with the texts behind a line that comes to its end. -/
theorem confined_of_done {after : Emulator} (hline : first.nextLine? = some line)
    (hstep : Shared.step first line = (after, .done ())) :
    Confined (limit + 1) first ↔
      first.evaluatesSelfContained = true ∧ Confined limit after := by
  rw [Confined, Shared.goingStates, hline]
  simp only [hstep]
  exact List.forall_mem_cons

/-- A line that ends the run is the last one. -/
theorem confined_of_ended (hline : first.nextLine? = some line)
    (hended : (Shared.step first line).2 ≠ .done ()) :
    Confined (limit + 1) first ↔ first.evaluatesSelfContained = true := by
  rw [Confined, Shared.goingStates, hline]
  dsimp only
  generalize Shared.step first line = result at hended
  obtain ⟨after, ending⟩ := result
  cases ending with
  | done value => exact absurd rfl hended
  | _ => exact List.forall_mem_singleton

theorem Confined.head (hconfined : Confined limit first)
    (hline : first.nextLine? = some line) : first.evaluatesSelfContained = true := by
  rw [Confined, Shared.goingStates, hline] at hconfined
  exact hconfined first List.mem_cons_self

/-- A run is confined up to any earlier state, and as a whole if it has come to its end. -/
theorem Confined.of_le_or_ended {more : Nat} (hconfined : Confined limit first)
    (hmore : more ≤ limit ∨ (Shared.runFor limit first).2 ≠ .outOfSteps) :
    Confined more first := by
  induction more generalizing first limit with
  | zero =>
      cases hline : first.nextLine? with
      | none => exact confined_of_none hline 0
      | some line => exact (confined_zero hline).mpr (hconfined.head hline)
  | succ more ih =>
      cases hline : first.nextLine? with
      | none => exact confined_of_none hline (more + 1)
      | some line =>
          cases limit with
          | zero =>
              rw [Shared.runFor, hline] at hmore
              exact absurd rfl (hmore.resolve_left (Nat.not_succ_le_zero more))
          | succ limit =>
              rw [Shared.runFor, hline] at hmore
              by_cases hdone : (Shared.step first line).2 = .done ()
              · obtain ⟨after, hstep⟩ : ∃ after, Shared.step first line = (after, .done ()) :=
                  ⟨_, eq_mk_of_snd_eq hdone⟩
                simp only [hstep, Nat.succ_le_succ_iff] at hmore
                rw [confined_of_done hline hstep] at hconfined ⊢
                exact ⟨hconfined.1, ih hconfined.2 hmore⟩
              · rw [confined_of_ended hline hdone] at hconfined ⊢
                exact hconfined

theorem Confined.of_le {earlier : Nat} (hconfined : Confined limit first)
    (hle : earlier ≤ limit) : Confined earlier first :=
  hconfined.of_le_or_ended (.inl hle)

theorem Confined.of_ended (hconfined : Confined limit first)
    (hended : (Shared.runFor limit first).2 ≠ .outOfSteps) (more : Nat) : Confined more first :=
  hconfined.of_le_or_ended (.inr hended)

/-- The run comes to its end within the limit, and its texts are self-contained. -/
def EndsConfined (limit : Nat) (first : Emulator) : Prop :=
  Confined limit first ∧ isOutOfSteps (Shared.runFor limit first).2 = false

instance (limit : Nat) (first : Emulator) : Decidable (EndsConfined limit first) :=
  inferInstanceAs (Decidable (_ ∧ _))

theorem EndsConfined.confined (hends : EndsConfined limit first) (steps : Nat) :
    Confined steps first := by
  obtain ⟨hconfined, hended⟩ := hends
  refine hconfined.of_ended (fun hout => ?_) steps
  rw [isOutOfSteps_iff.mpr hout] at hended
  cases hended

/-- The run goes as if nothing could be shared, and nothing is. -/
structure Agrees (limit : Nat) (first : Emulator) : Prop where
  states : Shared.statesFor limit first = statesFor limit first
  run : Shared.runFor limit first = runFor limit first
  shared : ∀ state ∈ first :: statesFor limit first, state.shared = []

theorem agrees_of_none (hshared : first.shared = []) (hline : first.nextLine? = none)
    (limit : Nat) : Agrees limit first := by
  have hstates : statesFor limit first = [] := by
    cases limit <;> simp only [statesFor, hline]
  refine ⟨?_, ?_, ?_⟩
  · cases limit <;> simp only [Shared.statesFor, hstates, hline]
  · rw [Shared.runFor, runFor, hline]
  · rw [hstates]
    exact List.forall_mem_singleton.mpr hshared

/-- A run with self-contained texts shares nothing. -/
theorem Confined.agrees (hconfined : Confined limit first) (hshared : first.shared = []) :
    Agrees limit first := by
  induction limit generalizing first with
  | zero =>
      cases hline : first.nextLine? with
      | none => exact agrees_of_none hshared hline 0
      | some line =>
          refine ⟨rfl, ?_, List.forall_mem_singleton.mpr hshared⟩
          rw [Shared.runFor, runFor, hline]
  | succ limit ih =>
      cases hline : first.nextLine? with
      | none => exact agrees_of_none hshared hline (limit + 1)
      | some line =>
          have hstep := Shared.step_eq hshared hline (hconfined.head hline)
          have hkept := (step_sameRest first line).shared.trans hshared
          cases hresult : first.step line with
          | mk after ending =>
              rw [hresult] at hstep hkept
              cases ending with
              | done value =>
                  have hrest := ih ((confined_of_done hline hstep).mp hconfined).2 hkept
                  refine ⟨?_, ?_, ?_⟩
                  · simp only [Shared.statesFor, statesFor, hline, hstep, hresult, hrest.states]
                  · rw [Shared.runFor, runFor, hline]
                    simp only [hstep, hresult, andThen, hrest.run]
                  · rw [statesFor, hline]
                    simp only [hresult]
                    exact List.forall_mem_cons.mpr ⟨hshared, hrest.shared⟩
              | _ =>
                  refine ⟨?_, ?_, ?_⟩
                  · simp only [Shared.statesFor, statesFor, hline, hstep, hresult]
                  · rw [Shared.runFor, runFor, hline]
                    simp only [hstep, hresult, andThen]
                  · rw [statesFor, hline]
                    simp only [hresult]
                    exact List.forall_mem_cons.mpr ⟨hshared, List.forall_mem_singleton.mpr hkept⟩

/-- Where a run stops for want of steps, nothing is shared, and the run is confined when it goes
on. -/
theorem Confined.reached {more : Nat} (hconfined : Confined (limit + more) first)
    (hshared : first.shared = []) (hreached : runFor limit first = (state, .outOfSteps)) :
    state.shared = [] ∧ Confined more state := by
  induction limit generalizing first with
  | zero =>
      rw [runFor] at hreached
      split at hreached
      · cases hreached
      · cases hreached
        rw [Nat.zero_add] at hconfined
        exact ⟨hshared, hconfined⟩
  | succ limit ih =>
      cases hline : first.nextLine? with
      | none =>
          rw [runFor, hline] at hreached
          cases hreached
      | some line =>
          have hstep := Shared.step_eq hshared hline (hconfined.head hline)
          have hkept := (step_sameRest first line).shared.trans hshared
          have hending := step_ne_outOfSteps first line
          rw [runFor_succ hline] at hreached
          generalize first.step line = result at hstep hkept hending hreached
          obtain ⟨after, ending⟩ := result
          cases ending with
          | done value =>
              rw [Nat.succ_add] at hconfined
              exact ih ((confined_of_done hline hstep).mp hconfined).2 hkept hreached
          | raised cause => cases hreached
          | exited => cases hreached
          | outOfSteps => exact absurd rfl hending

/-! ### Runs that keep to themselves -/

/-- Nothing is shared, and all texts that are evaluated from here on are self-contained. -/
structure KeepsToItself (first : Emulator) : Prop where
  shared : first.shared = []
  confined : ∀ limit, Confined limit first

namespace KeepsToItself

theorem runFor_eq (hself : first.KeepsToItself) (limit : Nat) :
    Shared.runFor limit first = runFor limit first :=
  ((hself.confined limit).agrees hself.shared).run

theorem step_eq (hself : first.KeepsToItself) (hline : first.nextLine? = some line) :
    Shared.step first line = first.step line :=
  Shared.step_eq hself.shared hline ((hself.confined 0).head hline)

theorem step (hself : first.KeepsToItself) (hline : first.nextLine? = some line)
    (hdone : (first.step line).2 = .done ()) : (first.step line).1.KeepsToItself where
  shared := (step_sameRest first line).shared.trans hself.shared
  confined limit := by
    have hstep : Shared.step first line = ((first.step line).1, .done ()) := by
      rw [hself.step_eq hline]
      exact eq_mk_of_snd_eq hdone
    exact ((confined_of_done hline hstep).mp (hself.confined (limit + 1))).2

theorem of_runFor (hself : first.KeepsToItself)
    (hreached : runFor limit first = (state, .outOfSteps)) : state.KeepsToItself where
  shared := ((hself.confined (limit + 0)).reached hself.shared hreached).1
  confined more := ((hself.confined (limit + more)).reached hself.shared hreached).2

/-- The state that a run has come to goes on as if nothing could be shared, also if it is the last
one. -/
theorem runFor_eq_of_passed {count : Nat} {passed : Emulator} (hself : first.KeepsToItself)
    (hpassed : ∀ more, runFor (count + more) first = runFor more passed) (more : Nat) :
    Shared.runFor more passed = runFor more passed := by
  cases hline : passed.nextLine? with
  | none => rw [Shared.runFor, runFor, hline]
  | some line =>
      have hreached : runFor count first = (passed, .outOfSteps) := by
        have hnow := hpassed 0
        rw [Nat.add_zero, runFor.eq_1 0 passed, hline] at hnow
        exact hnow
      exact (hself.of_runFor hreached).runFor_eq more

end KeepsToItself

/-! ### Runs of a listing -/

variable {machine : Machine} {lines : List String} {tracing : Bool}

/-- Nothing is shared at the start. -/
theorem start_shared (emulator : Emulator) (lines : List String) (machine : Machine)
    (tracing : Bool) : (emulator.start lines machine tracing).1.shared = [] := by
  unfold start declare
  simp only
  split
  · rfl
  · rfl
  · exact (report_sameRest _ _).shared

theorem Confined.run_eq (hconfined : Confined limit (emulator.start lines machine tracing).1) :
    Shared.run emulator lines machine tracing limit =
      emulator.run lines machine tracing limit := by
  have hagrees := hconfined.agrees (start_shared emulator lines machine tracing)
  unfold Shared.run run
  cases hchecked : checkLines lines with
  | error cause => rfl
  | ok checked =>
      have hsame : checked = lines := by
        unfold checkLines at hchecked
        split at hchecked
        · cases hchecked
        · exact (Except.ok.inj hchecked).symm
      rw [hsame]
      simp only
      generalize emulator.start lines machine tracing = result at hagrees
      obtain ⟨started, ending⟩ := result
      cases ending with
      | done value => exact hagrees.run
      | _ => rfl

/-- In the state that a run stops in, the next line does what it does if nothing can be shared. -/
theorem Confined.step_of_run (hconfined : Confined limit (emulator.start lines machine tracing).1)
    (hreached : emulator.run lines machine tracing limit = (state, .outOfSteps))
    (hline : state.nextLine? = some line) : Shared.step state line = state.step line := by
  obtain ⟨-, hrun, -⟩ := run_eq_outOfSteps hreached
  obtain ⟨hshared, hlast⟩ :=
    @Confined.reached limit _ state 0 hconfined (start_shared emulator lines machine tracing) hrun
  exact Shared.step_eq hshared hline (hlast.head hline)

theorem keepsToItself_of_run
    (hconfined : ∀ limit, Confined limit (emulator.start lines machine tracing).1)
    (hreached : emulator.run lines machine tracing limit = (state, .outOfSteps)) :
    state.KeepsToItself := by
  obtain ⟨-, hrun, -⟩ := run_eq_outOfSteps hreached
  exact KeepsToItself.of_runFor ⟨start_shared emulator lines machine tracing, hconfined⟩ hrun

end Dalvik.Emulator
