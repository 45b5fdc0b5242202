import Dalvik.Emulator.Shared
import Dalvik.Proofs.Runs
import Dalvik.Proofs.TameInstructions

/-!
# Faults that leave a run

A fault that no handler takes ends a run in a report. What leaves the run as a fault is one of
declaring the listing, of finding a handler or the line of a report, or of telling the fault that was
to be reported; all of these can be told, and none of them says that there is no listing.
-/

namespace Dalvik

/-! ### Declarations -/

namespace Listing

theorem misprintFault_isTold (written : String) (misprint : Pattern.Misprint) :
    (misprintFault written misprint).isTold = true := by
  unfold misprintFault
  split <;> rfl

theorem findCatch_told (directive : Pattern) (index : Nat) (lines : List String) :
    Told (findCatch directive index lines) := by
  induction lines generalizing index with
  | nil => exact told_ok none
  | cons line rest ih =>
      unfold findCatch
      split
      · exact Meets.ite (sound_error rfl) (told_ok _)
      · exact ih (index + 1)

theorem catchBlock?_told (index : Nat) (line : String) (following : List String) :
    Told (catchBlock? index line following) := by
  have hmark : Told (markOf line) := by
    unfold markOf
    split
    · exact told_ok _
    · exact sound_error rfl
  refine hmark.bind fun mark => Meets.ite (told_ok none) ?_
  refine (told_mapError _ (misprintFault_isTold _)).bind fun directive => ?_
  exact (findCatch_told directive (index + 1) following).bind fun found => told_ok _

theorem readCases_settles (heap : Heap) (switch : Switch) (index : Nat) (lines : List String) :
    Settles (fun _ => True) (readCases heap switch index lines) := by
  induction lines generalizing heap switch index with
  | nil => exact .ok trivial
  | cons line rest ih =>
      unfold readCases
      refine Meets.ite ?_ (Meets.ite (ih heap _ _) (Meets.ite (.ok trivial) (.error rfl)))
      exact (Expr.readLiteral_told heap (firstWord line)).lift_bind fun made => ih made.2 _ _

theorem readElements_told (heap : Heap) (width : Value) (elements : List Value) (index : Nat)
    (lines : List String) : Told (readElements heap width elements index lines) := by
  induction lines generalizing heap width elements index with
  | nil => exact told_ok _
  | cons line rest ih =>
      unfold readElements
      refine Meets.ite ?_ (Meets.ite (told_ok _) ?_)
      · exact (Expr.readLiteral_told heap (firstWord line)).bind fun made => ih made.2 _ _ _
      · exact (Expr.readLiteral_told heap line).bind fun made => ih made.2 _ _ _

theorem declare_settles (machine : Machine) (index : Nat) (line : String)
    (following : List String) :
    Settles (fun _ => True) (declare machine index line following) := by
  unfold declare
  refine Meets.ite ?_ (.ok trivial)
  split
  · rename_i header _
    cases header with
    | guarded =>
        have hguarded : Told (declareGuarded machine index line following) :=
          (catchBlock?_told index line following).bind fun _ => told_ok _
        exact hguarded.lift_bind fun _ => .ok trivial
    | switch =>
        have hswitch : Settles (fun _ => True) (declareSwitch machine index line following) :=
          (readCases_settles machine.heap _ (index + 1) following).bind fun _ _ => .ok trivial
        exact hswitch.bind fun _ _ => .ok trivial
    | array =>
        have harray : Told (declareArray machine index line following) :=
          (readElements_told machine.heap _ _ (index + 1) following).bind fun _ => told_ok _
        exact harray.lift_bind fun _ => .ok trivial
  · exact .ok trivial

theorem scanFrom_isTold (machine : Machine) (index resume : Nat) (lines : List String)
    {after : Machine} {halt : Halt}
    (hscan : scanFrom machine index resume lines = (after, some halt)) : halt.isTold = true := by
  induction lines generalizing machine index resume with
  | nil => cases hscan
  | cons line rest ih =>
      unfold scanFrom at hscan
      have hdeclare := declare_settles machine index line rest
      split at hscan
      · exact ih machine (index + 1) resume hscan
      · generalize declare machine index line rest = result at hscan hdeclare
        cases hdeclare with
        | ok => exact ih _ _ _ hscan
        | error htold =>
            cases hscan
            exact htold

end Listing

/-! ### Lines -/

/-- An ending that lets no fault out but one that can be told. -/
def Ending.IsTold {α : Type} (ending : Ending α) : Prop :=
  ∀ cause, ending = .raised cause → cause.isTold = true

theorem Ending.isTold_done {α : Type} (value : α) : (.done value : Ending α).IsTold := by
  intro cause hraised
  cases hraised

namespace Emulator

variable {α : Type}

theorem lineAt_told (emulator : Emulator) (index : Int) : Told (emulator.lineAt index) := by
  unfold lineAt
  split
  · exact Value.itemAt_told _ _ _
  · exact sound_error rfl

theorem report_isTold (emulator : Emulator) (message : String) :
    (emulator.report message : Emulator × Ending α).2.IsTold := by
  intro cause hraised
  rcases report_cases (α := α) emulator message with
    ⟨line, shown, -, hreport⟩ | ⟨failure, output, hline, hreport⟩
  · rw [hreport] at hraised
    cases hraised
  · rw [hreport] at hraised
    cases hraised
    exact (lineAt_told emulator _).fine_of_eq hline

theorem throw_isTold (emulator : Emulator) (cause : Fault) :
    (emulator.throw cause).2.IsTold := by
  obtain ⟨after, ending, hthrow, -, -, hhanded⟩ : ∃ after ending,
      emulator.throw cause = (after, ending) ∧ _ ∧ _ ∧ HandedOn emulator cause () after ending :=
    throw_handedOn rfl rfl
  rw [hthrow]
  intro escaped hraised
  cases hhanded with
  | caught => cases hraised
  | astray =>
      cases hraised
      rfl
  | unhandled => cases hraised
  | unreported _ _ hline =>
      cases hraised
      exact (lineAt_told emulator _).fine_of_eq hline
  | untold _ _ htext =>
      cases hraised
      exact (Fault.text_told cause).fine_of_eq htext

theorem settle_isTold (emulator : Emulator) (result : Except Halt Machine) :
    (emulator.settle result).2.IsTold := by
  cases result with
  | ok machine => exact Ending.isTold_done ()
  | error halt =>
      cases halt with
      | fault cause => exact throw_isTold emulator cause
      | fatal message =>
          have hreport := report_isTold (α := Unit) emulator message
          simp only [settle]
          generalize (emulator.report message : Emulator × Ending Unit) = report at hreport
          obtain ⟨reported, ending⟩ := report
          cases ending with
          | raised cause => exact throw_isTold reported cause
          | _ => exact hreport

theorem andThen_isTold {β : Type} {result : Emulator × Ending α}
    {next : Emulator → α → Emulator × Ending β} (hresult : result.2.IsTold)
    (hnext : ∀ after value, (next after value).2.IsTold) : (andThen result next).2.IsTold := by
  obtain ⟨after, ending⟩ := result
  cases ending with
  | done value => exact hnext after value
  | raised cause =>
      rintro _ ⟨⟩
      exact hresult cause rfl
  | exited =>
      intro cause hraised
      cases hraised
  | outOfSteps =>
      intro cause hraised
      cases hraised

theorem attempt_isTold (emulator : Emulator) (line : String) (instruction? : Option Instruction) :
    (emulator.attempt line instruction?).2.IsTold := by
  cases instruction? with
  | none => exact Ending.isTold_done false
  | some instruction =>
      rw [attempt, execute_eq_settle]
      exact andThen_isTold (settle_isTold _ _) fun _ _ => Ending.isTold_done true

/-- A line without an instruction is reported. -/
theorem supported_isTold (emulator : Emulator) (found : Bool) :
    (if found then (emulator, .done ())
      else emulator.report "Unsupported opcode." : Emulator × Ending Unit).2.IsTold := by
  cases found with
  | true => exact Ending.isTold_done ()
  | false => exact report_isTold emulator _

theorem step_isTold (emulator : Emulator) (line : String) : (emulator.step line).2.IsTold := by
  unfold step
  split
  · exact Ending.isTold_done ()
  · exact andThen_isTold (attempt_isTold _ _ _) fun after found => supported_isTold after found

/-- Sharing a list lets no fault out. -/
theorem Shared.step_isTold (emulator : Emulator) (line : String) :
    (Shared.step emulator line).2.IsTold := by
  unfold Shared.step
  split
  · exact Ending.isTold_done ()
  · refine andThen_isTold ?_ fun after found => supported_isTold after found
    unfold Shared.executeLine Shared.attempt
    split
    · exact Ending.isTold_done true
    · exact attempt_isTold _ _ _

/-! ### Whole runs -/

theorem runFor_isTold (limit : Nat) (first : Emulator) : (runFor limit first).2.IsTold := by
  induction limit generalizing first with
  | zero =>
      intro cause hraised
      rw [runFor] at hraised
      split at hraised <;> cases hraised
  | succ limit ih =>
      cases hline : first.nextLine? with
      | none =>
          rw [runFor, hline]
          exact Ending.isTold_done _
      | some line =>
          rw [runFor_succ hline]
          exact andThen_isTold (step_isTold first line) fun next _ => ih next

theorem Shared.runFor_isTold (limit : Nat) (first : Emulator) :
    (Shared.runFor limit first).2.IsTold := by
  induction limit generalizing first with
  | zero =>
      intro cause hraised
      rw [Shared.runFor] at hraised
      split at hraised <;> cases hraised
  | succ limit ih =>
      rw [Shared.runFor]
      cases first.nextLine? with
      | none => exact Ending.isTold_done _
      | some line => exact andThen_isTold (Shared.step_isTold first line) fun next _ => ih next

theorem start_isTold (emulator : Emulator) (lines : List String) (machine : Machine)
    (tracing : Bool) : (emulator.start lines machine tracing).2.IsTold := by
  have hscan : ∀ after halt, Listing.scanFrom machine 0 0 (lines.map Text.strip) =
      (after, some halt) → halt.isTold = true :=
    fun _ _ => Listing.scanFrom_isTold machine 0 0 (lines.map Text.strip)
  unfold start declare Listing.scan
  simp only
  generalize Listing.scanFrom machine 0 0 (lines.map Text.strip) = result at hscan ⊢
  obtain ⟨declared, halt?⟩ := result
  cases halt? with
  | none => exact Ending.isTold_done ()
  | some halt =>
      have htold := hscan declared halt rfl
      cases halt with
      | fault cause =>
          rintro _ ⟨⟩
          exact htold
      | fatal message => exact report_isTold _ message

/-- Every fault that a run of a listing lets out can be told. -/
theorem run_isTold (emulator : Emulator) {lines : List String} (hne : lines ≠ [])
    (machine : Machine) (tracing : Bool) (limit : Nat) :
    (emulator.run lines machine tracing limit).2.IsTold ∧
      (Shared.run emulator lines machine tracing limit).2.IsTold := by
  have hstart := start_isTold emulator lines machine tracing
  rw [run, Shared.run, checkLines_of_ne_nil hne]
  exact ⟨andThen_isTold hstart fun next _ => runFor_isTold limit next,
    andThen_isTold hstart fun next _ => Shared.runFor_isTold limit next⟩

/-- Only the empty listing is no listing. -/
theorem run_missingSource_iff (emulator : Emulator) (lines : List String) (machine : Machine)
    (tracing : Bool) (limit : Nat) :
    ((emulator.run lines machine tracing limit).2 = .raised .missingSource ↔ lines = []) ∧
      ((Shared.run emulator lines machine tracing limit).2 = .raised .missingSource ↔
        lines = []) := by
  cases lines with
  | nil => exact ⟨iff_of_true rfl rfl, iff_of_true rfl rfl⟩
  | cons line rest =>
      have hne : line :: rest ≠ [] := List.cons_ne_nil line rest
      obtain ⟨htold, hshared⟩ := run_isTold emulator hne machine tracing limit
      refine ⟨iff_of_false (fun hraised => ?_) hne, iff_of_false (fun hraised => ?_) hne⟩
      · cases htold _ hraised
      · cases hshared _ hraised

end Emulator

end Dalvik
