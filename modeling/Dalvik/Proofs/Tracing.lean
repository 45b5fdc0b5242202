import Dalvik.Proofs.PendingFaults

/-!
# Traces

A run that is traced goes the way of one that is not: it ends alike, on the same machine and after
as many steps. It shows each instruction that it comes to, in the order of the run, and prints all
else behind that. For a run that has printed nothing goes on printing nothing until it ends.
-/

namespace Dalvik.Emulator

open Listing (isPassive)

variable {α : Type} {emulator state : Emulator} {lines : List String} {line : String}

/-- What a trace shows when the line with the given number is run: lines are counted from one, and
only those with an instruction are shown. -/
def traceLine? (lines : List String) (index : Nat) : Option String :=
  (lines[index]?.filter fun line => !isPassive line && (Instruction.ofLine? line).isSome).map
    fun line => lineNumber (index + 1) ++ " " ++ line ++ "\n"

/-- The trace of the lines with the given numbers. -/
def traceText (lines : List String) (path : List Nat) : String :=
  String.join (path.filterMap (traceLine? lines))

/-- The numbers of the lines that `runFor` runs, in order. -/
def pathFor (limit : Nat) (first : Emulator) : List Nat :=
  (runStates limit first).map (·.machine.pc.toNat)

/-- The numbers of the lines that are run once the listing is declared. -/
def path (emulator : Emulator) (lines : List String) (machine : Machine) (limit : Nat) : List Nat :=
  match emulator.start lines machine false with
  | (first, .done _) => pathFor limit first
  | _ => []

theorem traceText_nil (lines : List String) : traceText lines [] = "" := rfl

theorem traceText_cons (lines : List String) (index : Nat) (path : List Nat) :
    traceText lines (index :: path) = traceText lines [index] ++ traceText lines path := by
  simp only [traceText, List.filterMap_cons, List.filterMap_nil]
  cases traceLine? lines index with
  | none => exact String.empty_append.symm
  | some shown => rw [String.join_cons, String.join_cons, String.join_nil, String.append_empty]

/-! ### Printing behind a trace -/

/-- The emulator with a trace before all that it has printed. -/
def withTrace (trace : String) (emulator : Emulator) : Emulator :=
  { emulator with tracing := true, output := trace ++ emulator.output }

variable (trace : String)

theorem withTrace_machine (emulator : Emulator) :
    (emulator.withTrace trace).machine = emulator.machine := rfl

theorem nextLine?_withTrace (emulator : Emulator) :
    (emulator.withTrace trace).nextLine? = emulator.nextLine? := rfl

theorem lineAt_withTrace (emulator : Emulator) (index : Int) :
    (emulator.withTrace trace).lineAt index = emulator.lineAt index := rfl

theorem print_withTrace (emulator : Emulator) (text : String) :
    (emulator.withTrace trace).print text = (emulator.print text).withTrace trace := by
  simp only [print, withTrace, String.append_assoc]

theorem report_withTrace (emulator : Emulator) (message : String) :
    ((emulator.withTrace trace).report message : Emulator × Ending α) =
      (emulator.report message).map (withTrace trace) id := by
  unfold report
  simp only [print_withTrace, lineAt_withTrace, lineAt_print, withTrace_machine, print_machine]
  cases emulator.lineAt (emulator.machine.pc - 1) with
  | ok line => rfl
  | error cause => rfl

theorem perform_withTrace (emulator : Emulator) (action : Action α) :
    (emulator.withTrace trace).perform action =
      (emulator.perform action).map (withTrace trace) id := by
  unfold perform
  rw [withTrace_machine]
  cases action emulator.machine with
  | ok value machine => rfl
  | error halt machine =>
      cases halt with
      | fault cause => rfl
      | fatal message => exact report_withTrace trace { emulator with machine := machine } message

theorem throw_withTrace (emulator : Emulator) (cause : Fault) :
    (emulator.withTrace trace).throw cause =
      (emulator.throw cause).map (withTrace trace) id := by
  have hkept : { emulator.withTrace trace with machine := emulator.machine.keep cause } =
      withTrace trace { emulator with machine := emulator.machine.keep cause } := rfl
  unfold throw
  simp only [withTrace_machine, hkept]
  cases (emulator.machine.keep cause).catcher? with
  | some block => exact perform_withTrace trace _ _
  | none =>
      cases cause.text with
      | ok text => exact report_withTrace trace _ _
      | error obstacle => rfl

theorem execute_withTrace (emulator : Emulator) (instruction : Instruction) :
    (emulator.withTrace trace).execute instruction =
      (emulator.execute instruction).map (withTrace trace) id := by
  unfold execute
  rw [perform_withTrace]
  generalize emulator.perform instruction.execute = result
  obtain ⟨after, ending⟩ := result
  cases ending with
  | raised cause => exact throw_withTrace trace after cause
  | _ => rfl

theorem declare_withTrace (emulator : Emulator) :
    (emulator.withTrace trace).declare = emulator.declare.map (withTrace trace) id := by
  have hsource : (emulator.withTrace trace).source = emulator.source := rfl
  unfold declare
  rw [hsource]
  cases emulator.source with
  | none => rfl
  | some lines =>
      simp only [withTrace_machine]
      generalize Listing.scan emulator.machine (lines.map Text.strip) = result
      obtain ⟨machine, halt⟩ := result
      cases halt with
      | none => rfl
      | some halt =>
          cases halt with
          | fault cause => rfl
          | fatal message =>
              exact report_withTrace trace
                { emulator with source := some (lines.map Text.strip), machine := machine } message

/-! ### Lines -/

section Lines

variable {index : Nat} {instruction : Instruction}

theorem traceText_of_instruction (hindex : lines[index]? = some line)
    (hactive : isPassive line = false) (hread : Instruction.ofLine? line = some instruction) :
    traceText lines [index] = lineNumber (index + 1) ++ " " ++ line ++ "\n" := by
  simp [traceText, traceLine?, hindex, hactive, hread]

theorem traceText_of_not_read (hindex : lines[index]? = some line)
    (hread : isPassive line = true ∨ Instruction.ofLine? line = none) :
    traceText lines [index] = "" := by
  rcases hread with hpassive | hnone
  · simp [traceText, traceLine?, hindex, hpassive]
  · simp [traceText, traceLine?, hindex, hnone]

end Lines

/-- A fault that is caught prints nothing. -/
theorem throw_of_done {cause : Fault} (hdone : (emulator.throw cause).2 = .done ()) :
    ∃ machine, (emulator.throw cause).1 = { emulator with machine := machine } := by
  unfold throw at hdone ⊢
  simp only at hdone ⊢
  cases hblock : (emulator.machine.keep cause).catcher? with
  | some block =>
      simp only [hblock] at hdone ⊢
      rcases Action.enter_cases block (emulator.machine.keep cause) with
        ⟨label, index, -, -, henter⟩ | ⟨-, henter⟩
      · exact ⟨_, congrArg Prod.fst (perform_of_ok henter)⟩
      · cases (congrArg Prod.snd (perform_of_fault henter)).symm.trans hdone
  | none =>
      simp only [hblock] at hdone
      cases htext : cause.text with
      | ok text =>
          simp only [htext] at hdone
          exact absurd hdone (report_ne_done _ _ ())
      | error obstacle =>
          simp only [htext] at hdone
          cases hdone

/-- The lines are run without a trace, and nothing has been printed. -/
structure Silent (lines : List String) (state : Emulator) : Prop where
  source : state.source = some lines
  tracing : state.tracing = false
  output : state.output = ""

theorem Silent.trace_advance (hsilent : Silent lines state) (line : String) :
    state.advance.trace line = state.advance := by
  have htracing : state.advance.tracing = false := hsilent.tracing
  simp [trace, htracing]

/-- A line of a silent run that goes on prints nothing. -/
theorem Silent.step (hsilent : Silent lines state) (hline : state.nextLine? = some line)
    (hdone : (state.step line).2 = .done ()) : Silent lines (state.step line).1 := by
  obtain ⟨machine, hmachine⟩ : ∃ machine,
      (state.step line).1 = { state.advance with machine := machine } := by
    cases hactive : isPassive line with
    | true => exact ⟨state.advance.machine, by simp [Emulator.step, hactive]⟩
    | false =>
        cases hread : Instruction.ofLine? line with
        | none =>
            have hstep : state.step line = state.advance.report "Unsupported opcode." := by
              simp [Emulator.step, hactive, executeLine, attempt, hread, andThen]
            rw [hstep] at hdone
            exact absurd hdone (report_ne_done _ _ ())
        | some instruction =>
            have hexecutes : state.Executes line instruction := ⟨hline, hactive, hread⟩
            rw [hexecutes.step_eq, hsilent.trace_advance] at hdone ⊢
            cases houtcome : instruction.outcome state.advance.machine with
            | ok after => exact ⟨after, rfl⟩
            | error halt =>
                rw [houtcome] at hdone
                cases halt with
                | fault cause => exact throw_of_done hdone
                | fatal message =>
                    rw [settle_fatal (lineAt_advance hline)] at hdone
                    exact absurd hdone (report_ne_done _ message ())
  rw [hmachine]
  exact ⟨hsilent.source, hsilent.tracing, hsilent.output⟩

/-- The trace shows the line before anything else that comes of it. -/
theorem Silent.step_withTrace (hsilent : Silent lines state)
    (hline : state.nextLine? = some line) :
    (state.withTrace trace).step line =
      (state.step line).map
        (withTrace (trace ++ traceText lines [state.machine.pc.toNat])) id := by
  obtain ⟨index, hpc, found, hfound, hindex⟩ := nextLine?_eq_some hline
  cases hsilent.source.symm.trans hfound
  have hnumber : state.machine.pc.toNat = index := by rw [hpc]; rfl
  have hadvance : (state.withTrace trace).advance = state.advance.withTrace trace := rfl
  rw [hnumber]
  unfold Emulator.step executeLine attempt
  cases hactive : isPassive line with
  | true =>
      rw [traceText_of_not_read hindex (.inl hactive), String.append_empty]
      rfl
  | false =>
      cases hread : Instruction.ofLine? line with
      | none =>
          rw [traceText_of_not_read hindex (.inr hread), String.append_empty]
          exact report_withTrace trace state.advance _
      | some instruction =>
          have hshown : (state.advance.withTrace trace).trace line =
              state.advance.withTrace (trace ++ traceText lines [index]) := by
            have houtput : state.advance.output = "" := hsilent.output
            have hplace : state.advance.machine.pc = index + 1 := by
              simp [advance, hpc]
            rw [traceText_of_instruction hindex hactive hread]
            simp [Emulator.trace, withTrace, print, houtput, hplace, String.append_assoc]
          simp only [hadvance, hshown, hsilent.trace_advance, execute_withTrace]
          generalize state.advance.execute instruction = result
          obtain ⟨after, ending⟩ := result
          cases ending <;> rfl

/-! ### Runs -/

/-- The trace of a run stands before what its silent twin prints. -/
theorem Silent.runFor_withTrace (hsilent : Silent lines state) (limit : Nat) :
    runFor limit (state.withTrace trace) =
      (runFor limit state).map (withTrace (trace ++ traceText lines (pathFor limit state))) id := by
  induction limit generalizing state trace with
  | zero =>
      have hpath : pathFor 0 state = [] := rfl
      rw [hpath, traceText_nil, String.append_empty, runFor, runFor, nextLine?_withTrace]
      cases state.nextLine? <;> rfl
  | succ limit ih =>
      cases hline : state.nextLine? with
      | none =>
          have hpath : pathFor (limit + 1) state = [] := by
            rw [pathFor, runStates_of_none hline, List.map_nil]
          rw [hpath, traceText_nil, String.append_empty, runFor, runFor, nextLine?_withTrace, hline]
          rfl
      | some line =>
          have hstep := hsilent.step_withTrace trace hline
          have hnext : (state.withTrace trace).nextLine? = some line := hline
          -- a line that ends the run is traced as well, but none behind it
          by_cases hdone : (state.step line).2 = .done ()
          · have hpath : pathFor (limit + 1) state =
                state.machine.pc.toNat :: pathFor limit (state.step line).1 := by
              rw [pathFor, runStates_of_done hline hdone, List.map_cons, pathFor]
            have htraced : ((state.withTrace trace).step line).2 = .done () := by
              rw [hstep]
              exact hdone
            rw [runFor_of_done hnext htraced, runFor_of_done hline hdone, hpath, traceText_cons,
              ← String.append_assoc, hstep]
            exact ih _ (hsilent.step hline hdone)
          · have hpath : pathFor (limit + 1) state = [state.machine.pc.toNat] := by
              rw [pathFor, runStates_of_ended hline hdone, List.map_singleton]
            rw [runFor_succ hnext, runFor_succ hline, hpath, hstep]
            generalize state.step line = result at hdone ⊢
            obtain ⟨after, ending⟩ := result
            cases ending with
            | done value => exact absurd rfl hdone
            | _ => rfl

theorem start_withTrace (houtput : emulator.output = "") (lines : List String) (machine : Machine) :
    emulator.start lines machine true =
      (emulator.start lines machine false).map (withTrace "") id := by
  unfold start
  rw [← declare_withTrace]
  simp only [withTrace, houtput, String.empty_append]

theorem silent_of_start {first : Emulator} {machine : Machine} (houtput : emulator.output = "")
    (hstart : emulator.start lines machine false = (first, .done ())) :
    Silent (lines.map Text.strip) first := by
  obtain ⟨declared, -, hdeclared⟩ := start_eq_of_done (congrArg Prod.snd hstart)
  have hfirst : first = { emulator with
      source := some (lines.map Text.strip), machine := declared, steps := 0, tracing := false,
      shared := [] } :=
    (congrArg Prod.fst hstart).symm.trans hdeclared
  rw [hfirst]
  exact ⟨rfl, rfl, houtput⟩

theorem path_nil (emulator : Emulator) (machine : Machine) (limit : Nat) :
    emulator.path [] machine limit = [] := by
  have hstart : emulator.start [] machine false =
      ({ emulator with
        source := some [], machine := machine, steps := 0, tracing := false, shared := [] },
        .done ()) := rfl
  have hnone : nextLine? { emulator with
      source := some [], machine := machine, steps := 0, tracing := false, shared := [] } = none := by
    unfold nextLine?
    split
    · rfl
    · split <;> simp_all
  rw [path, hstart]
  exact congrArg (List.map _) (runStates_of_none hnone limit)

theorem run_withTrace (houtput : emulator.output = "") (hne : lines ≠ []) (machine : Machine)
    (limit : Nat) :
    emulator.run lines machine true limit =
      (emulator.run lines machine false limit).map
        (withTrace (traceText (lines.map Text.strip) (emulator.path lines machine limit))) id := by
  have hsilent : ∀ first, emulator.start lines machine false = (first, .done ()) →
      Silent (lines.map Text.strip) first := fun first => silent_of_start houtput
  simp only [run, checkLines_of_ne_nil hne, start_withTrace houtput, path]
  generalize emulator.start lines machine false = result at hsilent ⊢
  obtain ⟨first, ending⟩ := result
  cases ending with
  | done value =>
      have hrun := (hsilent first rfl).runFor_withTrace "" limit
      rw [String.empty_append] at hrun
      exact hrun
  | _ => rfl

/-- **Tracing only observes.** Whatever the listing, the machine and the number of steps, a run with
a trace ends as the run without one does, with the same value or fault, the same machine and as many
steps. It prints the number and the text of each line with an instruction that the run without a
trace comes to, in the order in which it comes to them, and then all that this run prints. -/
theorem run_traced (emulator : Emulator) (lines : List String) (machine : Machine) (limit : Nat) :
    let unheard : Emulator := { emulator with output := "" }
    let silent := unheard.run lines machine false limit
    let traced := unheard.run lines machine true limit
    traced.2 = silent.2 ∧ traced.1.machine = silent.1.machine ∧
      traced.1.source = silent.1.source ∧ traced.1.steps = silent.1.steps ∧
      traced.1.output =
        traceText (lines.map Text.strip) (unheard.path lines machine limit) ++ silent.1.output := by
  intro unheard silent traced
  cases lines with
  | nil =>
      refine ⟨rfl, rfl, rfl, rfl, ?_⟩
      rw [path_nil, traceText_nil]
      rfl
  | cons line rest =>
      have hrun : traced = silent.map (withTrace _) id :=
        @run_withTrace unheard _ rfl (List.cons_ne_nil line rest) machine limit
      clear_value silent traced
      rw [hrun]
      exact ⟨rfl, rfl, rfl, rfl, rfl⟩

end Dalvik.Emulator
