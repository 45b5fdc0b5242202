import Dalvik.Proofs.Captures
import Dalvik.Proofs.InstructionFrame
import Dalvik.Proofs.ProgramCounter

/-!
# Reports

A run is left with a report for three reasons: no form is found in a line, the instruction of a line
asks for something that the machine does not have, or it raises a fault that no guarded block takes.
The report names the line that was run, because an instruction that halts has not moved the place in
the program. Only a fault is kept; for the other reasons the machine is as it was before the line,
and guarded blocks are not asked.
-/

namespace Dalvik

/-! ### What the machine does not have -/

/-- There is no such class, or it has no such method; with the message about it. -/
inductive Library.Lacks (library : Library) (className signature : String) : String → Prop where
  | className (hclass : library.get? className = none) :
      Lacks library className signature ("Unsupported class '" ++ className ++ "'.")
  | method {methods : Table Method} (hclass : library.get? className = some methods)
      (hmethod : methods.get? signature = none) :
      Lacks library className signature
        ("Unsupported method '" ++ signature ++ "' for class '" ++ className ++ "'.")

/-- An instruction asks for something that the machine does not have; with the message about it. -/
inductive Instruction.Unsupported (library : Library) : Instruction → String → Prop where
  | conversion {kind target source : String} (hchar : kind ≠ "char") (hbyte : kind ≠ "byte") :
      Unsupported library (.convert kind target source) ("Unsupported type '" ++ kind ++ "' .")
  | result {kind : String} {source : Option String} (hvoid : kind ≠ "-void")
      (hwide : kind ≠ "-wide") (hobject : kind ≠ "-object") :
      Unsupported library (.exit (some kind) source) "Unsupported return type."
  | created {target descriptor className message : String}
      (hname : ClassName.ofDescriptor descriptor = .ok className)
      (hlacks : library.Lacks className Library.newInstance message) :
      Unsupported library (.newInstance target descriptor) message
  | called {registers : List String} {callee descriptor signature className message : String}
      (hparts : calleeParts callee = .ok (descriptor, signature))
      (hname : ClassName.ofDescriptor descriptor = .ok className)
      (hlacks : library.Lacks className signature message) :
      Unsupported library (.invoke registers callee) message

/-- Conversions, returns, new objects and calls ask for something that the machine may not have. -/
def Instruction.asks : Instruction → Bool
  | .convert .. | .exit .. | .newInstance .. | .invoke .. => true
  | _ => false

theorem Instruction.Unsupported.asks {library : Library} {instruction : Instruction}
    {message : String} (hunsupported : Unsupported library instruction message) :
    instruction.asks = true := by
  cases hunsupported <;> rfl

section NeverFatal

variable {α β : Type} {message : String}

/-- A value, or a fault that the program may catch. -/
def NeverFatal (result : Except Halt α) : Prop :=
  ∀ message, result ≠ .error (.fatal message)

theorem neverFatal_ok (value : α) : NeverFatal (.ok value) := by
  intro message hfatal
  cases hfatal

theorem neverFatal_fault (cause : Fault) : NeverFatal (.error (.fault cause) : Except Halt α) := by
  intro message hfatal
  cases hfatal

theorem bind_eq_fatal_iff {x : Except Halt α} {next : α → Except Halt β} :
    (x >>= next) = .error (.fatal message) ↔
      x = .error (.fatal message) ∨
        ∃ value, x = .ok value ∧ next value = .error (.fatal message) := by
  cases x with
  | ok value => simp [bind, Except.bind]
  | error halt => simp [bind, Except.bind]

/-- A part that only looks is never fatal. -/
theorem lift_bind_eq_fatal_iff {x : Except Fault α} {next : α → Except Halt β} :
    ((liftM x : Except Halt α) >>= next) = .error (.fatal message) ↔
      ∃ value, x = .ok value ∧ next value = .error (.fatal message) := by
  cases x with
  | ok value =>
      change next value = _ ↔ _
      simp
  | error cause =>
      change (.error (.fault cause) : Except Halt β) = _ ↔ _
      simp

theorem neverFatal_lift_bind {x : Except Fault α} {next : α → Except Halt β}
    (hnext : ∀ value, NeverFatal (next value)) :
    NeverFatal ((liftM x : Except Halt α) >>= next) := by
  intro message hfatal
  obtain ⟨value, -, hvalue⟩ := lift_bind_eq_fatal_iff.mp hfatal
  exact hnext value message hvalue

end NeverFatal

namespace Machine

theorem jumpTo_neverFatal (machine : Machine) (label : String) :
    NeverFatal (machine.jumpTo label) := by
  unfold jumpTo
  split
  · exact neverFatal_ok _
  · exact neverFatal_fault _

theorem giveSlice_neverFatal (machine : Machine) (value : Value) (arguments : List String) :
    NeverFatal (machine.giveSlice value arguments) := by
  refine neverFatal_lift_bind fun x => ?_
  refine neverFatal_lift_bind fun first => ?_
  refine neverFatal_lift_bind fun y => ?_
  refine neverFatal_lift_bind fun last => ?_
  exact neverFatal_lift_bind fun made => neverFatal_ok _

theorem method?_eq_fatal_iff {machine : Machine} {className signature message : String} :
    machine.method? className signature = .error (.fatal message) ↔
      machine.library.Lacks className signature message := by
  constructor
  · intro hfatal
    unfold method? at hfatal
    split at hfatal
    · rename_i hclass
      cases hfatal
      exact .className hclass
    · rename_i methods hclass
      split at hfatal
      · rename_i hmethod
        cases hfatal
        exact .method hclass hmethod
      · cases hfatal
  · intro hlacks
    unfold method?
    cases hlacks with
    | className hclass => rw [hclass]
    | method hclass hmethod =>
        rw [hclass]
        simp only [hmethod]

end Machine

/-- A method that was found is carried out. -/
theorem Method.outcome_neverFatal (method : Method) (machine : Machine) (this : String)
    (arguments : List String) : NeverFatal (method.outcome machine this arguments) := by
  cases method with
  | create className => exact neverFatal_fault _
  | textOfChars | toChars | intern | builderText | length | parseInt | parseDecimal =>
      exact neverFatal_lift_bind fun value => neverFatal_lift_bind fun made => neverFatal_ok _
  | charAt | append =>
      exact neverFatal_lift_bind fun x => neverFatal_lift_bind fun y =>
        neverFatal_lift_bind fun made => neverFatal_ok _
  | textOfRange =>
      exact neverFatal_lift_bind fun chars => neverFatal_lift_bind fun text =>
        machine.giveSlice_neverFatal _ arguments
  | substring =>
      exact neverFatal_lift_bind fun value => machine.giveSlice_neverFatal value arguments
  | initBuilder => exact neverFatal_ok machine

namespace Instruction

variable {machine : Machine} {message : String}

theorem leaveOutcome_eq_fatal_iff {kind source : Option String} :
    leaveOutcome machine kind source = .error (.fatal message) ↔
      Unsupported machine.library (.exit kind source) message := by
  have hread (register : String) (give : Value → Machine) :
      NeverFatal (do return give (← machine.read register)) :=
    neverFatal_lift_bind fun value => neverFatal_ok _
  constructor
  · intro hfatal
    unfold leaveOutcome at hfatal
    split at hfatal
    · cases hfatal
    · cases hfatal
    · exact absurd hfatal (hread _ _ message)
    · exact absurd hfatal (hread _ _ message)
    · exact absurd hfatal (hread _ _ message)
    · cases hfatal
    · cases hfatal
    · rename_i kind hvoid hwideSome hobjectSome hwideNone hobjectNone
      cases hfatal
      refine .result hvoid (fun hwide => ?_) fun hobject => ?_
      · cases source with
        | none => exact hwideNone rfl hwide
        | some register => exact hwideSome register rfl hwide
      · cases source with
        | none => exact hobjectNone rfl hobject
        | some register => exact hobjectSome register rfl hobject
  · intro hunsupported
    cases hunsupported with
    | result hvoid hwide hobject => exact leaveOutcome_other hvoid hwide hobject

theorem narrowOutcome_eq_fatal_iff {kind target source : String} :
    narrowOutcome machine kind target source = .error (.fatal message) ↔
      Unsupported machine.library (.convert kind target source) message := by
  have hread (change : Value → Except Fault Value) :
      NeverFatal (do return machine.write target (← change (← machine.read source))) :=
    neverFatal_lift_bind fun value => neverFatal_lift_bind fun changed => neverFatal_ok _
  constructor
  · intro hfatal
    unfold narrowOutcome at hfatal
    split at hfatal
    · exact absurd hfatal (hread lowChar message)
    · exact absurd hfatal (hread byteOf message)
    · rename_i hchar hbyte
      cases hfatal
      exact .conversion hchar hbyte
  · intro hunsupported
    cases hunsupported with
    | conversion hchar hbyte =>
        unfold narrowOutcome
        split
        · exact absurd rfl hchar
        · exact absurd rfl hbyte
        · rfl

theorem created_eq_fatal_iff {target descriptor : String} :
    (outcome machine (.newInstance target descriptor)) = .error (.fatal message) ↔
      Unsupported machine.library (.newInstance target descriptor) message := by
  constructor
  · intro hfatal
    rcases bind_eq_fatal_iff.mp hfatal with hnew | ⟨value, -, hdone⟩
    · obtain ⟨className, hname, hmethod⟩ := lift_bind_eq_fatal_iff.mp hnew
      rcases bind_eq_fatal_iff.mp hmethod with hlacks | ⟨method, -, hdone⟩
      · exact .created hname (Machine.method?_eq_fatal_iff.mp hlacks)
      · cases hdone
    · cases hdone
  · intro hunsupported
    cases hunsupported with
    | created hname hlacks =>
        refine bind_eq_fatal_iff.mpr (Or.inl ?_)
        refine lift_bind_eq_fatal_iff.mpr ⟨_, hname, bind_eq_fatal_iff.mpr (Or.inl ?_)⟩
        exact Machine.method?_eq_fatal_iff.mpr hlacks

theorem called_eq_fatal_iff {registers : List String} {callee : String} :
    (outcome machine (.invoke registers callee)) = .error (.fatal message) ↔
      Unsupported machine.library (.invoke registers callee) message := by
  constructor
  · intro hfatal
    rcases bind_eq_fatal_iff.mp hfatal with hcallee | ⟨method, -, hcall⟩
    · obtain ⟨⟨descriptor, signature⟩, hparts, hclass⟩ := lift_bind_eq_fatal_iff.mp hcallee
      obtain ⟨className, hname, hlacks⟩ := lift_bind_eq_fatal_iff.mp hclass
      exact .called hparts hname (Machine.method?_eq_fatal_iff.mp hlacks)
    · exact absurd hcall (method.outcome_neverFatal machine _ _ message)
  · intro hunsupported
    cases hunsupported with
    | called hparts hname hlacks =>
        refine bind_eq_fatal_iff.mpr (Or.inl ?_)
        refine lift_bind_eq_fatal_iff.mpr ⟨_, hparts, lift_bind_eq_fatal_iff.mpr ⟨_, hname, ?_⟩⟩
        exact Machine.method?_eq_fatal_iff.mpr hlacks

/-- Every other instruction completes or raises a fault. -/
theorem outcome_neverFatal {instruction : Instruction} (hasks : instruction.asks = false) :
    NeverFatal (instruction.outcome machine) := by
  have htake (taken : Bool) (label : String) :
      NeverFatal (if taken then machine.jumpTo label else return machine) := by
    cases taken with
    | true => exact machine.jumpTo_neverFatal label
    | false => exact neverFatal_ok machine
  cases instruction with
  | const | move | staticGet | staticPut | literalArithmetic =>
      exact neverFatal_lift_bind fun value => neverFatal_ok _
  | constString => exact neverFatal_fault _
  | moveResult => exact neverFatal_ok _
  | moveException target =>
      rw [outcome]
      split
      · exact neverFatal_ok _
      · exact neverFatal_fault _
  | branch test left right label =>
      exact neverFatal_lift_bind fun x => neverFatal_lift_bind fun y =>
        neverFatal_lift_bind fun taken => htake taken label
  | branchZero test source label =>
      exact neverFatal_lift_bind fun x => neverFatal_lift_bind fun taken => htake taken label
  | goto label => exact machine.jumpTo_neverFatal label
  | packedSwitch source table =>
      refine neverFatal_lift_bind fun value => neverFatal_lift_bind fun label? => ?_
      cases label? with
      | some label => exact machine.jumpTo_neverFatal label
      | none => exact neverFatal_ok machine
  | arrayLength | newArray =>
      exact neverFatal_lift_bind fun value => neverFatal_lift_bind fun made => neverFatal_ok _
  | fillArray target label =>
      rw [outcome]
      split
      · exact neverFatal_ok _
      · exact neverFatal_fault _
  | arrayGet | arithmetic =>
      exact neverFatal_lift_bind fun x => neverFatal_lift_bind fun y =>
        neverFatal_lift_bind fun made => neverFatal_ok _
  | arrayPut =>
      refine neverFatal_lift_bind fun position => neverFatal_lift_bind fun place => ?_
      refine neverFatal_lift_bind fun sequence => neverFatal_lift_bind fun item => ?_
      exact neverFatal_lift_bind fun heap => neverFatal_ok _
  | xorInto =>
      refine neverFatal_lift_bind fun y => neverFatal_lift_bind fun x => ?_
      exact neverFatal_lift_bind fun number => neverFatal_lift_bind fun made => neverFatal_ok _
  | convert | exit | newInstance | invoke => cases hasks

theorem outcome_eq_fatal_iff (instruction : Instruction) :
    instruction.outcome machine = .error (.fatal message) ↔
      Unsupported machine.library instruction message := by
  cases hasks : instruction.asks with
  | false =>
      refine iff_of_false (outcome_neverFatal hasks message) fun hunsupported => ?_
      rw [hunsupported.asks] at hasks
      cases hasks
  | true =>
      cases instruction with
      | convert kind target source => exact narrowOutcome_eq_fatal_iff
      | exit kind source => exact leaveOutcome_eq_fatal_iff
      | newInstance target descriptor => exact created_eq_fatal_iff
      | invoke registers callee => exact called_eq_fatal_iff
      | _ => cases hasks

end Instruction

namespace Emulator

variable {emulator state : Emulator} {lines : List String} {arguments : Table Datum}
  {tracing : Bool} {limit : Nat} {line message : String} {kept : Option Fault}

/-! ### One line -/

/-- Why the next line leaves the program with a report: the fault that is kept, if it is one that no
block takes, and the message. -/
inductive Reported (state : Emulator) (line : String) : Option Fault → String → Prop where
  | opcode (hactive : Listing.isPassive line = false)
      (hform : ∀ form : Form, form.groups? line = none) :
      Reported state line none "Unsupported opcode."
  | unsupported {instruction : Instruction} {message : String}
      (hexecutes : state.Executes line instruction)
      (hunsupported : instruction.Unsupported state.machine.library message) :
      Reported state line none message
  | unhandled {instruction : Instruction} {cause : Fault} {text : String}
      (hexecutes : state.Executes line instruction)
      (hfault : instruction.outcome state.advance.machine = .error (.fault cause))
      (hblock : state.advance.machine.catcher? = none) (htext : cause.text = .ok text) :
      Reported state line (some cause) ("Unhandled exception '" ++ text ++ "'.")

/-- The emulator when the line is tried: it has moved on, and shows a line that has an instruction
while it is tracing. -/
def tried (state : Emulator) (line : String) : Emulator :=
  if (Instruction.ofLine? line).isSome then state.advance.trace line else state.advance

/-- The emulator after the report on the line that was run. -/
def reported (state : Emulator) (line : String) (kept : Option Fault) (message : String) :
    Emulator :=
  { state.tried line with
    machine := (kept.map state.advance.machine.keep).getD state.advance.machine
    output := (state.tried line).output ++ reportText (state.machine.pc + 1) line message }

theorem tried_machine (state : Emulator) (line : String) :
    (state.tried line).machine = state.advance.machine := by
  unfold tried
  split
  · exact trace_machine state.advance line
  · rfl

/-- A report on no fault keeps the pending ones. -/
theorem reported_pending (state : Emulator) (line message : String) :
    (state.reported line none message).machine.pending = state.machine.pending := rfl

theorem tried_source (state : Emulator) (line : String) :
    (state.tried line).source = state.source := by
  unfold tried
  split
  · exact trace_source state.advance line
  · rfl

theorem Executes.tried_eq {instruction : Instruction}
    (hexecutes : state.Executes line instruction) :
    state.tried line = state.advance.trace line := by
  rw [tried, hexecutes.read, Option.isSome_some, if_pos rfl]

/-- As long as the place has not changed since the line was tried, a report finds that line. -/
theorem report_tried (hline : state.nextLine? = some line) {machine : Machine}
    (hpc : machine.pc = state.machine.pc + 1) (message : String) :
    ({ state.tried line with machine := machine }.report message : Emulator × Ending Unit) =
      ({ state.tried line with
        machine := machine
        output := (state.tried line).output ++ reportText (state.machine.pc + 1) line message },
        .exited) := by
  have hfound : ({ state.tried line with machine := machine } : Emulator).lineAt (machine.pc - 1) =
      .ok line := by
    rw [← lineAt_advance hline, hpc]
    exact lineAt_congr (tried_source state line) _
  rw [report_of_line hfound, hpc]

/-- The report is made, and it is about the line that was run. -/
theorem Reported.step_eq (hline : state.nextLine? = some line)
    (hreported : Reported state line kept message) :
    state.step line = (state.reported line kept message, .exited) := by
  have hsame : { state.tried line with machine := state.advance.machine } = state.tried line := by
    rw [← tried_machine]
  cases hreported with
  | opcode hactive hform =>
      have hread : Instruction.ofLine? line = none := Instruction.ofLine?_eq_none_iff.mpr hform
      have htried : state.tried line = state.advance := by
        rw [tried, hread, Option.isSome_none, if_neg Bool.false_ne_true]
      have hstep : state.step line = (state.tried line).report "Unsupported opcode." := by
        simp [step, hactive, executeLine, attempt, hread, andThen, htried]
      rw [hstep, ← hsame]
      exact report_tried hline rfl _
  | unsupported hexecutes hunsupported =>
      rename_i instruction
      have hfatal : instruction.outcome state.advance.machine = .error (.fatal message) :=
        instruction.outcome_eq_fatal_iff.mpr hunsupported
      have hstep : state.step line = (state.tried line).report message := by
        rw [hexecutes.step_eq, hfatal, hexecutes.tried_eq]
        exact settle_fatal (lineAt_trace_advance hline)
      rw [hstep, ← hsame]
      exact report_tried hline rfl _
  | unhandled hexecutes hfault hblock htext =>
      rename_i cause text
      have hcatcher : (state.advance.machine.keep cause).catcher? = none := hblock
      rw [hexecutes.step_eq, hfault, ← hexecutes.tried_eq]
      simp only [settle, throw, hcatcher, htext, tried_machine]
      exact report_tried hline rfl _

/-- A fault leaves the program with a report if no block takes it and it has a text. -/
theorem throw_exited {cause : Fault} (hexited : (emulator.throw cause).2 = .exited) :
    emulator.machine.catcher? = none ∧ ∃ text, cause.text = .ok text := by
  obtain ⟨after, ending, hthrow, -, -, hhanded⟩ :=
    @throw_handedOn emulator cause emulator rfl rfl
  rw [hthrow] at hexited
  cases hexited
  cases hhanded with
  | unhandled hblock _ htext => exact ⟨hblock, _, htext⟩

theorem exists_reported (hline : state.nextLine? = some line)
    (hexited : (state.step line).2 = .exited) :
    ∃ kept message, Reported state line kept message := by
  cases hactive : Listing.isPassive line with
  | true =>
      rw [step, hactive, if_pos rfl] at hexited
      cases hexited
  | false =>
      cases hread : Instruction.ofLine? line with
      | none => exact ⟨none, _, .opcode hactive (Instruction.ofLine?_eq_none_iff.mp hread)⟩
      | some instruction =>
          have hexecutes : state.Executes line instruction := ⟨hline, hactive, hread⟩
          rw [hexecutes.step_eq] at hexited
          cases houtcome : instruction.outcome state.advance.machine with
          | ok after =>
              rw [houtcome] at hexited
              cases hexited
          | error halt =>
              cases halt with
              | fatal message =>
                  have hunsupported := (Instruction.outcome_eq_fatal_iff _).mp houtcome
                  exact ⟨none, message, .unsupported hexecutes hunsupported⟩
              | fault cause =>
                  rw [houtcome] at hexited
                  obtain ⟨hblock, text, htext⟩ := throw_exited hexited
                  rw [trace_machine] at hblock
                  exact ⟨some cause, _, .unhandled hexecutes houtcome hblock htext⟩

/-! ### Whole runs -/

/-- No line changes what the machine has. -/
theorem step_library (hline : state.nextLine? = some line) :
    (state.step line).1.machine.library = state.machine.library := by
  rcases step_idle_or_executes hline with ⟨-, hmachine⟩ | ⟨instruction, hexecutes⟩
  · rw [hmachine]
    rfl
  · rw [hexecutes.step_eq]
    cases houtcome : instruction.outcome state.advance.machine with
    | ok after => exact (Instruction.outcome_frame houtcome).library
    | error halt =>
        rw [settle_error_machine, trace_machine]
        rfl

theorem library_of_run
    (hreached : emulator.run lines (({} : Machine).load arguments) tracing limit =
      (state, .outOfSteps)) : state.machine.library = Library.standard := by
  obtain ⟨hdone, hrun, -⟩ := run_eq_outOfSteps hreached
  obtain ⟨declared, hscan, hstart⟩ := start_eq_of_done hdone
  have hstarted : (emulator.start lines (({} : Machine).load arguments) tracing).1.machine.library =
      Library.standard := by
    rw [hstart]
    change declared.library = _
    rw [(Listing.scan_frame hscan).2, Machine.load_frame]
  have hmem := runFor_mem_states limit
    (emulator.start lines (({} : Machine).load arguments) tracing).1
  rw [hrun] at hmem
  refine statesFor_induction (motive := fun current => current.machine.library = Library.standard)
    (fun current line hcurrent hnext => ?_) limit hstarted state hmem
  exact (step_library hnext).trans hcurrent

/-- **Reports name the line that was run, and guarded blocks see nothing but faults.** A line leaves
the program exactly if no form is found in it, if it asks for something that the machine does not
have, or if no block takes its fault. The run then ends: the report is the last that is printed,
with the number and the text of the line. The machine has moved on by that one line; nothing else in
it has changed, but that a fault which no block takes is kept. The texts that the run evaluates are
self-contained. -/
theorem run_reports_exactly (emulator : Emulator) (lines : List String) (arguments : Table Datum)
    (tracing : Bool) (limit : Nat) (state : Emulator) (line : String)
    (hconfined : ∀ steps, Confined steps
      (emulator.start lines (({} : Machine).load arguments) tracing).1)
    (hreached : Shared.run emulator lines (({} : Machine).load arguments) tracing limit =
      (state, .outOfSteps))
    (hline : state.nextLine? = some line) :
    ∃ index : Nat, state.machine.pc = index ∧ (lines.map Text.strip)[index]? = some line ∧
      state.machine.library = Library.standard ∧
      ((Shared.step state line).2 = .exited ↔ ∃ kept message, Reported state line kept message) ∧
      ∀ kept message, Reported state line kept message →
        (∀ more, Shared.run emulator lines (({} : Machine).load arguments) tracing
            (limit + (more + 1)) =
          (state.reported line kept message, .exited)) ∧
        (state.reported line kept message).output =
          (state.tried line).output ++ reportText (index + 1) line message ∧
        (state.reported line kept message).machine =
          { (kept.map state.machine.keep).getD state.machine with pc := index + 1 } := by
  rw [(hconfined limit).run_eq] at hreached
  rw [(hconfined limit).step_of_run hreached hline]
  obtain ⟨-, -, hmore⟩ := run_eq_outOfSteps hreached
  obtain ⟨index, hpc, hindex⟩ := (inProgram_of_run hreached).onLine_of_nextLine? hline
  refine ⟨index, hpc, hindex, library_of_run hreached, ⟨exists_reported hline, ?_⟩, ?_⟩
  · rintro ⟨kept, message, hreported⟩
    rw [hreported.step_eq hline]
  · intro kept message hreported
    have hstep := hreported.step_eq hline
    refine ⟨fun more => ?_, ?_, ?_⟩
    · have hexited : (state.step line).2 = .exited := by rw [hstep]
      rw [(hconfined _).run_eq, hmore, runFor_of_exited hline hexited, hstep]
    · rw [reported, hpc]
    · rw [reported, ← hpc]
      cases kept <;> rfl

/-- An object of a class that the machine does not have is made in a guarded block. -/
def unknownClassListing : List String := [
  ":try_start_0", "  new-instance v0, Lfoo/Bar;", ":try_end_0",
  ".catch Ljava/lang/Exception; \x7b:try_start_0 .. :try_end_0\x7d :caught", ":caught",
  "return-void"]

def unknownClassRun (limit : Nat) : Emulator × Ending Value :=
  Shared.run {} unknownClassListing (({} : Machine).load []) false limit

/-- The block around the line is there, but its handler is not entered. -/
theorem run_reports_exactly_unknownClass :
    ∃ state, unknownClassRun 1 = (state, .outOfSteps) ∧
      state.nextLine? = some "new-instance v0, Lfoo/Bar;" ∧
      state.advance.machine.catcher?.bind (·.handler) = some ":caught" ∧
      ∀ more, ∃ final, unknownClassRun (1 + (more + 1)) = (final, .exited) ∧
        final.output =
          reportText 2 "new-instance v0, Lfoo/Bar;" "Unsupported class 'foo.Bar'." ∧
        final.machine.pc = 2 ∧ final.machine.pending = [] := by
  have hfacts : isOutOfSteps (unknownClassRun 1).2 = true ∧
      (unknownClassRun 1).1.nextLine? = some "new-instance v0, Lfoo/Bar;" ∧
      (unknownClassRun 1).1.advance.machine.catcher?.bind (·.handler) = some ":caught" ∧
      Listing.isPassive "new-instance v0, Lfoo/Bar;" = false ∧
      Instruction.ofLine? "new-instance v0, Lfoo/Bar;" = some (.newInstance "v0" "Lfoo/Bar;") ∧
      ClassName.ofDescriptor "Lfoo/Bar;" = .ok "foo.Bar" ∧
      (unknownClassRun 1).1.machine.library.get? "foo.Bar" = none ∧
      ((unknownClassRun 1).1.tried "new-instance v0, Lfoo/Bar;").output = "" ∧
      (unknownClassRun 1).1.machine.pc = 1 ∧ (unknownClassRun 1).1.machine.pending = [] ∧
      EndsConfined 9
        (Emulator.start {} unknownClassListing (({} : Machine).load []) false).1 := by
    decide +kernel
  obtain ⟨hout, hnext, hblock, hactive, hread, hname, hclass, houtput, hpc, hpending, hends⟩ :=
    hfacts
  have hreached := eq_mk_of_snd_eq (isOutOfSteps_iff.mp hout)
  generalize (unknownClassRun 1).1 = state at hreached hnext hblock hclass houtput hpc hpending
  refine ⟨state, hreached, hnext, hblock, fun more => ?_⟩
  have hmessage : "Unsupported class '" ++ "foo.Bar" ++ "'." = "Unsupported class 'foo.Bar'." := by
    decide
  have hreported : Reported state "new-instance v0, Lfoo/Bar;" none
      "Unsupported class 'foo.Bar'." := by
    rw [← hmessage]
    exact .unsupported ⟨hnext, hactive, hread⟩ (.created hname (.className hclass))
  obtain ⟨index, hindex, -, -, -, hends⟩ :=
    run_reports_exactly {} unknownClassListing [] false 1 state _ hends.confined hreached hnext
  obtain ⟨hrun, hshown, hmachine⟩ := hends none _ hreported
  have hplace : (index : Int) + 1 = 2 := by
    rw [← hindex, hpc]
    rfl
  rw [houtput, hplace, String.empty_append] at hshown
  rw [hplace] at hmachine
  refine ⟨_, hrun more, hshown, ?_, ?_⟩
  · rw [hmachine]
  · rw [reported_pending]
    exact hpending

/-- The text of a sum reaches the lines of the listing, and a line further down is replaced. -/
def replacedLineListing : List String := [
  "add-int/lit8 v0, p0, -1 or vm.emu.source.lines", "const v1, 3", "aput p1, v0, v1",
  "frobnicate v2"]

def replacedLineRun : Emulator × Ending Value :=
  Shared.run {} replacedLineListing
    (({} : Machine).load [("p0", .int 1), ("p1", .text "something else")]) false 3

/-- The line that is run and reported is not that of the listing. -/
theorem replacedLineListing_reports_other_line :
    isOutOfSteps replacedLineRun.2 = true ∧ replacedLineRun.1.machine.pc = 3 ∧
      (replacedLineListing.map Text.strip)[3]? = some "frobnicate v2" ∧
      replacedLineRun.1.nextLine? = some "something else" ∧
      (Shared.step replacedLineRun.1 "something else").2 = .exited ∧
      (Shared.step replacedLineRun.1 "something else").1.output =
        reportText 4 "something else" "Unsupported opcode." := by
  decide +kernel

end Emulator

end Dalvik
