import Dalvik.Proofs.ProgramCounter
import Dalvik.Proofs.TameInstructions

/-!
# Faults stay in the program

A fault goes to a handler, or ends the program in a report on its line. Three things could let it
out: a handler without a label, a line that the report cannot find, and a fault without a text. The
first is excluded by the labels that are declared, the second by the place in the program, and the
third by tame values. Only the elements of constant data have to be looked at for that, besides the
constants and arguments of a program: a table among them has keys that cannot be told.
-/

namespace Dalvik

open Value Heap

/-! ### From the arguments to the start -/

namespace Machine

theorem tame_new : ({} : Machine).Tame where
  registers _ _ hvalue := nomatch hvalue
  result := tame_of_within fun _ => trivial
  arrays _ _ hdata := nomatch hdata

theorem Tame.load {machine : Machine} (htame : machine.Tame) {arguments : Table Datum}
    (hplain : ∀ entry ∈ arguments, entry.2.isPlain = true) : (machine.load arguments).Tame := by
  induction arguments generalizing machine with
  | nil => exact htame
  | cons entry rest ih =>
      have hstored := Datum.store_tame machine.heap entry.2 (hplain entry List.mem_cons_self)
      exact ih (htame.writeFrom hstored entry.1)
        fun other hother => hplain other (List.mem_cons_of_mem entry hother)

/-- Every block hands its faults to a label that is declared. -/
def HandlersDeclared (machine : Machine) : Prop :=
  ∀ block ∈ machine.catchBlocks, (block.handler.bind machine.labels.get?).isSome = true

end Machine

namespace Emulator

variable {emulator state started : Emulator} {lines : List String} {arguments : Table Datum}
  {line : String} {tracing : Bool}

/-- The start of a run leaves the arguments as they were put into the store. -/
theorem tame_start
    (hstart : emulator.start lines (({} : Machine).load arguments) tracing = (started, .done ()))
    (harguments : ∀ entry ∈ arguments, entry.2.isPlain = true)
    (hdata : ∀ entry ∈ started.machine.arrays,
      ∃ depth, started.machine.heap.holdsPlain depth (.list entry.2.elements) = true) :
    started.machine.Tame := by
  have hdone : (emulator.start lines (({} : Machine).load arguments) tracing).2 = .done () := by
    rw [hstart]
  obtain ⟨declared, hscan, hstarted⟩ := start_eq_of_done hdone
  rw [hstart] at hstarted
  subst hstarted
  obtain ⟨hgrows, hframe⟩ := Listing.scan_frame hscan
  have hloaded : (({} : Machine).load arguments).Tame := Machine.tame_new.load harguments
  have hregisters : declared.registers = (({} : Machine).load arguments).registers := by rw [hframe]
  have hresult : declared.result = (({} : Machine).load arguments).result := by rw [hframe]
  refine ⟨fun register value hvalue => ?_, ?_, fun label data hlabel => ?_⟩
  · exact hgrows.keepsTame value (hloaded.registers register value (hregisters ▸ hvalue))
  · exact hgrows.keepsTame _ (hresult ▸ hloaded.result)
  · obtain ⟨depth, hplain⟩ := hdata (label, data) (Table.mem_of_get? hlabel)
    exact tame_of_holdsPlain hplain

/-! ### One line -/

/-- What becomes of a line whose fault, if it has one, stays in the program. -/
inductive Contained (line : String) : Emulator × Ending Unit → Prop where
  /-- The program goes on, with the next line or at a label. -/
  | goesOn (after : Emulator) : Contained line (after, .done ())
  /-- The program ends in a report, which finds the line that was run. -/
  | reported {reporting after : Emulator} {message : String}
      (hline : reporting.lineAt (reporting.machine.pc - 1) = .ok line)
      (hreport : (reporting.report message : Emulator × Ending Unit) = (after, .exited)) :
      Contained line (after, .exited)

theorem contained_report (hline : emulator.lineAt (emulator.machine.pc - 1) = .ok line)
    (message : String) : Contained line (emulator.report message) := by
  rw [report_of_line hline]
  exact .reported hline (report_of_line hline message)

theorem Contained.ne_raised {result : Emulator × Ending Unit} (hcontained : Contained line result)
    (cause : Fault) : result.2 ≠ .raised cause := by
  cases hcontained <;> exact fun hraised => nomatch hraised

/-- A fault that can be told goes to a handler that is there, or into a report. -/
theorem throw_contained {cause : Fault} (hhandlers : emulator.machine.HandlersDeclared)
    (hline : emulator.lineAt (emulator.machine.pc - 1) = .ok line) (htold : cause.isTold = true) :
    Contained line (emulator.throw cause) := by
  obtain ⟨text, htext⟩ := Fault.text_of_isTold htold
  have hcatcher : (emulator.machine.keep cause).catcher? = emulator.machine.catcher? := rfl
  cases hblock : emulator.machine.catcher? with
  | none =>
      simp only [throw, hcatcher, hblock, htext]
      refine contained_report ?_ _
      exact hline
  | some block =>
      have hdeclared := hhandlers block (List.mem_of_find?_eq_some hblock)
      obtain ⟨index, hhandler⟩ := Option.isSome_iff_exists.mp hdeclared
      obtain ⟨label, hlabel, hindex⟩ := Option.bind_eq_some_iff.mp hhandler
      have henter : Action.enter block (emulator.machine.keep cause) =
          .ok () { emulator.machine.keep cause with pc := index } := by
        simp only [Action.enter, hlabel]
        exact Action.jump_of_some hindex
      simp only [throw, hcatcher, hblock, perform, henter]
      exact .goesOn _

/-- An outcome that can be reported stays in the program. -/
theorem settle_contained {result : Except Halt Machine}
    (hhandlers : emulator.machine.HandlersDeclared)
    (hline : emulator.lineAt (emulator.machine.pc - 1) = .ok line)
    (hresult : Settles Machine.Tame result) : Contained line (emulator.settle result) := by
  cases hresult with
  | ok => exact .goesOn _
  | @error halt htold =>
      cases halt with
      | fault cause => exact throw_contained hhandlers hline htold
      | fatal message =>
          rw [settle_fatal hline]
          exact contained_report hline message

/-- Neither a fault nor a report touches what a program can get hold of. -/
theorem settle_tame {result : Except Halt Machine} (htame : emulator.machine.Tame)
    (hline : emulator.lineAt (emulator.machine.pc - 1) = .ok line)
    (hresult : Settles Machine.Tame result) : (emulator.settle result).1.machine.Tame := by
  cases hresult with
  | ok hafter => exact hafter
  | @error halt _ =>
      cases halt with
      | fault cause =>
          simp only [settle]
          rw [throw_machine]
          exact ⟨htame.registers, htame.result, htame.arrays⟩
      | fatal message =>
          rw [settle_fatal hline, report_of_line hline]
          exact htame

/-- What the line that is run next evaluates calculates with integers. -/
def evaluatesIntegers (state : Emulator) : Bool :=
  (state.nextLine?.bind Instruction.ofLine?).all (·.evaluatesIntegers state.advance.machine)

/-- A line that is run on a tame machine stays in the program and leaves the machine tame. -/
theorem step_contained (hline : state.nextLine? = some line) (htame : state.machine.Tame)
    (hhandlers : state.machine.HandlersDeclared)
    (hplain : (Instruction.ofLine? line).all Instruction.isPlain = true)
    (hintegral : state.evaluatesIntegers = true) :
    Contained line (state.step line) ∧ (state.step line).1.machine.Tame := by
  have hplace := lineAt_advance hline
  have hadvanced : state.advance.machine.Tame := ⟨htame.registers, htame.result, htame.arrays⟩
  cases hpassive : Listing.isPassive line with
  | true =>
      simp only [step, hpassive, if_true]
      exact ⟨.goesOn _, hadvanced⟩
  | false =>
      cases hread : Instruction.ofLine? line with
      | none =>
          have hstep : state.step line = state.advance.report "Unsupported opcode." := by
            simp [step, hpassive, executeLine, attempt, hread, andThen]
          rw [hstep]
          refine ⟨contained_report hplace _, ?_⟩
          rw [report_of_line hplace]
          exact hadvanced
      | some instruction =>
          simp only [evaluatesIntegers, hline, hread, Option.bind_some, Option.all_some]
            at hintegral
          rw [hread, Option.all_some] at hplain
          have houtcome := instruction.outcome_tame hadvanced hplain hintegral
          have htraced := lineAt_trace_advance hline
          rw [step_eq_settle state hpassive hread]
          refine ⟨settle_contained ?_ htraced houtcome, settle_tame ?_ htraced houtcome⟩
          · rw [trace_machine]
            exact hhandlers
          · rw [trace_machine]
            exact hadvanced

/-! ### Whole runs -/

/-- **Faults stay in the program.** In a run of a listing whose handlers are declared, whose
constants, arguments and constant data are plain and whose evaluated texts calculate with integers,
every line goes on or ends the run in a report that finds the line, and the run lets no fault
out. -/
theorem run_contains_faults (emulator : Emulator) (lines : List String) (arguments : Table Datum)
    (tracing : Bool) (limit : Nat) (started : Emulator) (hlines : lines ≠ [])
    (hstart : emulator.start lines (({} : Machine).load arguments) tracing = (started, .done ()))
    (hhandlers : started.machine.HandlersDeclared)
    (harguments : ∀ entry ∈ arguments, entry.2.isPlain = true)
    (hconstants : ∀ line ∈ lines.map Text.strip,
      (Instruction.ofLine? line).all Instruction.isPlain = true)
    (hdata : ∀ entry ∈ started.machine.arrays,
      ∃ depth, started.machine.heap.holdsPlain depth (.list entry.2.elements) = true)
    (htexts : ∀ state ∈ started :: statesFor limit started, state.evaluatesIntegers = true) :
    (∀ state ∈ started :: statesFor limit started, ∀ line, state.nextLine? = some line →
      state.advance.lineAt (state.advance.machine.pc - 1) = .ok line ∧
        Contained line (state.step line)) ∧
    ∀ cause,
      (emulator.run lines (({} : Machine).load arguments) tracing limit).2 ≠ .raised cause := by
  have hfirst : InProgram (lines.map Text.strip) started.machine started ∧
      started.machine.Tame := by
    refine ⟨?_, tame_start hstart harguments hdata⟩
    have hin := inProgram_start
      (show (emulator.start lines (({} : Machine).load arguments) tracing).2 = .done () by
        rw [hstart])
    rwa [hstart] at hin
  -- what one line does, in a state that stands in the program with a tame machine
  have hline : ∀ state ∈ started :: statesFor limit started, ∀ line,
      InProgram (lines.map Text.strip) started.machine state ∧ state.machine.Tame →
      state.nextLine? = some line →
      Contained line (state.step line) ∧ (state.step line).1.machine.Tame := by
    rintro state hstate line ⟨hin, htame⟩ hnext
    obtain ⟨index, -, hfound⟩ := hin.onLine_of_nextLine? hnext
    refine step_contained hnext htame ?_ (hconstants line (List.mem_of_getElem? hfound))
      (htexts state hstate)
    unfold Machine.HandlersDeclared
    rw [hin.tables.catchBlocks, hin.tables.labels]
    exact hhandlers
  have hstates : ∀ state ∈ started :: statesFor limit started,
      InProgram (lines.map Text.strip) started.machine state ∧ state.machine.Tame := by
    refine statesFor_induction_mem limit (fun state hstate line hinv hnext => ?_) hfirst
    exact ⟨hinv.1.step hnext, (hline state hstate line hinv hnext).2⟩
  have hcontained : ∀ state ∈ started :: statesFor limit started, ∀ line,
      state.nextLine? = some line → Contained line (state.step line) :=
    fun state hstate line hnext => (hline state hstate line (hstates state hstate) hnext).1
  refine ⟨fun state hstate line hnext => ?_, fun cause => ?_⟩
  · exact ⟨lineAt_advance hnext, hcontained state hstate line hnext⟩
  · simp only [run, checkLines_of_ne_nil hlines, hstart, andThen]
    exact runFor_ne_raised
      (fun state hstate line hnext => (hcontained state hstate line hnext).ne_raised) cause

/-- Items of constant data are moved into a list until the data come to an end; that fault is
caught, and the next one is reported. -/
def gatheringListing : List String := [
  "const v0, ['a']", "const v1, 0", "fill-array-data v2, :array_0", ":try_start_0", ":next",
  "aget v3, v2, v1", "aput v3, p0, v1", "add-int/lit8 v1, v1, 0x1", "goto :next", ":try_end_0",
  ".catch Ljava/lang/Exception; \x7b:try_start_0 .. :try_end_0\x7d :end", ":end",
  "aget v4, v0, p0", ":array_0", ".array-data 4", "7", "'b'", ".end array-data"]

def gatheringArguments : Table Datum :=
  [("p0", .list [.int 5, .list [.text "c"]])]

def gathering : Emulator × Ending Unit :=
  Emulator.start {} gatheringListing (({} : Machine).load gatheringArguments) false

theorem run_contains_faults_gatheringListing :
    (runFor 99 gathering.1).1.machine.pending.map Thrown.cause =
        [.outOfRange .list, .badIndex .list .list] ∧
      (∀ state ∈ gathering.1 :: statesFor 99 gathering.1, ∀ line, state.nextLine? = some line →
        state.advance.lineAt (state.advance.machine.pc - 1) = .ok line ∧
          Contained line (state.step line)) ∧
      ∀ cause, (Emulator.run {} gatheringListing
        (({} : Machine).load gatheringArguments) false 99).2 ≠ .raised cause := by
  have hfacts : gathering.2 = .done () ∧
      (∀ block ∈ gathering.1.machine.catchBlocks,
        (block.handler.bind gathering.1.machine.labels.get?).isSome = true) ∧
      (∀ entry ∈ gatheringArguments, entry.2.isPlain = true) ∧
      (∀ line ∈ gatheringListing.map Text.strip,
        (Instruction.ofLine? line).all Instruction.isPlain = true) ∧
      (∀ entry ∈ gathering.1.machine.arrays,
        gathering.1.machine.heap.holdsPlain 1 (.list entry.2.elements) = true) ∧
      (∀ state ∈ gathering.1 :: statesFor 99 gathering.1, state.evaluatesIntegers = true) ∧
      (runFor 99 gathering.1).1.machine.pending.map Thrown.cause =
        [.outOfRange .list, .badIndex .list .list] := by
    decide +kernel
  obtain ⟨hdone, hhandlers, harguments, hconstants, hdata, htexts, hpending⟩ := hfacts
  have hstart : gathering = (gathering.1, .done ()) := eq_mk_of_snd_eq hdone
  exact ⟨hpending, run_contains_faults {} gatheringListing gatheringArguments false 99 gathering.1
    (List.cons_ne_nil _ _) hstart hhandlers harguments hconstants
    (fun entry hentry => ⟨1, hdata entry hentry⟩) htexts⟩

/-- A table among constant data is asked for a number that is too long to be written out. -/
def lookupListing : List String := [
  "fill-array-data v0, :array_0", "const v1, 0", "aget v2, v0, v1", "const v3, 1",
  "shl-int/lit8 v3, v3, 15000", "aget v4, v2, v3", "return-void", ":array_0", ".array-data 4",
  "\x7b\x7d", ".end array-data"]

def lookup : Emulator × Ending Unit :=
  Emulator.start {} lookupListing (({} : Machine).load []) false

/-- The fault that an operation lets out. -/
def fault? {α : Type} : Ending α → Option Fault
  | .raised cause => some cause
  | _ => none

/-- Constants are plain and no handler is missing, but a table does not come to its report. -/
theorem lookupListing_lets_fault_out :
    (lookup.2 = .done () ∧ lookup.1.machine.catchBlocks = [] ∧
      (∀ line ∈ lookupListing.map Text.strip,
        (Instruction.ofLine? line).all Instruction.isPlain = true) ∧
      ∀ state ∈ lookup.1 :: statesFor 99 lookup.1, state.evaluatesIntegers = true) ∧
    fault? (Emulator.run {} lookupListing (({} : Machine).load []) false 99).2 =
      some .numberTooLong := by
  decide +kernel

end Emulator

end Dalvik
