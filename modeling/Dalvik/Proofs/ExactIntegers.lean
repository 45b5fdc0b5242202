import Dalvik.Proofs.InstructionFrame
import Dalvik.Proofs.IntegerArithmetic
import Dalvik.Proofs.ProgramCounter

/-!
# Programs that calculate with integers

A program of constants, moves, arithmetic, jumps and returns that is given integers holds nothing
but integers in its registers, in every state of every run. No operation wraps: the integers are
those that the operations have as their results, however large.
-/

namespace Dalvik

/-- Integers that a word of 32 bits holds. -/
def isWord (n : Int) : Bool :=
  -0x80000000 ≤ n && n < 0x80000000

def Datum.isWord : Datum → Bool
  | .int n => Dalvik.isWord n
  | _ => false

/-- Every register that holds something holds an integer. -/
def Machine.Integral (machine : Machine) : Prop :=
  ∀ register value, machine.registers.get? register = some value → ∃ n, value = .int n

namespace Machine

variable {machine : Machine}

theorem Integral.write (hintegral : machine.Integral) (register : String) (n : Int) :
    (machine.write register (.int n)).Integral := by
  intro other value hvalue
  change (machine.registers.insert register (.int n)).get? other = some value at hvalue
  rw [Table.get?_insert] at hvalue
  split at hvalue
  · exact ⟨n, (Option.some.inj hvalue).symm⟩
  · exact hintegral other value hvalue

theorem Integral.read (hintegral : machine.Integral) {register : String} {value : Value}
    (hread : machine.read register = .ok value) : ∃ n, value = .int n :=
  hintegral register value (Machine.read_eq_ok.mp hread)

theorem Integral.load (hintegral : machine.Integral) {arguments : Table Datum}
    (harguments : ∀ entry ∈ arguments, entry.2.isWord = true) :
    (machine.load arguments).Integral := by
  induction arguments generalizing machine with
  | nil => exact hintegral
  | cons entry rest ih =>
      have hentry := harguments entry List.mem_cons_self
      obtain ⟨register, datum⟩ := entry
      cases datum with
      | int n => exact ih (hintegral.write register n) fun other hother =>
          harguments other (List.mem_cons_of_mem _ hother)
      | _ => cases hentry

end Machine

/-! ### What the operations make of two integers -/

namespace IntOperation

/-- Whether an operation has a result for the second operand. -/
def Defined (right : Int) : IntOperation → Prop
  | rem => right ≠ 0
  | shl => 0 ≤ right
  | _ => True

/-- The integers that an operation has as its results. Remainders are told up to their sign. -/
def Exact (left right value : Int) : IntOperation → Prop
  | add => value = left + right
  | sub => value = left - right
  | mul => value = left * right
  | rem => right ∣ left - value ∧ value.natAbs < right.natAbs
  | and => ∀ i, value.testBit i = (left.testBit i && right.testBit i)
  | or => ∀ i, value.testBit i = (left.testBit i || right.testBit i)
  | xor => ∀ i, value.testBit i = (left.testBit i ^^ right.testBit i)
  | shl => value = left * 2 ^ right.toNat

variable {left right value : Int}

theorem fmod_exact (hright : right ≠ 0) :
    right ∣ left - Int.fmod left right ∧ (Int.fmod left right).natAbs < right.natAbs := by
  constructor
  · have hparts := Int.mul_fdiv_add_fmod left right
    exact ⟨Int.fdiv left right, by omega⟩
  · rcases Int.lt_or_gt_of_ne hright with hneg | hpos
    · have hflip := Int.neg_fmod_neg left right
      have hnonneg := Int.fmod_nonneg_of_pos (-left) (show 0 < -right by omega)
      have hlt := Int.fmod_lt_of_pos (-left) (show 0 < -right by omega)
      omega
    · have hnonneg := Int.fmod_nonneg_of_pos left hpos
      have hlt := Int.fmod_lt_of_pos left hpos
      omega

/-- Where an operation has a result, the result is exact. -/
theorem result_of_defined (left : Int) {operation : IntOperation}
    (hdefined : operation.Defined right) :
    ∃ value, operation.result left right = .ok value ∧ operation.Exact left right value := by
  cases operation with
  | add => exact ⟨_, rfl, rfl⟩
  | sub => exact ⟨_, rfl, rfl⟩
  | mul => exact ⟨_, rfl, rfl⟩
  | rem => exact ⟨_, if_neg hdefined, fmod_exact hdefined⟩
  | and => exact ⟨_, rfl, Int.testBit_land left right⟩
  | or => exact ⟨_, rfl, Int.testBit_lor left right⟩
  | xor => exact ⟨_, rfl, Int.testBit_lxor left right⟩
  | shl => exact ⟨_, if_neg (Int.not_lt.mpr hdefined), rfl⟩

theorem result_of_not_defined (left : Int) {operation : IntOperation}
    (hundefined : ¬operation.Defined right) :
    ∃ cause, operation.result left right = .error cause := by
  cases operation with
  | rem => exact ⟨_, if_pos (not_not.mp hundefined)⟩
  | shl => exact ⟨_, if_pos (Int.not_le.mp hundefined)⟩
  | _ => exact absurd trivial hundefined

end IntOperation

namespace Instruction

variable {machine after : Machine} {instruction : Instruction} {target : String}
  {onInts : IntOperation} {left right : Int}

/-- Constants, moves, arithmetic, jumps and returns, with literals that are words; a quotient need
not be an integer, and neither need any narrowing but that to a byte. -/
def isIntegral : Instruction → Bool
  | .const _ literal => (Expr.integer? literal).any isWord
  | .arithmetic operation _ _ _ => operation.intOperation?.isSome
  | .literalArithmetic operation _ _ literal =>
    operation.intOperation?.isSome && (Expr.integer? literal).any isWord
  | .convert kind _ _ => kind == "byte"
  | .move .. | .xorInto .. | .branch .. | .branchZero .. | .goto .. | .exit .. => true
  | _ => false

/-- The instruction applies an operation to two integers for its target. -/
inductive Computes (machine : Machine) :
    Instruction → String → IntOperation → Int → Int → Prop where
  | registers {operation : Arithmetic} {onInts : IntOperation} {target first second : String}
      {left right : Int} (honInts : operation.intOperation? = some onInts)
      (hfirst : machine.registers.get? first = some (.int left))
      (hsecond : machine.registers.get? second = some (.int right)) :
      Computes machine (.arithmetic operation target first second) target onInts left right
  | literal {operation : LiteralArithmetic} {onInts : IntOperation} {target source text : String}
      {left right : Int} (honInts : operation.intOperation? = some onInts)
      (hsource : machine.registers.get? source = some (.int left))
      (htext : Expr.integer? text = some right) :
      Computes machine (.literalArithmetic operation target source text) target onInts left right
  | inPlace {target source : String} {left right : Int}
      (htarget : machine.registers.get? target = some (.int left))
      (hsource : machine.registers.get? source = some (.int right)) :
      Computes machine (.xorInto target source) target .xor left right

/-- Whether the instruction writes its first operand down to calculate with it. -/
def isWritten : Instruction → Bool
  | .literalArithmetic operation _ _ _ => operation.isWritten
  | _ => false

/-- The operation has a result, and the first operand can be written down if it has to be. -/
def Feasible (instruction : Instruction) (onInts : IntOperation) (left right : Int) : Prop :=
  onInts.Defined right ∧ (instruction.isWritten = true → Number.Printable left)

theorem bounded_of_isWord (hword : isWord right = true) : onInts.Bounded right := by
  intro _
  rw [isWord, Bool.and_eq_true, decide_eq_true_iff, decide_eq_true_iff] at hword
  exact Int.le_trans (Int.le_of_lt hword.2) (by decide)

theorem Computes.of_registers {other : Machine}
    (hcomputes : Computes machine instruction target onInts left right)
    (hregisters : other.registers = machine.registers) :
    Computes other instruction target onInts left right := by
  cases hcomputes with
  | registers honInts hfirst hsecond =>
      exact .registers honInts (hregisters ▸ hfirst) (hregisters ▸ hsecond)
  | literal honInts hsource htext => exact .literal honInts (hregisters ▸ hsource) htext
  | inPlace htarget hsource => exact .inPlace (hregisters ▸ htarget) (hregisters ▸ hsource)

theorem isWord_of_any {text : String} (hany : (Expr.integer? text).any isWord = true)
    (htext : Expr.integer? text = some right) : isWord right = true := by
  rw [htext] at hany
  exact hany

/-- What the instruction makes of the operands, if the first can be written down. -/
theorem Computes.outcome_eq (hcomputes : Computes machine instruction target onInts left right)
    (hintegral : instruction.isIntegral = true)
    (hwritten : instruction.isWritten = true → Number.Printable left) :
    instruction.outcome machine =
      ((onInts.result left right).mapError Halt.fault).map fun value =>
        machine.write target (.int value) := by
  cases hcomputes with
  | registers honInts hfirst hsecond =>
      exact outcome_arithmetic_int honInts (Machine.read_eq_ok.mpr hfirst)
        (Machine.read_eq_ok.mpr hsecond)
  | literal honInts hsource htext =>
      rw [isIntegral, Bool.and_eq_true] at hintegral
      exact outcome_literalArithmetic_int (literalResult_int honInts
        (Machine.read_eq_ok.mpr hsource) htext hwritten
        (bounded_of_isWord (isWord_of_any hintegral.2 htext)))
  | inPlace htarget hsource =>
      exact outcome_xorInto_int (Machine.read_eq_ok.mpr htarget) (Machine.read_eq_ok.mpr hsource)

theorem Computes.outcome_of_not_printable
    (hcomputes : Computes machine instruction target onInts left right)
    (hwritten : instruction.isWritten = true) (hlong : ¬Number.Printable left) :
    instruction.outcome machine = .error (.fault .numberTooLong) := by
  have hplain : (Value.int left).plain machine.heap = .error .numberTooLong := by
    have hbound : ¬left.natAbs < 10 ^ Number.maxDigits := fun hlt =>
      hlong ((Nat.length_toDigits_le_iff (by decide) (by decide)).mpr hlt)
    rw [plain_int, Value.intText, Nat.pow_eq, if_neg hbound]
  cases hcomputes with
  | registers => cases hwritten
  | inPlace => cases hwritten
  | @literal operation onInts target source text left right honInts hsource htext =>
      have hread : machine.read source = .ok (.int left) := Machine.read_eq_ok.mpr hsource
      cases operation with
      | add =>
          simp only [outcome, literalResult, written, writtenText, hread, hplain, bind, Except.bind]
          rfl
      | mul =>
          simp only [outcome, literalResult, written, writtenText, hread, hplain, bind, Except.bind]
          rfl
      | _ => cases hwritten

/-- A feasible operation gives its target the exact result. -/
theorem Computes.outcome_of_feasible
    (hcomputes : Computes machine instruction target onInts left right)
    (hintegral : instruction.isIntegral = true)
    (hfeasible : instruction.Feasible onInts left right) :
    ∃ value, onInts.Exact left right value ∧
      instruction.outcome machine = .ok (machine.write target (.int value)) := by
  obtain ⟨value, hresult, hexact⟩ := IntOperation.result_of_defined left hfeasible.1
  refine ⟨value, hexact, ?_⟩
  rw [hcomputes.outcome_eq hintegral hfeasible.2, hresult]
  rfl

theorem Computes.outcome_of_not_feasible
    (hcomputes : Computes machine instruction target onInts left right)
    (hintegral : instruction.isIntegral = true)
    (hinfeasible : ¬instruction.Feasible onInts left right) :
    ∃ cause, instruction.outcome machine = .error (.fault cause) := by
  by_cases hwritten : instruction.isWritten = true → Number.Printable left
  · have hundefined : ¬onInts.Defined right := fun hdefined => hinfeasible ⟨hdefined, hwritten⟩
    obtain ⟨cause, hresult⟩ := IntOperation.result_of_not_defined left hundefined
    refine ⟨cause, ?_⟩
    rw [hcomputes.outcome_eq hintegral hwritten, hresult]
    rfl
  · obtain ⟨hwrites, hlong⟩ := Classical.not_imp.mp hwritten
    exact ⟨_, hcomputes.outcome_of_not_printable hwrites hlong⟩

/-! ### One instruction -/

theorem Computes.integral (hcomputes : Computes machine instruction target onInts left right)
    (hmachine : machine.Integral) (hintegral : instruction.isIntegral = true)
    (houtcome : instruction.outcome machine = .ok after) : after.Integral := by
  by_cases hfeasible : instruction.Feasible onInts left right
  · obtain ⟨value, -, hok⟩ := hcomputes.outcome_of_feasible hintegral hfeasible
    rw [hok] at houtcome
    cases houtcome
    exact hmachine.write target value
  · obtain ⟨cause, herror⟩ := hcomputes.outcome_of_not_feasible hintegral hfeasible
    rw [herror] at houtcome
    cases houtcome

/-- An operation with a literal reads its source. -/
theorem read_of_literalResult {operation : LiteralArithmetic} {source literal : String}
    {made : Value × Heap}
    (hresult : literalResult machine operation target source literal = .ok made) :
    ∃ value, machine.read source = .ok value := by
  cases operation with
  | add | mul =>
      obtain ⟨text, htext, -⟩ := bind_eq_ok.mp hresult
      obtain ⟨value, hread, -⟩ := bind_eq_ok.mp htext
      exact ⟨value, hread⟩
  | div | rem | and | xor | shl =>
      obtain ⟨value, hread, -⟩ := bind_eq_ok.mp hresult
      exact ⟨value, hread⟩

/-- An instruction of integers leaves integers. -/
theorem outcome_integral (hmachine : machine.Integral) (hintegral : instruction.isIntegral = true)
    (houtcome : instruction.outcome machine = .ok after) : after.Integral := by
  have hidle : instruction.target? machine = none → after.Integral := by
    intro hnone
    rcases (outcome_frame houtcome).registers with hsame | ⟨target, value, htarget, -⟩
    · intro register value hvalue
      exact hmachine register value (hsame ▸ hvalue)
    · rw [hnone] at htarget
      cases htarget
  cases instruction with
  | branch | branchZero | goto | exit => exact hidle rfl
  | const target literal =>
      obtain ⟨value, hliteral, -⟩ := (Option.any_eq_true _ _).mp hintegral
      rw [outcome_const_int hliteral] at houtcome
      cases houtcome
      exact hmachine.write target value
  | move target source =>
      simp only [outcome, bind_eq_ok, lift_eq_ok, pure_eq_ok] at houtcome
      obtain ⟨value, hread, rfl⟩ := houtcome
      obtain ⟨n, rfl⟩ := hmachine.read hread
      exact hmachine.write target n
  | arithmetic operation target first second =>
      obtain ⟨onInts, honInts⟩ := Option.isSome_iff_exists.mp hintegral
      have hreads := houtcome
      simp only [outcome, bind_eq_ok, lift_eq_ok] at hreads
      obtain ⟨x, hx, y, hy, -⟩ := hreads
      obtain ⟨left, rfl⟩ := hmachine.read hx
      obtain ⟨right, rfl⟩ := hmachine.read hy
      exact (Computes.registers honInts (Machine.read_eq_ok.mp hx)
        (Machine.read_eq_ok.mp hy)).integral hmachine hintegral houtcome
  | literalArithmetic operation target source literal =>
      have hparts := hintegral
      rw [isIntegral, Bool.and_eq_true] at hparts
      obtain ⟨onInts, honInts⟩ := Option.isSome_iff_exists.mp hparts.1
      obtain ⟨right, hliteral, -⟩ := (Option.any_eq_true _ _).mp hparts.2
      have hreads := houtcome
      simp only [outcome, bind_eq_ok, lift_eq_ok] at hreads
      obtain ⟨made, hmade, -⟩ := hreads
      obtain ⟨x, hx⟩ := read_of_literalResult hmade
      obtain ⟨left, rfl⟩ := hmachine.read hx
      exact (Computes.literal honInts (Machine.read_eq_ok.mp hx) hliteral).integral hmachine
        hintegral houtcome
  | xorInto target source =>
      have hreads := houtcome
      simp only [outcome, bind_eq_ok, lift_eq_ok] at hreads
      obtain ⟨y, hy, x, hx, -⟩ := hreads
      obtain ⟨right, rfl⟩ := hmachine.read hy
      obtain ⟨left, rfl⟩ := hmachine.read hx
      exact (Computes.inPlace (Machine.read_eq_ok.mp hx)
        (Machine.read_eq_ok.mp hy)).integral hmachine hintegral houtcome
  | convert kind target source =>
      have hkind : kind = "byte" := eq_of_beq hintegral
      subst hkind
      simp only [outcome, narrowOutcome, bind_eq_ok, lift_eq_ok, pure_eq_ok] at houtcome
      obtain ⟨value, hread, narrowed, hnarrowed, rfl⟩ := houtcome
      obtain ⟨n, rfl⟩ := hmachine.read hread
      cases hnarrowed
      exact hmachine.write target _
  | _ => cases hintegral

end Instruction

namespace Emulator

variable {emulator state : Emulator} {line : String} {lines : List String}

/-- A line of a program of integers. -/
def isIntegralLine (line : String) : Bool :=
  Listing.isPassive line || (Instruction.ofLine? line).all Instruction.isIntegral

/-! ### One line -/

theorem step_integral (hnext : state.nextLine? = some line) (hmachine : state.machine.Integral)
    (hline : isIntegralLine line = true) : (state.step line).1.machine.Integral := by
  rcases step_idle_or_executes hnext with ⟨-, hidle⟩ | ⟨instruction, hexecutes⟩
  · rw [hidle]
    exact hmachine
  · rw [isIntegralLine, hexecutes.active, hexecutes.read, Bool.false_or, Option.all_some] at hline
    rw [hexecutes.step_eq]
    cases houtcome : instruction.outcome state.advance.machine with
    | ok machine =>
        have hadvanced : state.advance.machine.Integral := hmachine
        exact Instruction.outcome_integral hadvanced hline houtcome
    | error halt =>
        intro register value hvalue
        rw [settle_error_machine, trace_machine] at hvalue
        exact hmachine register value hvalue

/-! ### Whole runs -/

theorem scanFrom_registers (machine : Machine) (index resume : Nat) (lines : List String) :
    (Listing.scanFrom machine index resume lines).1.registers = machine.registers := by
  induction lines generalizing machine index resume with
  | nil => rfl
  | cons line rest ih =>
      rw [Listing.scanFrom]
      split
      · exact ih machine (index + 1) resume
      · split
        · rfl
        · rename_i next last hdeclare
          have hdeclares := Listing.declare_eq_ok hdeclare
          generalize last.getD index = place at hdeclares
          rw [ih next]
          cases hdeclares <;> rfl

theorem start_registers (emulator : Emulator) (lines : List String) (machine : Machine)
    (tracing : Bool) :
    (emulator.start lines machine tracing).1.machine.registers = machine.registers := by
  have hscan := scanFrom_registers machine 0 0 (lines.map Text.strip)
  unfold start declare Listing.scan
  simp only
  generalize Listing.scanFrom machine 0 0 (lines.map Text.strip) = result at hscan ⊢
  obtain ⟨declared, halt⟩ := result
  cases halt with
  | none => exact hscan
  | some halt =>
      cases halt with
      | fault cause => exact hscan
      | fatal message =>
          rcases report_cases (α := Unit) { emulator with
              source := some (lines.map Text.strip), machine := declared, steps := 0,
              tracing := tracing, shared := [] } message with ⟨_, shown, -, hreport⟩ | ⟨_, _, -, hreport⟩
          · simp only [hreport]
            exact hscan
          · simp only [hreport]
            exact hscan

/-- In every state of a run, be it the last one, all registers hold integers. -/
theorem run_integral {arguments : Table Datum} {tracing : Bool} {limit : Nat} (hne : lines ≠ [])
    (hlines : ∀ line ∈ lines.map Text.strip, isIntegralLine line = true)
    (harguments : ∀ entry ∈ arguments, entry.2.isWord = true) :
    (emulator.run lines (({} : Machine).load arguments) tracing limit).1.machine.Integral := by
  have hempty : ({} : Machine).Integral := by
    intro register value hvalue
    cases hvalue
  have hstarted :
      (emulator.start lines (({} : Machine).load arguments) tracing).1.machine.Integral := by
    intro register value hvalue
    rw [start_registers] at hvalue
    exact hempty.load harguments register value hvalue
  by_cases hdone : (emulator.start lines (({} : Machine).load arguments) tracing).2 = .done ()
  · have hin := inProgram_of_mem_states hdone limit
    have hstates := statesFor_induction_mem limit
      (motive := fun state => state.machine.Integral)
      (fun current hcurrent line hmachine hnext => by
        obtain ⟨index, -, hfound⟩ := (hin current hcurrent).onLine_of_nextLine? hnext
        exact step_integral hnext hmachine (hlines line (List.mem_of_getElem? hfound))) hstarted
    have hlast := hstates _ (runFor_mem_states limit _)
    simp only [run, checkLines_of_ne_nil hne]
    rw [eq_mk_of_snd_eq hdone]
    exact hlast
  · -- no line is run if the tables cannot be declared
    simp only [run, checkLines_of_ne_nil hne]
    generalize emulator.start lines (({} : Machine).load arguments) tracing = result
      at hdone hstarted ⊢
    obtain ⟨started, ending⟩ := result
    cases ending with
    | done value => exact absurd rfl hdone
    | _ => exact hstarted

/-- **Exact integers.** In a program of integers every register holds an integer, in every state of
every run. An operation on two integers gives its target the exact result and goes on, unless it has
none or cannot write its operand down; then it leaves all registers as they are. -/
theorem run_calculates_exactly (emulator : Emulator) (lines : List String)
    (arguments : Table Datum) (tracing : Bool) (limit : Nat) (state : Emulator)
    (ending : Ending Value) (hne : lines ≠ [])
    (hlines : ∀ line ∈ lines.map Text.strip, isIntegralLine line = true)
    (harguments : ∀ entry ∈ arguments, entry.2.isWord = true)
    (hreached : emulator.run lines (({} : Machine).load arguments) tracing limit =
      (state, ending)) :
    state.machine.Integral ∧
    ∀ (line : String) (instruction : Instruction) (target : String) (onInts : IntOperation)
      (left right : Int), ending = .outOfSteps → state.Executes line instruction →
      instruction.Computes state.machine target onInts left right →
      (instruction.Feasible onInts left right →
        ∃ value, onInts.Exact left right value ∧ (state.step line).2 = .done () ∧
          (state.step line).1.machine.registers =
            state.machine.registers.insert target (.int value)) ∧
      (¬instruction.Feasible onInts left right →
        (state.step line).1.machine.registers = state.machine.registers) := by
  constructor
  · have hintegral :
        (emulator.run lines (({} : Machine).load arguments) tracing limit).1.machine.Integral :=
      run_integral hne hlines harguments
    rwa [hreached] at hintegral
  · rintro line instruction target onInts left right rfl hexecutes hcomputes
    have hadvanced : instruction.Computes state.advance.machine target onInts left right :=
      hcomputes.of_registers rfl
    have hintegral : instruction.isIntegral = true := by
      obtain ⟨index, -, hfound⟩ := (inProgram_of_run hreached).onLine_of_nextLine? hexecutes.next
      have hline := hlines line (List.mem_of_getElem? hfound)
      rwa [isIntegralLine, hexecutes.active, hexecutes.read, Bool.false_or, Option.all_some]
        at hline
    rw [hexecutes.step_eq]
    constructor
    · intro hfeasible
      obtain ⟨value, hexact, houtcome⟩ := hadvanced.outcome_of_feasible hintegral hfeasible
      rw [houtcome]
      exact ⟨value, hexact, rfl, rfl⟩
    · intro hinfeasible
      obtain ⟨cause, houtcome⟩ := hadvanced.outcome_of_not_feasible hintegral hinfeasible
      rw [houtcome, settle_error_machine, trace_machine]
      rfl

/-- A loop that doubles, multiplies and mixes a number. -/
def hashingListing : List String := [
  "const v0, 0x7fffffff", ":next", "add-int v0, v0, v0", "mul-int/lit8 v0, v0, -31",
  "xor-int/2addr v0, p0", "if-nez v0, :next", "return v0"]

def hashingRun (limit : Nat) : Emulator × Ending Value :=
  Emulator.run {} hashingListing (({} : Machine).load [("p0", .int (-5))]) false limit

theorem run_calculates_exactly_hashingListing :
    ((∀ line ∈ hashingListing.map Text.strip, isIntegralLine line = true) ∧
      (hashingRun 3).2 = .outOfSteps ∧
      (hashingRun 3).1.Executes "mul-int/lit8 v0, v0, -31"
        (.literalArithmetic .mul "v0" "v0" "-31")) ∧
    (hashingRun 3).1.machine.Integral ∧
    ∃ value, value = 4294967294 * (-31) ∧
      ((hashingRun 3).1.step "mul-int/lit8 v0, v0, -31").2 = .done () ∧
      ((hashingRun 3).1.step "mul-int/lit8 v0, v0, -31").1.machine.registers =
        (hashingRun 3).1.machine.registers.insert "v0" (.int value) := by
  have hfacts : (∀ line ∈ hashingListing.map Text.strip, isIntegralLine line = true) ∧
      isOutOfSteps (hashingRun 3).2 = true ∧
      (hashingRun 3).1.nextLine? = some "mul-int/lit8 v0, v0, -31" ∧
      Listing.isPassive "mul-int/lit8 v0, v0, -31" = false ∧
      Instruction.ofLine? "mul-int/lit8 v0, v0, -31" =
        some (.literalArithmetic .mul "v0" "v0" "-31") ∧
      (hashingRun 3).1.machine.intAt? "v0" = some 4294967294 ∧
      Expr.integer? "-31" = some (-31) := by
    decide +kernel
  obtain ⟨hlines, hrun, hnext, hactive, hread, hleft, hright⟩ := hfacts
  have hending := isOutOfSteps_iff.mp hrun
  have hexecutes : (hashingRun 3).1.Executes "mul-int/lit8 v0, v0, -31" _ := ⟨hnext, hactive, hread⟩
  have hcomputes : (Instruction.literalArithmetic .mul "v0" "v0" "-31").Computes
      (hashingRun 3).1.machine "v0" .mul 4294967294 (-31) :=
    .literal rfl (Machine.intAt?_eq_some.mp hleft) hright
  have hprintable : Number.Printable 4294967294 := by
    unfold Number.Printable
    decide +kernel
  obtain ⟨hintegral, hcalculates⟩ := run_calculates_exactly {} hashingListing [("p0", .int (-5))]
    false 3 (hashingRun 3).1 .outOfSteps (List.cons_ne_nil _ _) hlines (by decide)
    (eq_mk_of_snd_eq hending)
  obtain ⟨value, hvalue, hstep⟩ := (hcalculates _ _ _ _ _ _ rfl hexecutes hcomputes).1
    ⟨trivial, fun _ => hprintable⟩
  exact ⟨⟨hlines, hending, hexecutes⟩, hintegral, value, hvalue, hstep⟩

/-- The double of the greatest word. -/
def doublingListing : List String := ["const v0, 0x7fffffff", "add-int v0, v0, v0", "return v0"]

/-- Sums do not wrap: a register comes to hold an integer that is no word. -/
theorem doublingListing_leaves_words :
    (∀ line ∈ doublingListing.map Text.strip, isIntegralLine line = true) ∧
    isOutOfSteps (Emulator.run {} doublingListing (({} : Machine).load []) false 2).2 = true ∧
    (Emulator.run {} doublingListing (({} : Machine).load []) false 2).1.machine.intAt? "v0" =
      some 4294967294 ∧
    isWord 4294967294 = false := by
  decide +kernel

end Emulator

end Dalvik
