import Dalvik.Proofs.Instructions
import Dalvik.Proofs.Steps
import Dalvik.Proofs.Store

/-!
# Instructions as transactions

An instruction either gives the machine that it leaves behind, or halts and leaves the machine as it
was. `outcome` says so in one go, without the order in which parts of the machine are written; the
action that runs is equal to it. What an instruction reads and what it writes is told from here on.
-/

namespace Dalvik

namespace Machine

/-- The machine at the line of a label. -/
def jumpTo (machine : Machine) (label : String) : Except Halt Machine :=
  match machine.labels.get? label with
  | some line => .ok { machine with pc := line }
  | none => .error (.fault (.missing (Text.quote label)))

def give (machine : Machine) (value : Value) : Machine :=
  { machine with result := value }

/-- The machine that has returned a value. -/
def leaveWith (machine : Machine) (value : Value) : Machine :=
  { machine with result := value, stopped := true }

/-- The machine without the fault that was kept last. -/
def dropPending (machine : Machine) : Machine :=
  { machine with pending := machine.pending.dropLast }

/-- The value of one of the registers that are handed to a method. -/
def argument (machine : Machine) (arguments : List String) (position : Nat) : Except Fault Value :=
  match arguments[position]? with
  | some register => machine.read register
  | none => .error (.outOfRange .list)

def giveSlice (machine : Machine) (value : Value) (arguments : List String) :
    Except Halt Machine := do
  let first ← (← machine.argument arguments 0).toInt
  let last ← (← machine.argument arguments 1).toInt
  return machine.giveFrom (← value.slice machine.heap first last)

end Machine

/-- The machine after a call. -/
def Method.outcome (machine : Machine) (this : String) (arguments : List String) :
    Method → Except Halt Machine
  | .create className => .error (.fault (.constructorArguments className))
  | .textOfChars => do
    let chars ← machine.argument arguments 0
    return machine.write this (.text (← chars.join machine.heap))
  | .charAt => do
    let index ← machine.argument arguments 0
    let value ← machine.read this
    return machine.give (← value.subscript machine.heap index)
  | .toChars => do
    let value ← machine.read this
    return machine.giveFrom (machine.heap.newList (← value.walk machine.heap))
  | .intern | .builderText => do
    let value ← machine.read this
    return machine.give (.text (← value.plain machine.heap))
  | .textOfRange => do
    let chars ← machine.read this
    machine.giveSlice (.text (← chars.join machine.heap)) arguments
  | .substring => do
    machine.giveSlice (← machine.read this) arguments
  | .length => do
    let value ← machine.read this
    return machine.give (.int (← value.length machine.heap))
  | .initBuilder => return machine
  | .append => do
    let value ← machine.read this
    let addend ← machine.argument arguments 0
    let made ← value.addInPlace machine.heap addend
    return (machine.writeFrom this made).give made.1
  | .parseInt => do
    return machine.give (.int (← Method.parsed (← machine.read this)))
  | .parseDecimal => do
    return machine.give (.int (← (← machine.read this).toInt))

/-- The class and the method that a callee names. -/
def Machine.callee (machine : Machine) (callee : String) : Except Halt Method := do
  let (descriptor, signature) ← Instruction.calleeParts callee
  let className ← ClassName.ofDescriptor descriptor
  machine.method? className signature

namespace Instruction

def leaveOutcome (machine : Machine) (kind source : Option String) : Except Halt Machine :=
  match kind, source with
  | none, none | some "-void", _ => .ok (machine.leaveWith .null)
  | none, some register => do return machine.leaveWith (← machine.read register)
  | some "-wide", some register | some "-object", some register => do
    return machine.leaveWith (← machine.read register)
  | some "-wide", none | some "-object", none => .error (.fault (.missing "None"))
  | some _, _ => .error (.fatal "Unsupported return type.")

def narrowOutcome (machine : Machine) (kind target source : String) : Except Halt Machine :=
  match kind with
  | "char" => do return machine.write target (← lowChar (← machine.read source))
  | "byte" => do return machine.write target (← byteOf (← machine.read source))
  | _ => .error (.fatal ("Unsupported type '" ++ kind ++ "' ."))

/-- The machine after an instruction. -/
def outcome (machine : Machine) : Instruction → Except Halt Machine
  | .const target literal => do return machine.writeFrom target (← machine.literal literal)
  | .constString _ _ => .error (.fault (.noAttribute .text "decode"))
  | .move target source | .staticGet target source | .staticPut source target => do
    return machine.write target (← machine.read source)
  | .moveResult target => return machine.write target machine.result
  | .moveException target =>
    match machine.pending.getLast? with
    | some thrown => return machine.dropPending.write target (.raised thrown.cause thrown.serial)
    | none => .error (.fault .emptyPop)
  | .branch test left right label => do
    let x ← machine.read left
    let y ← machine.read right
    if ← x.compare machine.heap test y then machine.jumpTo label else return machine
  | .branchZero test source label => do
    let x ← machine.read source
    if ← x.compare machine.heap test (.int 0) then machine.jumpTo label else return machine
  | .goto label => machine.jumpTo label
  | .packedSwitch source table => do
    let value ← machine.read source
    match ← caseOf machine.heap (machine.switches.get? table) value with
    | some label => machine.jumpTo label
    | none => return machine
  | .arrayLength target array => do
    let value ← machine.read array
    return machine.write target (.int (← value.length machine.heap))
  | .fillArray target label =>
    match machine.arrays.get? label with
    | some data => return machine.write target (.list data.elements)
    | none => .error (.fault (.missing (Text.quote label)))
  | .newArray target size _ => do
    let count ← machine.read size
    let (one, heap) := machine.heap.newList [.text ""]
    return machine.writeFrom target (← one.operate heap .mul count)
  | .arrayGet target array index => do
    let sequence ← machine.read array
    let place ← machine.read index
    return machine.write target (← sequence.subscript machine.heap place)
  | .arrayPut source array index => do
    let place ← (← machine.read index).toInt
    let sequence ← machine.read array
    let item ← machine.read source
    return machine.writeFrom array (sequence, ← storeItem machine.heap sequence place item)
  | .arithmetic operation target left right => do
    let x ← machine.read left
    let y ← machine.read right
    return machine.writeFrom target (← operation.apply machine.heap x y)
  | .literalArithmetic operation target source literal => do
    return machine.writeFrom target (← literalResult machine operation target source literal)
  | .xorInto target source => do
    let y ← machine.read source
    let x ← machine.read target
    let number ← numberOrCode y
    return machine.writeFrom target (← x.xorInPlace machine.heap number)
  | .convert kind target source => narrowOutcome machine kind target source
  | .newInstance target className => do
    return machine.write target (← machine.newInstance className)
  | .invoke registers callee => do
    (← machine.callee callee).outcome machine (registers.headD "") registers.tail
  | .exit kind source => leaveOutcome machine kind source

end Instruction

/-! ### Actions that commit an outcome -/

namespace Action

variable {α : Type} {machine : Machine} {action : Action α} {next : α → Action Unit}

/-- An action that gives the machine of the outcome, or halts and has changed nothing. -/
def Commits (action : Action Unit) (machine : Machine) : Except Halt Machine → Prop
  | .ok after => action machine = .ok () after
  | .error halt => action machine = .error halt machine

theorem commits_get {next : Machine → Action Unit} {result : Except Halt Machine}
    (hnext : Commits (next machine) machine result) : Commits (get >>= next) machine result := by
  unfold Commits at hnext ⊢
  rw [bind_of_ok (get_apply machine)]
  exact hnext

/-- Looking first, then committing. -/
theorem Tells.bind_commits {result : Except Fault α} {rest : α → Except Halt Machine}
    (htells : Tells action machine result)
    (hnext : ∀ value, Commits (next value) machine (rest value)) :
    Commits (action >>= next) machine ((liftM result : Except Halt α) >>= rest) := by
  cases result with
  | ok value =>
      have hvalue := hnext value
      unfold Commits at hvalue ⊢
      rw [bind_of_ok htells]
      exact hvalue
  | error cause => exact bind_of_error htells

theorem commits_liftHalt (result : Except Halt α) {rest : α → Except Halt Machine}
    (hnext : ∀ value, Commits (next value) machine (rest value)) :
    Commits ((liftM result : Action α) >>= next) machine (result >>= rest) := by
  cases result with
  | ok value => exact hnext value
  | error halt => exact bind_of_error rfl

theorem commits_jump (label : String) (machine : Machine) :
    Commits (jump label) machine (machine.jumpTo label) := by
  cases hlabel : machine.labels.get? label with
  | some line =>
      rw [Machine.jumpTo, hlabel]
      exact jump_of_some hlabel
  | none =>
      rw [Machine.jumpTo, hlabel]
      exact jump_of_none hlabel

end Action

open Dalvik.Action

namespace Method

theorem tells_argument (arguments : List String) (position : Nat) (machine : Machine) :
    Tells (argument arguments position) machine (machine.argument arguments position) := by
  unfold argument Machine.argument
  cases arguments[position]? with
  | some register => exact tells_fetch register machine
  | none => exact rfl

/-- A call whose answer, if it hands one back, becomes the result. -/
def answer (method : Method) (this : String) (arguments : List String) : Action Unit := do
  match ← method.call this arguments with
  | some value => Action.give value
  | none => return

theorem commits_slice (text : Value) (arguments : List String) (machine : Machine) :
    Commits (do
      let first ← (← argument arguments 0).toInt
      let last ← (← argument arguments 1).toInt
      giveFrom (← text.slice (← get).heap first last)) machine
      (machine.giveSlice text arguments) := by
  refine (tells_argument arguments 0 machine).bind_commits fun x => ?_
  refine (tells_lift x.toInt machine).bind_commits fun first => ?_
  refine (tells_argument arguments 1 machine).bind_commits fun y => ?_
  refine (tells_lift y.toInt machine).bind_commits fun last => ?_
  exact commits_get ((tells_lift _ machine).bind_commits fun made => rfl)

/-- A method commits its outcome. -/
theorem answer_commits (method : Method) (this : String) (arguments : List String)
    (machine : Machine) :
    Commits (method.answer this arguments) machine (method.outcome machine this arguments) := by
  unfold answer
  cases method with
  | create className => exact rfl
  | textOfChars =>
      simp only [call, bind_assoc, pure_bind]
      refine (tells_argument arguments 0 machine).bind_commits fun chars => ?_
      exact commits_get ((tells_lift _ machine).bind_commits fun text => rfl)
  | charAt =>
      simp only [call, bind_assoc, pure_bind]
      refine (tells_argument arguments 0 machine).bind_commits fun index => ?_
      refine (tells_fetch this machine).bind_commits fun value => ?_
      exact commits_get ((tells_lift _ machine).bind_commits fun char => rfl)
  | toChars =>
      simp only [call, bind_assoc, pure_bind]
      refine (tells_fetch this machine).bind_commits fun value => ?_
      exact commits_get ((tells_lift _ machine).bind_commits fun items => rfl)
  | intern =>
      simp only [call, bind_assoc, pure_bind]
      refine (tells_fetch this machine).bind_commits fun value => ?_
      exact commits_get ((tells_lift _ machine).bind_commits fun text => rfl)
  | textOfRange =>
      simp only [call, bind_assoc, pure_bind]
      refine (tells_fetch this machine).bind_commits fun chars => ?_
      exact commits_get ((tells_lift _ machine).bind_commits fun text => commits_slice _ arguments machine)
  | length =>
      simp only [call, bind_assoc, pure_bind]
      refine (tells_fetch this machine).bind_commits fun value => ?_
      exact commits_get ((tells_lift _ machine).bind_commits fun length => rfl)
  | substring =>
      simp only [call, bind_assoc, pure_bind]
      refine (tells_fetch this machine).bind_commits fun value => ?_
      exact commits_slice value arguments machine
  | initBuilder => exact rfl
  | append =>
      simp only [call, bind_assoc, pure_bind]
      refine (tells_fetch this machine).bind_commits fun value => ?_
      refine (tells_argument arguments 0 machine).bind_commits fun addend => ?_
      refine commits_get ((tells_lift _ machine).bind_commits fun made => ?_)
      -- the answer is read from the register that was just written
      simp only [store_fetch]
      exact rfl
  | builderText =>
      simp only [call, bind_assoc, pure_bind]
      refine (tells_fetch this machine).bind_commits fun value => ?_
      exact commits_get ((tells_lift _ machine).bind_commits fun text => rfl)
  | parseInt =>
      simp only [call, bind_assoc, pure_bind]
      refine (tells_fetch this machine).bind_commits fun value => ?_
      exact (tells_lift _ machine).bind_commits fun number => rfl
  | parseDecimal =>
      simp only [call, bind_assoc, pure_bind]
      refine (tells_fetch this machine).bind_commits fun value => ?_
      exact (tells_lift _ machine).bind_commits fun number => rfl

end Method

theorem Action.invoke_commits (this : String) (arguments : List String) (callee : String)
    (machine : Machine) :
    Commits (do
      let (descriptor, signature) ← Instruction.calleeParts callee
      Action.invoke this descriptor signature arguments) machine (do
      (← machine.callee callee).outcome machine this arguments) := by
  unfold Machine.callee Action.invoke
  simp only [bind_assoc]
  refine (tells_lift _ machine).bind_commits fun parts => ?_
  refine (tells_lift _ machine).bind_commits fun className => ?_
  refine commits_get (commits_liftHalt _ fun method => ?_)
  exact method.answer_commits this arguments machine

namespace Instruction

theorem leave_other {kind : String} {source : Option String} (hvoid : kind ≠ "-void")
    (hwide : kind ≠ "-wide") (hobject : kind ≠ "-object") :
    leave (some kind) source = throw (.fatal "Unsupported return type.") := by
  unfold leave
  split <;> simp_all

theorem leaveOutcome_other {machine : Machine} {kind : String} {source : Option String}
    (hvoid : kind ≠ "-void") (hwide : kind ≠ "-wide") (hobject : kind ≠ "-object") :
    leaveOutcome machine (some kind) source = .error (.fatal "Unsupported return type.") := by
  unfold leaveOutcome
  split <;> simp_all

theorem leave_commits (kind source : Option String) (machine : Machine) :
    Commits (leave kind source) machine (leaveOutcome machine kind source) := by
  have hread (register : String) :
      Commits (leaveWith register) machine (leaveOutcome machine none (some register)) :=
    (tells_fetch register machine).bind_commits fun value => rfl
  cases kind with
  | none =>
      cases source with
      | none => exact rfl
      | some register => exact hread register
  | some kind =>
      by_cases hvoid : kind = "-void"
      · rw [hvoid]
        exact rfl
      by_cases hwide : kind = "-wide"
      · rw [hwide]
        cases source with
        | none => exact rfl
        | some register => exact hread register
      by_cases hobject : kind = "-object"
      · rw [hobject]
        cases source with
        | none => exact rfl
        | some register => exact hread register
      rw [leave_other hvoid hwide hobject, leaveOutcome_other hvoid hwide hobject]
      exact rfl

theorem narrow_commits (kind target source : String) (machine : Machine) :
    Commits (narrow kind target source) machine (narrowOutcome machine kind target source) := by
  by_cases hchar : kind = "char"
  · rw [hchar]
    refine (tells_fetch source machine).bind_commits fun value => ?_
    exact (tells_lift _ machine).bind_commits fun char => rfl
  by_cases hbyte : kind = "byte"
  · rw [hbyte]
    refine (tells_fetch source machine).bind_commits fun value => ?_
    exact (tells_lift _ machine).bind_commits fun byte => rfl
  have hnarrow : narrow kind target source =
      throw (.fatal ("Unsupported type '" ++ kind ++ "' .")) := by
    unfold narrow
    split <;> simp_all
  have houtcome : narrowOutcome machine kind target source =
      .error (.fatal ("Unsupported type '" ++ kind ++ "' .")) := by
    unfold narrowOutcome
    split <;> simp_all
  rw [hnarrow, houtcome]
  exact rfl

/-- An instruction commits its outcome. -/
theorem execute_commits (instruction : Instruction) (machine : Machine) :
    Commits instruction.execute machine (instruction.outcome machine) := by
  cases instruction with
  | const target literal =>
      exact commits_get ((tells_lift _ machine).bind_commits fun made => rfl)
  | constString => exact rfl
  | move target source => exact (tells_fetch source machine).bind_commits fun value => rfl
  | moveResult target => exact rfl
  | moveException target =>
      simp only [execute, outcome, takePending, bind_assoc]
      refine commits_get ?_
      cases machine.pending.getLast? with
      | some thrown => exact rfl
      | none => exact rfl
  | branch test left right label =>
      refine (tells_fetch left machine).bind_commits fun x => ?_
      refine (tells_fetch right machine).bind_commits fun y => ?_
      refine commits_get ((tells_lift _ machine).bind_commits fun taken => ?_)
      cases taken with
      | true => exact commits_jump label machine
      | false => exact rfl
  | branchZero test source label =>
      refine (tells_fetch source machine).bind_commits fun x => ?_
      refine commits_get ((tells_lift _ machine).bind_commits fun taken => ?_)
      cases taken with
      | true => exact commits_jump label machine
      | false => exact rfl
  | goto label => exact commits_jump label machine
  | packedSwitch source table =>
      refine (tells_fetch source machine).bind_commits fun value => ?_
      refine commits_get ((tells_lift _ machine).bind_commits fun label? => ?_)
      cases label? with
      | some label => exact commits_jump label machine
      | none => exact rfl
  | arrayLength target array =>
      refine (tells_fetch array machine).bind_commits fun value => ?_
      exact commits_get ((tells_lift _ machine).bind_commits fun length => rfl)
  | fillArray target label =>
      simp only [execute, outcome]
      refine commits_get ?_
      cases machine.arrays.get? label with
      | some data => exact rfl
      | none => exact rfl
  | newArray target size =>
      refine (tells_fetch size machine).bind_commits fun count => ?_
      exact commits_get ((tells_lift _ machine).bind_commits fun made => rfl)
  | arrayGet target array index =>
      refine (tells_fetch array machine).bind_commits fun sequence => ?_
      refine (tells_fetch index machine).bind_commits fun place => ?_
      exact commits_get ((tells_lift _ machine).bind_commits fun item => rfl)
  | arrayPut source array index =>
      refine (tells_fetch index machine).bind_commits fun position => ?_
      refine (tells_lift _ machine).bind_commits fun place => ?_
      refine (tells_fetch array machine).bind_commits fun sequence => ?_
      refine (tells_fetch source machine).bind_commits fun item => ?_
      simp only [changeHeap, bind_assoc]
      exact commits_get ((tells_lift _ machine).bind_commits fun heap => rfl)
  | arithmetic operation target left right =>
      refine (tells_fetch left machine).bind_commits fun x => ?_
      refine (tells_fetch right machine).bind_commits fun y => ?_
      exact commits_get ((tells_lift _ machine).bind_commits fun made => rfl)
  | literalArithmetic operation target source literal =>
      exact commits_get ((tells_lift _ machine).bind_commits fun made => rfl)
  | xorInto target source =>
      refine (tells_fetch source machine).bind_commits fun y => ?_
      refine (tells_fetch target machine).bind_commits fun x => ?_
      refine (tells_lift _ machine).bind_commits fun number => ?_
      exact commits_get ((tells_lift _ machine).bind_commits fun made => rfl)
  | convert kind target source => exact narrow_commits kind target source machine
  | staticGet target field => exact (tells_fetch field machine).bind_commits fun value => rfl
  | staticPut source field => exact (tells_fetch source machine).bind_commits fun value => rfl
  | newInstance target className => exact commits_get (commits_liftHalt _ fun object => rfl)
  | invoke registers callee =>
      exact invoke_commits (registers.headD "") registers.tail callee machine
  | exit kind source => exact leave_commits kind source machine

theorem execute_eq_ok_iff {instruction : Instruction} {machine after : Machine} :
    instruction.execute machine = .ok () after ↔ instruction.outcome machine = .ok after := by
  have hcommits := execute_commits instruction machine
  cases houtcome : instruction.outcome machine with
  | ok left =>
      rw [houtcome] at hcommits
      rw [hcommits]
      constructor <;> rintro ⟨⟩ <;> rfl
  | error halt =>
      rw [houtcome] at hcommits
      rw [hcommits]
      exact iff_of_false nofun nofun

end Instruction

/-! ### Lines -/

namespace Emulator

/-- Goes on with the outcome of an instruction: its machine is taken over, a fault is thrown, and
what is fatal is reported. -/
def settle (emulator : Emulator) : Except Halt Machine → Emulator × Ending Unit
  | .ok machine => ({ emulator with machine := machine }, .done ())
  | .error (.fault cause) => emulator.throw cause
  | .error (.fatal message) =>
    match emulator.report message with
    | (reported, .raised cause) => reported.throw cause
    | (reported, ending) => (reported, ending)

theorem execute_eq_settle (emulator : Emulator) (instruction : Instruction) :
    emulator.execute instruction = emulator.settle (instruction.outcome emulator.machine) := by
  have hcommits := instruction.execute_commits emulator.machine
  unfold execute perform
  cases houtcome : instruction.outcome emulator.machine with
  | ok machine =>
      rw [houtcome] at hcommits
      rw [hcommits]
      rfl
  | error halt =>
      rw [houtcome] at hcommits
      rw [hcommits]
      cases halt with
      | fault cause => rfl
      | fatal message => rfl

/-- A line with an instruction moves on and settles the outcome. -/
theorem step_eq_settle (emulator : Emulator) {line : String} {instruction : Instruction}
    (hactive : Listing.isPassive line = false)
    (hread : Instruction.ofLine? line = some instruction) :
    emulator.step line =
      (emulator.advance.trace line).settle (instruction.outcome emulator.advance.machine) := by
  have hexecute := execute_eq_settle (emulator.advance.trace line) instruction
  rw [trace_machine] at hexecute
  simp only [step, hactive, executeLine, attempt, hread, ← hexecute]
  generalize (emulator.advance.trace line).execute instruction = result
  obtain ⟨after, ending⟩ := result
  cases ending <;> rfl

/-- The line that is run next holds an instruction. -/
structure Executes (state : Emulator) (line : String) (instruction : Instruction) : Prop where
  next : state.nextLine? = some line
  active : Listing.isPassive line = false
  read : Instruction.ofLine? line = some instruction

theorem Executes.step_eq {state : Emulator} {line : String} {instruction : Instruction}
    (hexecutes : state.Executes line instruction) :
    state.step line =
      (state.advance.trace line).settle (instruction.outcome state.advance.machine) :=
  step_eq_settle state hexecutes.active hexecutes.read

/-- A line that is run holds an instruction, or leaves all alone but the place. -/
theorem step_idle_or_executes {state : Emulator} {line : String}
    (hline : state.nextLine? = some line) :
    ((Listing.isPassive line = true ∨ Instruction.ofLine? line = none) ∧
        (state.step line).1.machine = state.advance.machine) ∨
      ∃ instruction, state.Executes line instruction := by
  by_cases hread : Listing.isPassive line = true ∨ Instruction.ofLine? line = none
  · left
    obtain ⟨after, ending, hstep, -, hmachine⟩ := step_of_not_read state hread
    rw [hstep]
    exact ⟨hread, hmachine⟩
  · right
    rw [not_or, Bool.not_eq_true] at hread
    obtain ⟨instruction, hinstruction⟩ := Option.ne_none_iff_exists'.mp hread.2
    exact ⟨instruction, hline, hread.1, hinstruction⟩

/-- A line whose instruction succeeds leaves its machine. -/
theorem Executes.step_of_ok {state : Emulator} {line : String} {instruction : Instruction}
    {after : Machine} (hexecutes : state.Executes line instruction)
    (houtcome : instruction.outcome state.advance.machine = .ok after) :
    (state.step line).1.machine = after ∧ (state.step line).2 = .done () := by
  rw [hexecutes.step_eq, houtcome]
  exact ⟨rfl, rfl⟩

/-- The text of a report. -/
def reportText (number : Int) (line message : String) : String :=
  "\n-------------------------\nFatal error on line " ++ lineNumber number ++ ":\n\n" ++
    ("  " ++ lineNumber number ++ " " ++ line ++ "\n\n" ++ message ++ "\n")

theorem report_of_line {α : Type} {emulator : Emulator} {line : String}
    (hline : emulator.lineAt (emulator.machine.pc - 1) = .ok line) (message : String) :
    (emulator.report message : Emulator × Ending α) =
      ({ emulator with
        output := emulator.output ++ reportText emulator.machine.pc line message }, .exited) := by
  unfold report reportText
  simp only [print_machine, lineAt_print, hline]
  rw [← String.append_assoc]
  rfl

theorem settle_fatal {emulator : Emulator} {line message : String}
    (hline : emulator.lineAt (emulator.machine.pc - 1) = .ok line) :
    emulator.settle (.error (.fatal message)) = emulator.report message := by
  simp only [settle, report_of_line hline]

/-- An instruction that halts leaves all alone but the place and the faults that are kept, whatever
becomes of its own fault. -/
theorem settle_error_machine (emulator : Emulator) (halt : Halt) :
    (emulator.settle (.error halt)).1.machine = { emulator.machine with
      pc := (emulator.settle (.error halt)).1.machine.pc
      pending := (emulator.settle (.error halt)).1.machine.pending
      thrownCount := (emulator.settle (.error halt)).1.machine.thrownCount } := by
  have hthrow : ∀ (thrower : Emulator) (cause : Fault),
      (thrower.throw cause).1.machine = { thrower.machine with
        pc := (thrower.throw cause).1.machine.pc
        pending := (thrower.throw cause).1.machine.pending
        thrownCount := (thrower.throw cause).1.machine.thrownCount } := by
    intro thrower cause
    rw [throw_machine]
    rfl
  cases halt with
  | fault cause => exact hthrow emulator cause
  | fatal message =>
      rcases report_cases (α := Unit) emulator message with ⟨_, shown, -, hreport⟩ |
        ⟨failure, output, -, hreport⟩
      · simp only [settle, hreport]
      · simp only [settle, hreport]
        exact hthrow _ failure

end Emulator

end Dalvik
