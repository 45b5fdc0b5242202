import Dalvik.Proofs.Layout
import Dalvik.Proofs.Outcomes
import Dalvik.Proofs.ProgramCounter
import Mathlib.Order.Monotone.Basic

/-!
# Runs do not depend on the layout

Two runs are followed side by side, one of a listing and one of the listing with lines inserted. Both
stand at the same line of the listing; the second one may still have inserted lines to pass. A line of
the listing does the same in both runs, for what it reads does not tell where lines stand: labels and
guarded blocks have moved along, and no instruction stands right before a guarded block.
-/

namespace Dalvik

open Listing

/-! ### Machines with moved tables -/

namespace Machine

/-- The machine with its tables moved, standing at another line. -/
def relocated (place : Nat → Nat) (pc : Int) (machine : Machine) : Machine :=
  { machine.moved place with pc := pc }

theorem relocated_pc (place : Nat → Nat) (pc : Int) (machine : Machine) :
    (machine.relocated place pc).pc = pc := rfl

end Machine

/-- Outcomes of one instruction on a machine and on the same machine with moved tables. -/
inductive Instruction.Agrees (place : Nat → Nat) (pc : Int) (machine : Machine) :
    Except Halt Machine → Except Halt Machine → Prop where
  | stays {after : Machine} (hplace : machine.SamePlace after) :
      Agrees place pc machine (.ok after) (.ok (after.relocated place pc))
  | goes {label : String} {line : Int} (hline : machine.labels.get? label = some line) :
      Agrees place pc machine (.ok { machine with pc := line })
        (.ok ({ machine with pc := line }.relocated place (place line.toNat)))
  | halts {halt : Halt} : Agrees place pc machine (.error halt) (.error halt)

namespace Instruction

variable {place : Nat → Nat} {pc : Int} {machine : Machine} {α : Type}

theorem Agrees.bind {x : Except Halt α} {next next' : α → Except Halt Machine}
    (hnext : ∀ value, Agrees place pc machine (next value) (next' value)) :
    Agrees place pc machine (x >>= next) (x >>= next') := by
  cases x with
  | ok value => exact hnext value
  | error halt => exact .halts

theorem agrees_jumpTo (label : String) :
    Agrees place pc machine (machine.jumpTo label) ((machine.relocated place pc).jumpTo label) := by
  have hlabel : (machine.relocated place pc).labels.get? label =
      (machine.labels.get? label).map fun line => (place line.toNat : Int) :=
    Table.get?_mapValues (fun line : Int => (place line.toNat : Int)) machine.labels label
  unfold Machine.jumpTo
  rw [hlabel]
  cases hline : machine.labels.get? label with
  | some line => exact .goes hline
  | none => exact .halts

theorem agrees_same : Agrees place pc machine (.ok machine) (.ok (machine.relocated place pc)) :=
  .stays (.refl machine)

theorem agrees_write (register : String) (value : Value) :
    Agrees place pc machine (.ok (machine.write register value))
      (.ok ((machine.relocated place pc).write register value)) :=
  .stays ⟨⟨rfl, rfl, rfl, rfl⟩, rfl⟩

theorem agrees_writeFrom (register : String) (made : Value × Heap) :
    Agrees place pc machine (.ok (machine.writeFrom register made))
      (.ok ((machine.relocated place pc).writeFrom register made)) :=
  .stays ⟨⟨rfl, rfl, rfl, rfl⟩, rfl⟩

theorem agrees_give (value : Value) :
    Agrees place pc machine (.ok (machine.give value))
      (.ok ((machine.relocated place pc).give value)) :=
  .stays ⟨⟨rfl, rfl, rfl, rfl⟩, rfl⟩

theorem agrees_giveSlice (value : Value) (arguments : List String) :
    Agrees place pc machine (machine.giveSlice value arguments)
      ((machine.relocated place pc).giveSlice value arguments) := by
  refine .bind fun x => .bind fun first => .bind fun y => .bind fun last => .bind fun made => ?_
  exact .stays ⟨⟨rfl, rfl, rfl, rfl⟩, rfl⟩

theorem leaveOutcome_agrees (kind source : Option String) :
    Agrees place pc machine (leaveOutcome machine kind source)
      (leaveOutcome (machine.relocated place pc) kind source) := by
  unfold leaveOutcome
  split
  · exact .stays ⟨⟨rfl, rfl, rfl, rfl⟩, rfl⟩
  · exact .stays ⟨⟨rfl, rfl, rfl, rfl⟩, rfl⟩
  · exact .bind fun value => .stays ⟨⟨rfl, rfl, rfl, rfl⟩, rfl⟩
  · exact .bind fun value => .stays ⟨⟨rfl, rfl, rfl, rfl⟩, rfl⟩
  · exact .bind fun value => .stays ⟨⟨rfl, rfl, rfl, rfl⟩, rfl⟩
  · exact .halts
  · exact .halts
  · exact .halts

theorem narrowOutcome_agrees (kind target source : String) :
    Agrees place pc machine (narrowOutcome machine kind target source)
      (narrowOutcome (machine.relocated place pc) kind target source) := by
  unfold narrowOutcome
  split
  · exact .bind fun value => .bind fun char => agrees_write target char
  · exact .bind fun value => .bind fun byte => agrees_write target byte
  · exact .halts

theorem method_outcome_agrees (method : Method) (this : String)
    (arguments : List String) :
    Agrees place pc machine (method.outcome machine this arguments)
      (method.outcome (machine.relocated place pc) this arguments) := by
  cases method with
  | create className => exact .halts
  | textOfChars => exact .bind fun chars => .bind fun text => agrees_write this (.text text)
  | charAt => exact .bind fun index => .bind fun value => .bind fun char => agrees_give char
  | toChars =>
      exact .bind fun value => .bind fun items => .stays ⟨⟨rfl, rfl, rfl, rfl⟩, rfl⟩
  | intern => exact .bind fun value => .bind fun text => agrees_give (.text text)
  | textOfRange => exact .bind fun chars => .bind fun text => agrees_giveSlice (.text text) arguments
  | length => exact .bind fun value => .bind fun length => agrees_give (.int length)
  | substring => exact .bind fun value => agrees_giveSlice value arguments
  | initBuilder => exact agrees_same
  | append =>
      exact .bind fun value => .bind fun addend => .bind fun made =>
        .stays ⟨⟨rfl, rfl, rfl, rfl⟩, rfl⟩
  | builderText => exact .bind fun value => .bind fun text => agrees_give (.text text)
  | parseInt => exact .bind fun value => .bind fun number => agrees_give (.int number)
  | parseDecimal => exact .bind fun value => .bind fun number => agrees_give (.int number)

/-- An instruction does the same wherever the lines have moved to. -/
theorem outcome_agrees (instruction : Instruction) :
    Agrees place pc machine (instruction.outcome machine)
      (instruction.outcome (machine.relocated place pc)) := by
  cases instruction with
  | const target literal => exact .bind fun made => agrees_writeFrom target made
  | constString => exact .halts
  | move target source => exact .bind fun value => agrees_write target value
  | moveResult target => exact agrees_write target machine.result
  | moveException target =>
      simp only [outcome]
      cases hlast : machine.pending.getLast? with
      | some thrown =>
          have hsame : (machine.relocated place pc).pending.getLast? = some thrown := hlast
          rw [hsame]
          exact .stays ⟨⟨rfl, rfl, rfl, rfl⟩, rfl⟩
      | none =>
          have hsame : (machine.relocated place pc).pending.getLast? = none := hlast
          rw [hsame]
          exact .halts
  | branch test left right label =>
      refine .bind fun x => .bind fun y => .bind fun taken => ?_
      cases taken with
      | true => exact agrees_jumpTo label
      | false => exact agrees_same
  | branchZero test source label =>
      refine .bind fun x => .bind fun taken => ?_
      cases taken with
      | true => exact agrees_jumpTo label
      | false => exact agrees_same
  | goto label => exact agrees_jumpTo label
  | packedSwitch source table =>
      refine .bind fun value => .bind fun label? => ?_
      cases label? with
      | some label => exact agrees_jumpTo label
      | none => exact agrees_same
  | arrayLength target array =>
      exact .bind fun value => .bind fun length => agrees_write target (.int length)
  | fillArray target label =>
      simp only [outcome]
      cases hdata : machine.arrays.get? label with
      | some data =>
          have hsame : (machine.relocated place pc).arrays.get? label = some data := hdata
          rw [hsame]
          exact agrees_write target (.list data.elements)
      | none =>
          have hsame : (machine.relocated place pc).arrays.get? label = none := hdata
          rw [hsame]
          exact .halts
  | newArray target size =>
      exact .bind fun count => .bind fun made => agrees_writeFrom target made
  | arrayGet target array index =>
      exact .bind fun sequence => .bind fun position => .bind fun item => agrees_write target item
  | arrayPut source array index =>
      exact .bind fun x => .bind fun position => .bind fun sequence => .bind fun item =>
        .bind fun heap => agrees_writeFrom array (sequence, heap)
  | arithmetic operation target left right =>
      exact .bind fun x => .bind fun y => .bind fun made => agrees_writeFrom target made
  | literalArithmetic operation target source literal =>
      exact .bind fun made => agrees_writeFrom target made
  | xorInto target source =>
      exact .bind fun y => .bind fun x => .bind fun number => .bind fun made =>
        agrees_writeFrom target made
  | convert kind target source => exact narrowOutcome_agrees kind target source
  | staticGet target field => exact .bind fun value => agrees_write target value
  | staticPut source field => exact .bind fun value => agrees_write field value
  | newInstance target className => exact .bind fun object => agrees_write target object
  | invoke registers callee => exact .bind fun method => method_outcome_agrees method _ registers.tail
  | exit kind source => exact leaveOutcome_agrees kind source

end Instruction

/-! ### Reports and handlers -/

namespace Emulator

/-- Where a block hands its faults to. -/
def entered (machine : Machine) (block : CatchBlock) : Except Halt Machine :=
  match block.handler with
  | some label => machine.jumpTo label
  | none => .error (.fault (.missing "None"))

theorem enter_commits (block : CatchBlock) (machine : Machine) :
    Action.Commits (Action.enter block) machine (entered machine block) := by
  unfold Action.enter entered
  cases block.handler with
  | some label => exact Action.commits_jump label machine
  | none => exact rfl

theorem entered_agrees {place : Nat → Nat} {pc : Int} {machine : Machine} (block : CatchBlock) :
    Instruction.Agrees place pc machine (entered machine block)
      (entered (machine.relocated place pc) (block.moved place)) := by
  unfold entered
  rw [show (block.moved place).handler = block.handler from rfl]
  cases block.handler with
  | some label => exact Instruction.agrees_jumpTo label
  | none => exact .halts

end Emulator

theorem find?_congr_of_mem {α : Type} {list : List α} {p q : α → Bool}
    (hsame : ∀ item ∈ list, p item = q item) : list.find? p = list.find? q := by
  induction list with
  | nil => rfl
  | cons item rest ih =>
      rw [List.find?_cons, List.find?_cons, hsame item List.mem_cons_self,
        ih fun other hother => hsame other (List.mem_cons_of_mem item hother)]

namespace Emulator

variable {gaps : Nat → List String} {lines : List String} {base : String}

/-! ### Two runs side by side -/

/-- Labels name lines of the listing, and no instruction stands right before a guarded block. -/
structure Grounded (lines : List String) (machine : Machine) : Prop where
  labels : ∀ label line, machine.labels.get? label = some line →
    ∃ index < lines.length, line = (index : Int)
  blocks : ∀ block ∈ machine.catchBlocks, ∃ first last : Nat,
    block.first = first ∧ block.last = last ∧
      ∀ before line, first = before + 1 → lines[before]? = some line → isPassive line = true

theorem Grounded.congr {machine after : Machine} (hgrounded : Grounded lines machine)
    (htables : machine.SameTables after) : Grounded lines after := by
  refine ⟨?_, ?_⟩
  · rw [htables.labels]
    exact hgrounded.labels
  · rw [htables.catchBlocks]
    exact hgrounded.blocks

/-- A block covers the line behind an instruction if and only if it does so at the new places. -/
theorem Grounded.catcher? {machine : Machine} {index : Nat} {line : String}
    (hgrounded : Grounded lines machine) (hpc : machine.pc = index + 1)
    (hline : lines[index]? = some line) (hactive : isPassive line = false) :
    (machine.relocated (place gaps) (place gaps index + 1)).catcher? =
      machine.catcher?.map (·.moved (place gaps)) := by
  have hblocks : (machine.relocated (place gaps) (place gaps index + 1)).catchBlocks =
      machine.catchBlocks.map (·.moved (place gaps)) := rfl
  unfold Machine.catcher?
  rw [hblocks, List.find?_map]
  congr 1
  refine find?_congr_of_mem fun block hblock => ?_
  obtain ⟨first, last, hfirst, hlast, hbefore⟩ := hgrounded.blocks block hblock
  have hne : first ≠ index + 1 := by
    intro heq
    have hpassive := hbefore index line heq hline
    rw [hactive] at hpassive
    cases hpassive
  have hmono : StrictMono (place gaps) := fun _ _ hlt => place_lt_place hlt
  have hnext : place gaps index < place gaps (index + 1) := hmono (Nat.lt_succ_self index)
  have hleft : place gaps first ≤ place gaps index + 1 ↔ first ≤ index + 1 := by
    constructor
    · intro hle
      by_contra hgt
      have hlater : place gaps (index + 1) < place gaps first := hmono (by omega)
      omega
    · intro hle
      have hearlier : place gaps first ≤ place gaps index := hmono.monotone (by omega)
      omega
  have hright : place gaps index + 1 ≤ place gaps last ↔ index + 1 ≤ last :=
    hmono.lt_iff_lt
  simp only [Function.comp_apply, Machine.covers, CatchBlock.moved, hfirst, hlast, hpc,
    Machine.relocated_pc, Int.toNat_natCast]
  rw [Bool.eq_iff_iff]
  simp only [Bool.and_eq_true, decide_eq_true_eq]
  exact and_congr (by exact_mod_cast hleft) (by exact_mod_cast hright)

/-- One emulator runs the listing and the other one the listing with lines inserted; both stand at
the same line, the second one perhaps at a line that was inserted before it. -/
structure Aligned (gaps : Nat → List String) (lines : List String) (base : String)
    (first second : Emulator) : Prop where
  source : first.source = some lines
  woven : second.source = some (weave gaps 0 lines)
  silent : first.tracing = false ∧ second.tracing = false
  output : first.output = base ∧ second.output = base
  machine : second.machine = first.machine.relocated (place gaps) second.machine.pc
  grounded : Grounded lines first.machine
  pc : ∃ index ≤ lines.length, first.machine.pc = index ∧
    ∃ now : Nat, second.machine.pc = now ∧ gapStart gaps index ≤ now ∧ now ≤ place gaps index

/-- Machines that differ only in where lines stand. -/
def SameState (first second : Machine) : Prop :=
  second = { first with
    labels := second.labels, catchBlocks := second.catchBlocks, pc := second.pc }

theorem sameState_relocated {place : Nat → Nat} {pc : Int} {machine moved : Machine}
    (hmoved : moved = machine.relocated place pc) : SameState machine moved := by
  rw [SameState, hmoved]
  rfl

/-- Results that differ only in where lines stand. -/
inductive SameOutcome {α : Type} (base : String) :
    Emulator × Ending α → Emulator × Ending α → Prop where
  | done {first second : Emulator} (value : α)
      (hmachine : SameState first.machine second.machine)
      (houtput : first.output = base ∧ second.output = base) :
      SameOutcome base (first, .done value) (second, .done value)
  | raised {first second : Emulator} (cause : Fault)
      (hmachine : SameState first.machine second.machine)
      (houtput : first.output = base ∧ second.output = base) :
      SameOutcome base (first, .raised cause) (second, .raised cause)
  | exited {first second : Emulator} (line message : String)
      (hmachine : SameState first.machine second.machine)
      (hfirst : first.output = base ++ reportText first.machine.pc line message)
      (hsecond : second.output = base ++ reportText second.machine.pc line message) :
      SameOutcome base (first, .exited) (second, .exited)

/-- An operation that is not done is over. -/
theorem SameOutcome.andThen {α β : Type} {first second : Emulator × Ending α}
    (hsame : SameOutcome base first second) (hending : ∀ value, first.2 ≠ .done value)
    (next next' : Emulator → α → Emulator × Ending β) :
    SameOutcome base (Emulator.andThen first next) (Emulator.andThen second next') := by
  cases hsame with
  | done value => exact absurd rfl (hending value)
  | raised cause hmachine houtput => exact .raised cause hmachine houtput
  | exited line message hmachine hfirst hsecond => exact .exited line message hmachine hfirst hsecond

variable {first second : Emulator} {index : Nat} {line : String}

/-- Both emulators have moved on behind the same line of the listing. -/
structure Behind (gaps : Nat → List String) (lines : List String) (base : String) (index : Nat)
    (line : String) (first second : Emulator) : Prop where
  source : first.source = some lines
  woven : second.source = some (weave gaps 0 lines)
  silent : first.tracing = false ∧ second.tracing = false
  output : first.output = base ∧ second.output = base
  machine : second.machine = first.machine.relocated (place gaps) (place gaps index + 1)
  grounded : Grounded lines first.machine
  line_eq : lines[index]? = some line
  pc : first.machine.pc = (index : Int) + 1

/-- What becomes of both emulators in one line. -/
inductive Together (gaps : Nat → List String) (lines : List String) (base : String) :
    Emulator × Ending Unit → Emulator × Ending Unit → Prop where
  | goesOn {first second : Emulator} (haligned : Aligned gaps lines base first second) :
      Together gaps lines base (first, .done ()) (second, .done ())
  | ends {first second : Emulator × Ending Unit} (hsame : SameOutcome base first second)
      (hending : first.2 ≠ .done ()) : Together gaps lines base first second

namespace Behind

/-- Behind a line that is over, both emulators stand at the same line again. -/
theorem takeOver (hbehind : Behind gaps lines base index line first second)
    {machine moved : Machine}
    (hagrees : Instruction.Agrees (place gaps) (place gaps index + 1) first.machine (.ok machine)
      (.ok moved)) :
    Aligned gaps lines base { first with machine := machine } { second with machine := moved } := by
  have hlt : index < lines.length := (List.getElem?_eq_some_iff.mp hbehind.line_eq).1
  cases hagrees with
  | stays hplace =>
      refine ⟨hbehind.source, hbehind.woven, hbehind.silent, hbehind.output, rfl,
        hbehind.grounded.congr hplace.toSameTables, index + 1, hlt, ?_, place gaps index + 1, rfl,
        le_of_eq (gapStart_succ gaps index), ?_⟩
      · rw [hplace.pc, hbehind.pc]
        rfl
      · rw [← gapStart_succ]
        exact gapStart_le_place gaps (index + 1)
  | goes hline =>
      obtain ⟨target, htarget, rfl⟩ := hbehind.grounded.labels _ _ hline
      refine ⟨hbehind.source, hbehind.woven, hbehind.silent, hbehind.output, rfl,
        hbehind.grounded.congr ⟨rfl, rfl, rfl, rfl⟩, target, htarget.le, rfl, place gaps target, rfl,
        gapStart_le_place gaps target, le_rfl⟩

theorem lineAt_eq (hbehind : Behind gaps lines base index line first second) :
    first.lineAt (first.machine.pc - 1) = .ok line ∧
      second.lineAt (second.machine.pc - 1) = .ok line := by
  constructor
  · rw [hbehind.pc, Int.add_sub_cancel]
    exact lineAt_of_getElem? hbehind.source hbehind.line_eq
  · rw [hbehind.machine, Machine.relocated_pc, Int.add_sub_cancel]
    exact lineAt_of_getElem? hbehind.woven (getElem?_place hbehind.line_eq)

/-- Reports of both emulators show the same line and message. -/
theorem report (hbehind : Behind gaps lines base index line first second) (message : String) :
    SameOutcome base (first.report message : Emulator × Ending Unit) (second.report message) := by
  obtain ⟨hfirst, hsecond⟩ := hbehind.lineAt_eq
  rw [report_of_line hfirst, report_of_line hsecond, hbehind.output.1, hbehind.output.2]
  exact .exited line message (sameState_relocated hbehind.machine) rfl rfl

theorem keep (hbehind : Behind gaps lines base index line first second) (cause : Fault) :
    Behind gaps lines base index line { first with machine := first.machine.keep cause }
      { second with machine := second.machine.keep cause } := by
  refine ⟨hbehind.source, hbehind.woven, hbehind.silent, hbehind.output, ?_,
    hbehind.grounded.congr ⟨rfl, rfl, rfl, rfl⟩, hbehind.line_eq, hbehind.pc⟩
  show second.machine.keep cause = _
  rw [hbehind.machine]
  rfl

/-- A block takes over at the same line of the listing, or its handler is missing. -/
theorem enter (hbehind : Behind gaps lines base index line first second) (block : CatchBlock) :
    Together gaps lines base (first.perform (Action.enter block))
      (second.perform (Action.enter (block.moved (place gaps)))) := by
  have hagrees : Instruction.Agrees (place gaps) (place gaps index + 1) first.machine
      (entered first.machine block) (entered second.machine (block.moved (place gaps))) :=
    hbehind.machine ▸ entered_agrees block
  have hfirst := enter_commits block first.machine
  have hsecond := enter_commits (block.moved (place gaps)) second.machine
  generalize entered first.machine block = outcome at hagrees hfirst
  generalize entered second.machine (block.moved (place gaps)) = moved at hagrees hsecond
  cases hagrees with
  | stays hplace =>
      rw [perform_of_ok hfirst, perform_of_ok hsecond]
      exact .goesOn (hbehind.takeOver (.stays hplace))
  | goes hline =>
      rw [perform_of_ok hfirst, perform_of_ok hsecond]
      exact .goesOn (hbehind.takeOver (.goes hline))
  | @halts halt =>
      cases halt with
      | fault cause =>
          rw [perform_of_fault hfirst, perform_of_fault hsecond]
          exact .ends (.raised cause (sameState_relocated hbehind.machine) hbehind.output) nofun
      | fatal message =>
          have hreport : first.perform (Action.enter block) = first.report message := by
            simp only [perform, show _ = _ from hfirst]
          have hreport' : second.perform (Action.enter (block.moved (place gaps))) =
              second.report message := by
            simp only [perform, show _ = _ from hsecond]
          rw [hreport, hreport']
          exact .ends (hbehind.report message) (report_ne_done first message ())

/-- A fault is handed to the same handler, or ends both runs. -/
theorem throw (hbehind : Behind gaps lines base index line first second)
    (hactive : isPassive line = false) (cause : Fault) :
    Together gaps lines base (first.throw cause) (second.throw cause) := by
  have hkept := hbehind.keep cause
  have hcatcher : (second.machine.keep cause).catcher? =
      (first.machine.keep cause).catcher?.map (·.moved (place gaps)) := by
    have hmachine := hkept.machine
    dsimp only at hmachine
    rw [hmachine]
    exact hkept.grounded.catcher? hkept.pc hkept.line_eq hactive
  unfold Emulator.throw
  dsimp only
  rw [hcatcher]
  cases (first.machine.keep cause).catcher? with
  | some block => exact hkept.enter block
  | none =>
      dsimp only [Option.map_none]
      cases cause.text with
      | ok text => exact .ends (hkept.report _) (report_ne_done _ _ ())
      | error obstacle =>
          exact .ends (.raised obstacle (sameState_relocated hkept.machine) hkept.output) nofun

/-- Both emulators settle the outcome of the instruction alike. -/
theorem settle (hbehind : Behind gaps lines base index line first second)
    (hactive : isPassive line = false) (instruction : Instruction) :
    Together gaps lines base (first.settle (instruction.outcome first.machine))
      (second.settle (instruction.outcome second.machine)) := by
  have hagrees : Instruction.Agrees (place gaps) (place gaps index + 1) first.machine
      (instruction.outcome first.machine) (instruction.outcome second.machine) :=
    hbehind.machine ▸ instruction.outcome_agrees
  generalize instruction.outcome first.machine = outcome at hagrees
  generalize instruction.outcome second.machine = moved at hagrees
  cases hagrees with
  | stays hplace => exact .goesOn (hbehind.takeOver (.stays hplace))
  | goes hline => exact .goesOn (hbehind.takeOver (.goes hline))
  | @halts halt =>
      cases halt with
      | fault cause => exact hbehind.throw hactive cause
      | fatal message =>
          obtain ⟨hfirst, hsecond⟩ := hbehind.lineAt_eq
          rw [settle_fatal hfirst, settle_fatal hsecond]
          exact .ends (hbehind.report message) (report_ne_done first message ())

end Behind

/-! ### Lines and runs -/

theorem trace_of_silent {emulator : Emulator} (hsilent : emulator.tracing = false)
    (line : String) : emulator.trace line = emulator := by
  unfold trace
  rw [hsilent]
  rfl

namespace Aligned

/-- Both emulators run the same line of the listing. -/
theorem step (haligned : Aligned gaps lines base first second)
    (hfirst : first.machine.pc = (index : Int))
    (hsecond : second.machine.pc = (place gaps index : Int)) (hline : lines[index]? = some line) :
    Together gaps lines base (first.step line) (second.step line) := by
  have hbehind : Behind gaps lines base index line first.advance second.advance := by
    refine ⟨haligned.source, haligned.woven, haligned.silent, haligned.output, ?_,
      haligned.grounded.congr ⟨rfl, rfl, rfl, rfl⟩, hline, ?_⟩
    · show { second.machine with pc := second.machine.pc + 1 } = _
      rw [hsecond, haligned.machine]
      rfl
    · show first.machine.pc + 1 = _
      rw [hfirst]
  cases hpassive : isPassive line with
  | true =>
      simp only [Emulator.step, hpassive]
      have hagrees : Instruction.Agrees (place gaps) (place gaps index + 1) first.advance.machine
          (.ok first.advance.machine) (.ok second.advance.machine) := by
        rw [hbehind.machine]
        exact Instruction.agrees_same
      exact .goesOn (hbehind.takeOver hagrees)
  | false =>
      cases hread : Instruction.ofLine? line with
      | none =>
          have hunread : ∀ emulator : Emulator, emulator.step line =
              emulator.advance.report "Unsupported opcode." := by
            intro emulator
            simp [Emulator.step, hpassive, executeLine, attempt, hread, andThen]
          rw [hunread, hunread]
          exact .ends (hbehind.report _) (report_ne_done _ _ ())
      | some instruction =>
          rw [step_eq_settle first hpassive hread, step_eq_settle second hpassive hread,
            trace_of_silent hbehind.silent.1, trace_of_silent hbehind.silent.2]
          exact hbehind.settle hpassive instruction

/-- How many inserted lines are left before the line of the listing. -/
def rank (gaps : Nat → List String) (first second : Emulator) : Nat :=
  place gaps first.machine.pc.toNat - second.machine.pc.toNat

/-- Both runs are over, or the second one passes an inserted line, or both run the same line. -/
theorem cases (haligned : Aligned gaps lines base first second) (hspacing : Spacing lines gaps) :
    (first.nextLine? = none ∧ second.nextLine? = none) ∨
    (∃ inserted, second.nextLine? = some inserted ∧
      second.step inserted = (second.advance, .done ()) ∧
      Aligned gaps lines base first second.advance ∧
      rank gaps first second.advance < rank gaps first second) ∨
    ∃ line, first.nextLine? = some line ∧ second.nextLine? = some line ∧
      Together gaps lines base (first.step line) (second.step line) := by
  have hstopped : second.machine.stopped = first.machine.stopped := by
    rw [haligned.machine]
    rfl
  cases hgoing : first.machine.stopped with
  | true =>
      left
      rw [hgoing] at hstopped
      simp [nextLine?, hgoing, hstopped]
  | false =>
      rw [hgoing] at hstopped
      obtain ⟨index, hindex, hfirst, now, hnow, hstart, hplace⟩ := haligned.pc
      have hnext := nextLine?_of_getElem? haligned.source hfirst hgoing
      have hnext' := nextLine?_of_getElem? haligned.woven hnow hstopped
      -- the second run stands at an inserted line, or at the same line as the first
      rcases Nat.lt_or_eq_of_le hplace with hbefore | rfl
      · right; left
        have hoffset : now - gapStart gaps index < (gaps index).length := by
          unfold place at hbefore
          omega
        have hget := getElem?_gap hindex hoffset
        rw [Nat.add_sub_cancel' hstart] at hget
        have hinserted := List.getElem?_eq_getElem hoffset
        have hmem := List.getElem_mem hoffset
        generalize (gaps index)[now - gapStart gaps index] = inserted at hinserted hmem
        have hpassive := hspacing.isPassive hmem
        refine ⟨inserted, by rw [hnext', hget, hinserted], ?_, ?_, ?_⟩
        · simp [Emulator.step, hpassive]
        · refine ⟨haligned.source, haligned.woven, haligned.silent, haligned.output, ?_,
            haligned.grounded, index, hindex, hfirst, now + 1, ?_, by omega, hbefore⟩
          · show { second.machine with pc := second.machine.pc + 1 } = _
            rw [haligned.machine]
            rfl
          · show second.machine.pc + 1 = _
            rw [hnow]
            rfl
        · have hadvance : second.advance.machine.pc = ((now + 1 : Nat) : Int) := by
            show second.machine.pc + 1 = _
            rw [hnow]
            rfl
          simp only [rank, hfirst, hnow, hadvance, Int.toNat_natCast]
          omega
      · cases hline : lines[index]? with
        | none =>
            left
            have hend : index = lines.length :=
              le_antisymm hindex (List.getElem?_eq_none_iff.mp hline)
            have hover : (weave gaps 0 lines)[place gaps index]? = none := by
              rw [List.getElem?_eq_none_iff, length_weave, hend]
            exact ⟨hnext.trans hline, hnext'.trans hover⟩
        | some line =>
            right; right
            refine ⟨line, by rw [hnext, hline], ?_, haligned.step hfirst hnow hline⟩
            rw [hnext', getElem?_place hline]

/-- Both runs are over. -/
theorem runFor_over (haligned : Aligned gaps lines base first second)
    (hfirst : first.nextLine? = none) (hsecond : second.nextLine? = none) (limit more : Nat) :
    SameOutcome base (runFor limit first) (runFor more second) := by
  rw [runFor, hfirst, runFor, hsecond]
  have hresult : second.machine.result = first.machine.result := by
    rw [haligned.machine]
    rfl
  rw [hresult]
  exact .done _ (sameState_relocated haligned.machine) haligned.output

/-- The second run passes the inserted lines before the line at which the first one stands. -/
theorem reach (haligned : Aligned gaps lines base first second) (hspacing : Spacing lines gaps) :
    ∃ skipped reached, (∀ more, runFor (skipped + more) second = runFor more reached) ∧
      Aligned gaps lines base first reached ∧
      ((first.nextLine? = none ∧ reached.nextLine? = none) ∨
        ∃ line, first.nextLine? = some line ∧ reached.nextLine? = some line ∧
          Together gaps lines base (first.step line) (reached.step line)) := by
  induction hrank : rank gaps first second using Nat.strong_induction_on generalizing second with
  | _ rank ih =>
      subst hrank
      rcases haligned.cases hspacing with hover | ⟨inserted, hnext, hstep, hadvance, hless⟩ | hline
      · exact ⟨0, second, fun more => by rw [Nat.zero_add], haligned, Or.inl hover⟩
      · obtain ⟨skipped, reached, hskip, hreached⟩ := ih _ hless hadvance rfl
        refine ⟨skipped + 1, reached, fun more => ?_, hreached⟩
        have hdone : (second.step inserted).2 = .done () := by rw [hstep]
        rw [Nat.add_right_comm, runFor_of_done hnext hdone, hstep]
        exact hskip more
      · exact ⟨0, second, fun more => by rw [Nat.zero_add], haligned, Or.inr hline⟩

/-- If the run of the listing ends, the run with lines inserted ends in the same way. -/
theorem forward (haligned : Aligned gaps lines base first second)
    (hspacing : Spacing lines gaps) (limit : Nat)
    (hends : (runFor limit first).2 ≠ .outOfSteps) :
    ∃ more, SameOutcome base (runFor limit first) (runFor more second) := by
  -- a line of the first run costs the second one that line and those inserted before it
  induction limit generalizing first second with
  | zero =>
      obtain ⟨skipped, reached, hskip, hreached, hcases⟩ := haligned.reach hspacing
      rcases hcases with ⟨hfirst, hsecond⟩ | ⟨line, hfirst, -⟩
      · exact ⟨skipped + 0, hskip 0 ▸ hreached.runFor_over hfirst hsecond 0 0⟩
      · rw [runFor, hfirst] at hends
        exact absurd rfl hends
  | succ limit ih =>
      obtain ⟨skipped, reached, hskip, hreached, hcases⟩ := haligned.reach hspacing
      rcases hcases with ⟨hfirst, hsecond⟩ | ⟨line, hfirst, hsecond, htogether⟩
      · exact ⟨skipped + 0, hskip 0 ▸ hreached.runFor_over hfirst hsecond (limit + 1) 0⟩
      · rw [runFor_succ hfirst] at hends ⊢
        generalize hstep : first.step line = result at hends htogether ⊢
        generalize hstep' : reached.step line = result' at htogether
        cases htogether with
        | goesOn hnext =>
            obtain ⟨more, hsame⟩ := ih hnext hends
            refine ⟨skipped + (more + 1), ?_⟩
            rw [hskip, runFor_succ hsecond, hstep']
            exact hsame
        | ends hsame hending =>
            refine ⟨skipped + 1, ?_⟩
            rw [hskip, runFor_succ hsecond 0, hstep']
            exact hsame.andThen (fun _ => hending) _ _

/-- If the run with lines inserted ends, the run of the listing ends in the same way. -/
theorem backward (haligned : Aligned gaps lines base first second)
    (hspacing : Spacing lines gaps) (limit : Nat)
    (hends : (runFor limit second).2 ≠ .outOfSteps) :
    ∃ fewer, SameOutcome base (runFor fewer first) (runFor limit second) := by
  induction limit generalizing first second with
  | zero =>
      rcases haligned.cases hspacing with ⟨hfirst, hsecond⟩ | ⟨inserted, hnext, -⟩ |
        ⟨line, -, hnext, -⟩
      · exact ⟨0, haligned.runFor_over hfirst hsecond 0 0⟩
      · rw [runFor, hnext] at hends
        exact absurd rfl hends
      · rw [runFor, hnext] at hends
        exact absurd rfl hends
  | succ limit ih =>
      rcases haligned.cases hspacing with ⟨hfirst, hsecond⟩ |
        ⟨inserted, hnext, hstep, hadvance, -⟩ | ⟨line, hfirst, hsecond, htogether⟩
      · exact ⟨0, haligned.runFor_over hfirst hsecond 0 (limit + 1)⟩
      · rw [runFor_succ hnext, hstep] at hends ⊢
        exact ih hadvance hends
      · rw [runFor_succ hsecond] at hends ⊢
        generalize hstep : first.step line = result at htogether
        generalize hstep' : second.step line = result' at hends htogether ⊢
        cases htogether with
        | goesOn hnext =>
            obtain ⟨fewer, hsame⟩ := ih hnext hends
            refine ⟨fewer + 1, ?_⟩
            rw [runFor_succ hfirst, hstep]
            exact hsame
        | ends hsame hending =>
            refine ⟨1, ?_⟩
            rw [runFor_succ hfirst 0, hstep]
            exact hsame.andThen (fun _ => hending) _ _

end Aligned

/-! ### The start -/

/-- A guarded block begins on a line that opens it. -/
theorem scan_opens {machine after : Machine} (hnew : machine.catchBlocks = [])
    (hscan : scan machine lines = (after, none)) :
    ∀ block ∈ after.catchBlocks, ∃ first last : Nat, block.first = first ∧ block.last = last ∧
      ∃ line, lines[first]? = some line ∧ Header.guarded.opens line = true := by
  refine scan_induction hscan (motive := fun _ current => ∀ block ∈ current.catchBlocks,
    ∃ first last : Nat, block.first = first ∧ block.last = last ∧
      ∃ line, lines[first]? = some line ∧ Header.guarded.opens line = true) ?_
    (fun _ _ _ hcurrent => hcurrent) ?_
  · rw [hnew]
    exact fun block hmem => nomatch hmem
  · intro index line current next last hline _ hdeclares hcurrent
    cases hdeclares with
    | nothing | label | switch | array => exact hcurrent
    | guarded hheader block? hblock =>
        intro block hmem
        rcases List.mem_append.mp hmem with hold | hnew
        · exact hcurrent block hold
        · rw [Option.mem_toList] at hnew
          cases hnew
          obtain ⟨hfirst, hlt, -⟩ := catchBlock?_range hblock
          exact ⟨index, block.last.toNat, hfirst, by omega, line, hline, opens_of_header? hheader⟩

/-- No instruction stands right before a line that opens a guarded block. -/
def Detached (lines : List String) : Prop :=
  ∀ index line before, lines[index + 1]? = some line → Header.guarded.opens line = true →
    lines[index]? = some before → isPassive before = true

theorem grounded_of_scan {arguments : Table Datum} {declared : Machine}
    (hscan : scan (({} : Machine).load arguments) lines = (declared, none))
    (hdetached : Detached lines) : Grounded lines declared := by
  have hnew : (({} : Machine).load arguments).catchBlocks = [] := by
    rw [Machine.load_frame]
  refine ⟨fun label line hline => ?_, fun block hblock => ?_⟩
  · obtain ⟨-, index, hindex, hlast⟩ := ((scan_declaredTables hscan).label_iff label line).mp hline
    exact ⟨index, (List.getElem?_eq_some_iff.mp hlast.line).1, hindex⟩
  · obtain ⟨first, last, hfirst, hlast, line, hline, hopens⟩ := scan_opens hnew hscan block hblock
    refine ⟨first, last, hfirst, hlast, ?_⟩
    rintro before passed rfl hpassed
    exact hdetached before line passed hline hopens hpassed

theorem load_moved (place : Nat → Nat) (arguments : Table Datum) :
    (({} : Machine).load arguments).moved place = ({} : Machine).load arguments := by
  rw [Machine.load_frame]
  rfl

/-- With lines inserted, the listing is declared as well, and both runs begin side by side. -/
theorem aligned_start {emulator : Emulator} {arguments : Table Datum}
    (hdone : (emulator.start lines (({} : Machine).load arguments) false).2 = .done ())
    (hspacing : Spacing (lines.map Text.strip) fun index => (gaps index).map Text.strip)
    (hdetached : Detached (lines.map Text.strip)) :
    ∃ started woven, emulator.start lines (({} : Machine).load arguments) false =
        (started, .done ()) ∧
      emulator.start (weave gaps 0 lines) (({} : Machine).load arguments) false =
        (woven, .done ()) ∧
      Aligned (fun index => (gaps index).map Text.strip) (lines.map Text.strip) emulator.output
        started woven := by
  obtain ⟨declared, hscan, -⟩ := start_eq_of_done hdone
  have hwoven := hspacing.scan_weave hscan
  rw [load_moved, ← weave_map] at hwoven
  have hpc : declared.pc = 0 := by
    rw [(scan_frame hscan).2, Machine.load_frame]
  refine ⟨_, _, start_of_scan hscan, start_of_scan hwoven, ?_⟩
  refine ⟨rfl, ?_, ⟨rfl, rfl⟩, ⟨rfl, rfl⟩, rfl, grounded_of_scan hscan hdetached, 0, Nat.zero_le _,
    hpc, 0, hpc, le_rfl, Nat.zero_le _⟩
  exact congrArg some (weave_map Text.strip gaps 0 lines)

theorem weave_ne_nil (hne : lines ≠ []) : weave gaps 0 lines ≠ [] := by
  cases lines with
  | nil => exact absurd rfl hne
  | cons line rest => simp [weave]

/-- **Layout.** Blank lines and comments that are inserted outside of cases and data change nothing
but where lines stand: one run ends if and only if the other one does, in the same way, with the
same registers, lists, faults and result, and a report shows the same line and message. -/
theorem run_weave (emulator : Emulator) (lines : List String) (gaps : Nat → List String)
    (arguments : Table Datum) (hne : lines ≠ [])
    (hdone : (emulator.start lines (({} : Machine).load arguments) false).2 = .done ())
    (hspacing : Spacing (lines.map Text.strip) fun index => (gaps index).map Text.strip)
    (hdetached : Detached (lines.map Text.strip)) :
    let plain := emulator.run lines (({} : Machine).load arguments) false
    let woven := emulator.run (weave gaps 0 lines) (({} : Machine).load arguments) false
    (∀ limit, (plain limit).2 ≠ .outOfSteps →
      ∃ more, SameOutcome emulator.output (plain limit) (woven more)) ∧
    ∀ limit, (woven limit).2 ≠ .outOfSteps →
      ∃ fewer, SameOutcome emulator.output (plain fewer) (woven limit) := by
  obtain ⟨started, woven, hstart, hwoven, haligned⟩ := aligned_start hdone hspacing hdetached
  simp only [run, checkLines_of_ne_nil hne, checkLines_of_ne_nil (weave_ne_nil hne), hstart, hwoven,
    andThen]
  exact ⟨haligned.forward hspacing, haligned.backward hspacing⟩

/-- Constant data, and a guarded block with its handler. -/
def spacedListing : List String := [
  ":array_0", ".array-data 4", "7", ".end array-data", ":try_start_0", "  aget v0, p0, p1",
  ":try_end_0", ".catch Ljava/lang/Exception; \x7b:try_start_0 .. :try_end_0\x7d :caught",
  "return v0", ":caught", "return-void"]

/-- Lines inserted before the guarded block, inside of it, and at the end. -/
def spacedGaps (index : Nat) : List String :=
  if index = 4 then ["", "# guarded"] else if index = 6 then ["  # inside"]
  else if index = 11 then [" "] else []

/-- What is evaluated of the listing: its headers, where their blocks end, and its marks. -/
theorem spacedListing_facts :
    (∀ index < 11, ((spacedListing.map Text.strip)[index]?.bind header? =
        if index = 0 then some .array else if index = 4 then some .guarded else none) ∧
      (closing? (spacedListing.map Text.strip) index = if index = 0 then some 3 else none)) ∧
    (∀ line ∈ spacedListing.map Text.strip, header? line = some .guarded →
      (markOf line).toOption = some "0") ∧
    isPassive ".end array-data" = true ∧ (spacedListing.map Text.strip)[3]? = some ".end array-data" := by
  decide +kernel

theorem lt_of_getElem?_spacedListing {index : Nat} {line : String}
    (hline : (spacedListing.map Text.strip)[index]? = some line) : index < 11 := by
  have hlt := (List.getElem?_eq_some_iff.mp hline).1
  simpa [spacedListing] using hlt

theorem spacing_spacedListing :
    Spacing (spacedListing.map Text.strip) fun index => (spacedGaps index).map Text.strip := by
  obtain ⟨hheaders, hmarks, -⟩ := spacedListing_facts
  refine ⟨?_, ?_, ?_, ?_⟩
  · intro index inserted hinserted
    unfold spacedGaps at hinserted
    split_ifs at hinserted
    · revert inserted; decide
    · revert inserted; decide
    · revert inserted; decide
    · cases hinserted
  · intro index hin
    obtain ⟨start, hlt, -, last, hclosing, hle⟩ := inBlock_iff.mp hin
    have hstart : start < 11 := by
      obtain ⟨line, hline, -⟩ := Option.bind_eq_some_iff.mp hclosing
      exact lt_of_getElem?_spacedListing hline
    rw [(hheaders start hstart).2] at hclosing
    split_ifs at hclosing with hzero
    cases hclosing
    have hempty : spacedGaps index = [] := by
      unfold spacedGaps
      split_ifs <;> first | omega | rfl
    rw [hempty]
    rfl
  · intro index line header hline _ hheader hne
    have hfacts := hheaders index (lt_of_getElem?_spacedListing hline)
    rw [hline, Option.bind_some, hheader] at hfacts
    obtain ⟨hkind, hclosing⟩ := hfacts
    split_ifs at hkind with hzero
    · exact ⟨3, by rw [hclosing, if_pos hzero]⟩
    · exact absurd (Option.some.inj hkind) hne
  · intro index line mark hline _ hheader hmark
    left
    have hzero := hmarks line (List.mem_of_getElem? hline) hheader
    rw [hmark] at hzero
    cases hzero
    exact Text.forall_mem_of_all (by decide)

theorem detached_spacedListing : Detached (spacedListing.map Text.strip) := by
  obtain ⟨hheaders, -, hpassive, hbefore⟩ := spacedListing_facts
  intro index line before hline hopens hpassed
  have hkind := (hheaders (index + 1) (lt_of_getElem?_spacedListing hline)).1
  rw [hline, Option.bind_some, header?_eq_some_iff.mpr hopens,
    if_neg (Nat.succ_ne_zero index)] at hkind
  split_ifs at hkind with hfour
  rw [Nat.succ_injective hfour, hbefore] at hpassed
  cases hpassed
  exact hpassive

theorem run_weave_spacedListing :
    (spacedListing ≠ [] ∧
      (Emulator.start {} spacedListing (({} : Machine).load [("p1", .int 0)]) false).2 = .done ()) ∧
    (∀ limit,
      (Emulator.run {} spacedListing (({} : Machine).load [("p1", .int 0)]) false limit).2 ≠
        .outOfSteps →
      ∃ more, SameOutcome ""
        (Emulator.run {} spacedListing (({} : Machine).load [("p1", .int 0)]) false limit)
        (Emulator.run {} (weave spacedGaps 0 spacedListing)
          (({} : Machine).load [("p1", .int 0)]) false more)) := by
  have hne : spacedListing ≠ [] := List.cons_ne_nil _ _
  have hdone : (Emulator.start {} spacedListing (({} : Machine).load [("p1", .int 0)]) false).2 =
      .done () := by
    decide +kernel
  exact ⟨⟨hne, hdone⟩, (run_weave {} spacedListing spacedGaps [("p1", .int 0)] hne hdone
    spacing_spacedListing detached_spacedListing).1⟩

/-- The mark holds a character that is special in patterns. -/
def markedListing : List String := [":try_start_a|b", "aget v0, p0, p1", ":h", "return-void"]

/-- A comment that the pattern with that mark finds. -/
def markedGaps (index : Nat) : List String := if index = 2 then ["# b\x7d :h"] else []

/-- Without plain marks a comment may be taken for a directive: the fault that ends the first run is
handled in the second one. -/
theorem markedListing_handles_fault :
    Detached markedListing ∧
    (∀ line ∈ markedListing, ∀ header, header? line = some header → header = .guarded) ∧
    (∀ index, ∀ inserted ∈ markedGaps index, Text.beginsWith "#" inserted = true) ∧
    (Emulator.start {} markedListing {} false).2 = .done () ∧
    ((Emulator.run {} markedListing {} false 5).2 matches .exited) ∧
    ((Emulator.run {} (weave markedGaps 0 markedListing) {} false 5).2 matches .done _) := by
  refine ⟨?_, ?_, ?_, by decide +kernel⟩
  · have hmarks : ∀ line ∈ markedListing.tail, Header.guarded.opens line = false := by decide
    intro index line before hline hopens
    rw [markedListing, List.getElem?_cons_succ] at hline
    rw [hmarks line (List.mem_of_getElem? hline)] at hopens
    cases hopens
  · decide +kernel
  · intro index inserted hinserted
    unfold markedGaps at hinserted
    split_ifs at hinserted
    · revert inserted; decide
    · cases hinserted

end Emulator

end Dalvik
