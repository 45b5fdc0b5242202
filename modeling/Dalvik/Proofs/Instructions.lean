import Dalvik.Instruction.Execute
import Dalvik.Proofs.Actions

/-!
# What instructions do

An instruction or a method of the library looks before it changes anything. Instructions that go to
another line read the label to go to and jump; all others stay at their place.
-/

namespace Dalvik

open Dalvik.Action

namespace Method

theorem silent_argument (arguments : List String) (position : Nat) :
    Silent (argument arguments position) := by
  unfold argument
  cases arguments[position]? with
  | some register => exact silent_fetch register
  | none => exact silent_throw _

/-- The two positions of a part of a text, with which a method goes on that gives the part. -/
theorem orderly_slice {arguments : List String} {text : Value} :
    Orderly (do
      let first ← (← argument arguments 0).toInt
      let last ← (← argument arguments 1).toInt
      giveFrom (← text.slice (← get).heap first last)
      return (none : Option Value)) := by
  refine (silent_argument arguments 0).bind_orderly fun x => ?_
  refine (silent_liftFault x.toInt).bind_orderly fun first => ?_
  refine (silent_argument arguments 1).bind_orderly fun y => ?_
  refine (silent_liftFault y.toInt).bind_orderly fun last => ?_
  refine silent_get.bind_orderly fun machine => ?_
  refine (silent_liftFault (text.slice machine.heap first last)).bind_sure fun made => ?_
  exact (sure_giveFrom made).bind fun _ => sure_pure none

theorem call_orderly (method : Method) (this : String) (arguments : List String) :
    Orderly (method.call this arguments) := by
  cases method with
  | create className => exact (silent_throw _).orderly
  | textOfChars =>
      refine (silent_argument arguments 0).bind_orderly fun chars => ?_
      refine silent_get.bind_orderly fun machine => ?_
      refine (silent_liftFault (chars.join machine.heap)).bind_sure fun text => ?_
      exact (sure_store this (.text text)).bind fun _ => sure_pure none
  | charAt =>
      refine (silent_argument arguments 0).bind_orderly fun index => ?_
      refine (silent_fetch this).bind_orderly fun value => ?_
      refine silent_get.bind_orderly fun machine => ?_
      refine (silent_liftFault (value.subscript machine.heap index)).bind_sure fun char => ?_
      exact (sure_give char).bind fun _ => sure_pure none
  | toChars =>
      refine (silent_fetch this).bind_orderly fun value => ?_
      refine silent_get.bind_orderly fun machine => ?_
      refine (silent_liftFault (value.walk machine.heap)).bind_orderly fun items => ?_
      refine silent_get.bind_sure fun machine => ?_
      exact (sure_giveFrom (machine.heap.newList items)).bind fun _ => sure_pure none
  | intern =>
      refine (silent_fetch this).bind_orderly fun value => ?_
      refine silent_get.bind_orderly fun machine => ?_
      exact (silent_liftFault (value.plain machine.heap)).bind_sure fun text =>
        sure_pure (some (Value.text text))
  | textOfRange =>
      refine (silent_fetch this).bind_orderly fun chars => ?_
      refine silent_get.bind_orderly fun machine => ?_
      exact (silent_liftFault (chars.join machine.heap)).bind_orderly fun text => orderly_slice
  | length =>
      refine (silent_fetch this).bind_orderly fun value => ?_
      refine silent_get.bind_orderly fun machine => ?_
      refine (silent_liftFault (value.length machine.heap)).bind_sure fun length => ?_
      exact (sure_give (.int length)).bind fun _ => sure_pure none
  | substring => exact (silent_fetch this).bind_orderly fun value => orderly_slice
  | initBuilder => exact (sure_pure none).orderly
  | append =>
      refine (silent_fetch this).bind_orderly fun value => ?_
      refine (silent_argument arguments 0).bind_orderly fun addend => ?_
      refine silent_get.bind_orderly fun machine => ?_
      refine (silent_liftFault (value.addInPlace machine.heap addend)).bind_sure fun made => ?_
      refine (sure_install made).bind fun whole => ?_
      -- the answer is read from the register that was just written, which cannot fail
      rw [store_fetch this whole fun answer => give answer >>= fun _ => pure none]
      exact (sure_store this whole).bind fun _ => (sure_give whole).bind fun _ => sure_pure none
  | builderText =>
      refine (silent_fetch this).bind_orderly fun value => ?_
      refine silent_get.bind_orderly fun machine => ?_
      refine (silent_liftFault (value.plain machine.heap)).bind_sure fun text => ?_
      exact (sure_give (.text text)).bind fun _ => sure_pure none
  | parseInt =>
      refine (silent_fetch this).bind_orderly fun value => ?_
      refine (silent_liftFault (parsed value)).bind_sure fun number => ?_
      exact (sure_give (.int number)).bind fun _ => sure_pure none
  | parseDecimal =>
      refine (silent_fetch this).bind_orderly fun value => ?_
      refine (silent_liftFault value.toInt).bind_sure fun number => ?_
      exact (sure_give (.int number)).bind fun _ => sure_pure none

end Method

theorem Action.invoke_orderly (this descriptor signature : String) (arguments : List String) :
    Orderly (invoke this descriptor signature arguments) := by
  refine (silent_liftHalt _).bind_orderly fun className => ?_
  refine silent_get.bind_orderly fun machine => ?_
  refine (silent_liftHalt (machine.method? className signature)).bind_orderly fun method => ?_
  refine (method.call_orderly this arguments).bind_sure fun answer => ?_
  cases answer with
  | some value => exact sure_give value
  | none => exact sure_pure ()

namespace Instruction

theorem leaveWith_orderly (register : String) : Orderly (leaveWith register) :=
  (silent_fetch register).bind_sure fun value => (sure_give value).bind fun _ => sure_stop

theorem leave_orderly (kind source : Option String) : Orderly (leave kind source) := by
  unfold leave
  split
  · exact ((sure_give .null).bind fun _ => sure_stop).orderly
  · exact ((sure_give .null).bind fun _ => sure_stop).orderly
  · exact leaveWith_orderly _
  · exact leaveWith_orderly _
  · exact leaveWith_orderly _
  · exact (silent_throw _).orderly
  · exact (silent_throw _).orderly
  · exact (silent_throw _).orderly

theorem narrow_orderly (kind target source : String) : Orderly (narrow kind target source) := by
  unfold narrow
  split
  · refine (silent_fetch source).bind_orderly fun value => ?_
    exact (silent_liftFault (lowChar value)).bind_sure fun char => sure_store target char
  · refine (silent_fetch source).bind_orderly fun value => ?_
    exact (silent_liftFault (byteOf value)).bind_sure fun byte => sure_store target byte
  · exact (silent_throw _).orderly

/-- Instructions that may go to another line. -/
def jumps : Instruction → Bool
  | .branch .. | .branchZero .. | .goto .. | .packedSwitch .. => true
  | _ => false

/-- The label that an instruction goes to, if it is taken. -/
def destination (machine : Machine) : Instruction → Except Fault (Option String)
  | .branch test left right label => do
    let x ← machine.read left
    let y ← machine.read right
    return if ← x.compare machine.heap test y then some label else none
  | .branchZero test source label => do
    let x ← machine.read source
    return if ← x.compare machine.heap test (.int 0) then some label else none
  | .goto label => return some label
  | .packedSwitch source table => do
    caseOf machine.heap (machine.switches.get? table) (← machine.read source)
  | _ => return none

theorem destination_eq_none {instruction : Instruction} (hjumps : instruction.jumps = false)
    (machine : Machine) : instruction.destination machine = .ok none := by
  cases instruction with
  | branch | branchZero | goto | packedSwitch => cases hjumps
  | _ => rfl

/-- An instruction that never jumps stays at its place, and has changed nothing if it halts. -/
theorem execute_orderly (instruction : Instruction) (hjumps : instruction.jumps = false) :
    Orderly instruction.execute := by
  cases instruction with
  | const target literal =>
      refine silent_get.bind_orderly fun machine => ?_
      exact (silent_liftFault (machine.literal literal)).bind_sure fun made =>
        sure_storeFrom target made
  | constString => exact (silent_throw _).orderly
  | move target source => exact (silent_fetch source).bind_sure fun value => sure_store target value
  | moveResult target => exact silent_get.bind_sure fun machine => sure_store target machine.result
  | moveException target =>
      exact orderly_takePending.bind_sure fun thrown => sure_store target _
  | branch | branchZero | goto | packedSwitch => cases hjumps
  | arrayLength target array =>
      refine (silent_fetch array).bind_orderly fun value => ?_
      refine silent_get.bind_orderly fun machine => ?_
      exact (silent_liftFault (value.length machine.heap)).bind_sure fun length =>
        sure_store target (.int length)
  | fillArray target label =>
      refine silent_get.bind_orderly fun machine => ?_
      cases machine.arrays.get? label with
      | some data => exact (sure_store target (.list data.elements)).orderly
      | none => exact (silent_throw _).orderly
  | newArray target size =>
      refine (silent_fetch size).bind_orderly fun count => ?_
      refine silent_get.bind_orderly fun machine => ?_
      exact (silent_liftFault _).bind_sure fun made => sure_storeFrom target made
  | arrayGet target array index =>
      refine (silent_fetch array).bind_orderly fun sequence => ?_
      refine (silent_fetch index).bind_orderly fun place => ?_
      refine silent_get.bind_orderly fun machine => ?_
      exact (silent_liftFault (sequence.subscript machine.heap place)).bind_sure fun item =>
        sure_store target item
  | arrayPut source array index =>
      refine (silent_fetch index).bind_orderly fun position => ?_
      refine (silent_liftFault position.toInt).bind_orderly fun place => ?_
      refine (silent_fetch array).bind_orderly fun sequence => ?_
      refine (silent_fetch source).bind_orderly fun item => ?_
      exact (orderly_changeHeap _).bind_sure fun _ => sure_store array sequence
  | arithmetic operation target left right =>
      refine (silent_fetch left).bind_orderly fun x => ?_
      refine (silent_fetch right).bind_orderly fun y => ?_
      refine silent_get.bind_orderly fun machine => ?_
      exact (silent_liftFault (operation.apply machine.heap x y)).bind_sure fun made =>
        sure_storeFrom target made
  | literalArithmetic operation target source literal =>
      refine silent_get.bind_orderly fun machine => ?_
      exact (silent_liftFault (literalResult machine operation target source literal)).bind_sure
        fun made => sure_storeFrom target made
  | xorInto target source =>
      refine (silent_fetch source).bind_orderly fun y => ?_
      refine (silent_fetch target).bind_orderly fun x => ?_
      refine (silent_liftFault (numberOrCode y)).bind_orderly fun number => ?_
      refine silent_get.bind_orderly fun machine => ?_
      exact (silent_liftFault (x.xorInPlace machine.heap number)).bind_sure fun made =>
        sure_storeFrom target made
  | convert kind target source => exact narrow_orderly kind target source
  | staticGet target field =>
      exact (silent_fetch field).bind_sure fun value => sure_store target value
  | staticPut source field =>
      exact (silent_fetch source).bind_sure fun value => sure_store field value
  | newInstance target className =>
      refine silent_get.bind_orderly fun machine => ?_
      exact (silent_liftHalt (machine.newInstance className)).bind_sure fun object =>
        sure_store target object
  | invoke registers callee =>
      refine (silent_liftFault (calleeParts callee)).bind_orderly fun parts => ?_
      exact invoke_orderly _ parts.1 parts.2 registers.tail
  | exit kind source => exact leave_orderly kind source

/-- An instruction that may jump does nothing else. -/
theorem execute_follows {instruction : Instruction} (hjumps : instruction.jumps = true)
    (machine : Machine) :
    Follows instruction.execute machine (instruction.destination machine) := by
  cases instruction with
  | goto label => exact rfl
  | branch test left right label =>
      refine (tells_fetch left machine).bind_follows fun x => ?_
      refine (tells_fetch right machine).bind_follows fun y => ?_
      refine follows_get ((tells_lift _ machine).bind_follows fun taken => ?_)
      cases taken <;> exact rfl
  | branchZero test source label =>
      refine (tells_fetch source machine).bind_follows fun x => ?_
      refine follows_get ((tells_lift _ machine).bind_follows fun taken => ?_)
      cases taken <;> exact rfl
  | packedSwitch source table =>
      refine (tells_fetch source machine).bind_follows fun value => ?_
      refine follows_get ((tells_lift _ machine).follows fun label? => ?_)
      cases label? <;> exact rfl
  | _ => cases hjumps

/-- An instruction comes to its end at its place, or at the line of the label that it leads to, or
it halts and has changed nothing; a label that is nowhere halts it. -/
theorem execute_cases (instruction : Instruction) (machine : Machine) :
    (∃ left, instruction.execute machine = .ok () left ∧ machine.SamePlace left ∧
      ∀ label, instruction.destination machine ≠ .ok (some label)) ∨
    (∃ label index, instruction.destination machine = .ok (some label) ∧
      machine.labels.get? label = some index ∧
      instruction.execute machine = .ok () { machine with pc := index }) ∨
    ∃ halt, instruction.execute machine = .error halt machine ∧
      ∀ label, instruction.destination machine = .ok (some label) →
        machine.labels.get? label = none := by
  cases hjumps : instruction.jumps with
  | false =>
      have hnone : ∀ label, instruction.destination machine ≠ .ok (some label) := by
        rw [destination_eq_none hjumps]
        exact fun _ hsome => nomatch hsome
      rcases instruction.execute_orderly hjumps machine with ⟨_, left, hok, hplace⟩ | ⟨halt, herror⟩
      · exact Or.inl ⟨left, hok, hplace, hnone⟩
      · exact Or.inr (Or.inr ⟨halt, herror, fun label hsome => absurd hsome (hnone label)⟩)
  | true =>
      have hfollows := execute_follows hjumps machine
      rcases hdestination : instruction.destination machine with cause | _ | label
      · rw [hdestination] at hfollows
        exact Or.inr (Or.inr ⟨_, hfollows, fun _ hsome => nomatch hsome⟩)
      · rw [hdestination] at hfollows
        exact Or.inl ⟨machine, hfollows, .refl machine, fun _ hsome => nomatch hsome⟩
      · rw [hdestination] at hfollows
        cases hlabel : machine.labels.get? label with
        | some index =>
            exact Or.inr (Or.inl ⟨label, index, rfl, hlabel, hfollows.trans (jump_of_some hlabel)⟩)
        | none =>
            refine Or.inr (Or.inr ⟨_, hfollows.trans (jump_of_none hlabel), fun other hother => ?_⟩)
            cases hother
            exact hlabel

/-- An instruction that halts has changed nothing. -/
theorem eq_of_execute_eq_error {instruction : Instruction} {machine left : Machine} {halt : Halt}
    (herror : instruction.execute machine = .error halt left) : left = machine := by
  rcases instruction.execute_cases machine with ⟨_, hok, -⟩ | ⟨_, _, -, -, hok⟩ | ⟨_, hsame, -⟩
  · cases hok.symm.trans herror
  · cases hok.symm.trans herror
  · cases hsame.symm.trans herror
    rfl

end Instruction

end Dalvik
