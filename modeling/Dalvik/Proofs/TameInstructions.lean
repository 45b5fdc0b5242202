import Dalvik.Proofs.Outcomes
import Dalvik.Proofs.PlainValues
import Dalvik.Proofs.Table

/-!
# Instructions on a tame machine

A machine is tame if all that a program can get hold of is tame: its registers, the result of the
last call, and the lists of constant data. On a tame machine every fault of an instruction can be
told, and an instruction that completes leaves a tame machine, as long as constants are plain and
the texts that are evaluated calculate with integers.
-/

namespace Dalvik

open Value Heap

/-- A halt that can be reported. -/
def Halt.isTold : Halt → Bool
  | .fault cause => cause.isTold
  | .fatal _ => true

/-- A value with a property, or a halt that can be reported. -/
abbrev Settles {α : Type} (post : α → Prop) (result : Except Halt α) : Prop :=
  Meets (fun halt => halt.isTold = true) post result

section Combinators

variable {α β : Type} {before : α → Prop} {after : β → Prop}

/-- A part that only looks comes first. -/
theorem Meets.lift_bind {x : Except Fault α} {next : α → Except Halt β} (hx : Sound before x)
    (hnext : ∀ value, before value → Settles after (next value)) :
    Settles after ((liftM x : Except Halt α) >>= next) := by
  cases hx with
  | ok hvalue => exact hnext _ hvalue
  | error htold => exact .error htold

theorem Told.lift_bind {x : Except Fault α} {next : α → Except Halt β} (hx : Told x)
    (hnext : ∀ value, Settles after (next value)) :
    Settles after ((liftM x : Except Halt α) >>= next) :=
  Meets.lift_bind hx fun value _ => hnext value

end Combinators

/-- All that a program can get hold of is tame. -/
structure Machine.Tame (machine : Machine) : Prop where
  registers : ∀ register value, machine.registers.get? register = some value →
    value.Tame machine.heap
  result : machine.result.Tame machine.heap
  arrays : ∀ label data, machine.arrays.get? label = some data →
    (Value.list data.elements).Tame machine.heap

namespace Machine

variable {machine : Machine} (htame : machine.Tame)

include htame

theorem Tame.read (register : String) :
    Sound (fun value => value.Tame machine.heap) (machine.read register) := by
  unfold Machine.read
  split
  · rename_i value hvalue
    exact sound_ok (htame.registers register value hvalue)
  · exact sound_error rfl

theorem Tame.argument (arguments : List String) (position : Nat) :
    Sound (fun value => value.Tame machine.heap) (machine.argument arguments position) := by
  unfold Machine.argument
  split
  · exact htame.read _
  · exact sound_error rfl

/-- A register is bound to what was made from the store of the machine. -/
theorem Tame.writeFrom {made : Value × Heap} (hmade : machine.heap.MadeTame made)
    (target : String) : (machine.writeFrom target made).Tame where
  registers register value hvalue := by
    have hget : (machine.registers.insert target made.1).get? register = some value := hvalue
    rw [Table.get?_insert] at hget
    split at hget
    · cases hget
      exact hmade.tame
    · exact hmade.keeps value (htame.registers register value hget)
  result := hmade.keeps _ htame.result
  arrays label data hdata := hmade.keeps _ (htame.arrays label data hdata)

theorem Tame.write {value : Value} (hvalue : value.Tame machine.heap) (target : String) :
    (machine.write target value).Tame :=
  htame.writeFrom (madeTame_same hvalue) target

theorem Tame.giveFrom {made : Value × Heap} (hmade : machine.heap.MadeTame made) :
    (machine.giveFrom made).Tame where
  registers register value hvalue := hmade.keeps value (htame.registers register value hvalue)
  result := hmade.tame
  arrays label data hdata := hmade.keeps _ (htame.arrays label data hdata)

theorem Tame.give {value : Value} (hvalue : value.Tame machine.heap) :
    (machine.give value).Tame :=
  htame.giveFrom (madeTame_same hvalue)

theorem Tame.leaveWith {value : Value} (hvalue : value.Tame machine.heap) :
    (machine.leaveWith value).Tame :=
  ⟨htame.registers, hvalue, htame.arrays⟩

theorem Tame.jumpTo (label : String) : Settles Machine.Tame (machine.jumpTo label) := by
  unfold Machine.jumpTo
  split
  · exact .ok ⟨htame.registers, htame.result, htame.arrays⟩
  · exact .error rfl

theorem Tame.giveSlice {value : Value} (hvalue : value.Tame machine.heap)
    (arguments : List String) : Settles Machine.Tame (machine.giveSlice value arguments) := by
  refine (htame.argument arguments 0).lift_bind fun x _ => ?_
  refine (toInt_told x).lift_bind fun first => ?_
  refine (htame.argument arguments 1).lift_bind fun y _ => ?_
  refine (toInt_told y).lift_bind fun last => ?_
  exact (slice_tame hvalue first last).lift_bind fun made hmade => .ok (htame.giveFrom hmade)

end Machine

/-! ### Methods -/

theorem Method.parsed_told (value : Value) : Told (Method.parsed value) := by
  unfold Method.parsed
  split
  · exact told_ok _
  · exact toIntInBase_told 16 value

theorem Method.outcome_tame {machine : Machine} (htame : machine.Tame) (method : Method)
    (this : String) (arguments : List String) :
    Settles Machine.Tame (method.outcome machine this arguments) := by
  cases method with
  | create className => exact .error rfl
  | textOfChars =>
      refine (htame.argument arguments 0).lift_bind fun chars _ => ?_
      exact (join_told machine.heap chars).lift_bind fun text =>
        .ok (htame.write (tame_text text) this)
  | charAt =>
      refine (htame.argument arguments 0).lift_bind fun index _ => ?_
      refine (htame.read this).lift_bind fun value hvalue => ?_
      exact (subscript_tame hvalue index).lift_bind fun char hchar => .ok (htame.give hchar)
  | toChars =>
      refine (htame.read this).lift_bind fun value hvalue => ?_
      exact (walk_tame hvalue).lift_bind fun items hitems =>
        .ok (htame.giveFrom (madeTame_newList hitems))
  | intern | builderText =>
      refine (htame.read this).lift_bind fun value _ => ?_
      exact (plain_told machine.heap value).lift_bind fun text => .ok (htame.give (tame_text text))
  | textOfRange =>
      refine (htame.read this).lift_bind fun chars _ => ?_
      exact (join_told machine.heap chars).lift_bind fun text =>
        htame.giveSlice (tame_text text) arguments
  | length =>
      refine (htame.read this).lift_bind fun value _ => ?_
      exact (length_told machine.heap value).lift_bind fun length =>
        .ok (htame.give (tame_int length))
  | substring =>
      exact (htame.read this).lift_bind fun value hvalue => htame.giveSlice hvalue arguments
  | initBuilder => exact .ok htame
  | append =>
      refine (htame.read this).lift_bind fun value hvalue => ?_
      refine (htame.argument arguments 0).lift_bind fun addend haddend => ?_
      refine (addInPlace_tame hvalue haddend).lift_bind fun made hmade => .ok ?_
      exact (htame.writeFrom hmade this).give hmade.tame
  | parseInt =>
      refine (htame.read this).lift_bind fun value _ => ?_
      exact (parsed_told value).lift_bind fun number => .ok (htame.give (tame_int number))
  | parseDecimal =>
      refine (htame.read this).lift_bind fun value _ => ?_
      exact (toInt_told value).lift_bind fun number => .ok (htame.give (tame_int number))

theorem ClassName.ofDescriptor_told (text : String) : Told (ofDescriptor text) := by
  unfold ofDescriptor
  split
  · split
    · exact told_ok _
    · exact sound_error rfl
  · exact sound_error rfl

theorem Instruction.calleeParts_told (callee : String) : Told (calleeParts callee) := by
  unfold calleeParts
  dsimp only
  split
  · exact sound_error rfl
  · split
    · exact told_ok _
    · exact sound_error rfl

theorem Machine.method?_settles (machine : Machine) (className signature : String) :
    Settles (fun _ => True) (machine.method? className signature) := by
  unfold method?
  split
  · exact .error rfl
  · split
    · exact .error rfl
    · exact .ok trivial

theorem Machine.callee_settles (machine : Machine) (callee : String) :
    Settles (fun _ => True) (machine.callee callee) := by
  refine (Instruction.calleeParts_told callee).lift_bind fun parts => ?_
  refine (ClassName.ofDescriptor_told parts.1).lift_bind fun className => ?_
  exact machine.method?_settles className parts.2

theorem Machine.newInstance_tame (machine : Machine) (descriptor : String) :
    Settles (fun value => value.Tame machine.heap) (machine.newInstance descriptor) := by
  refine (ClassName.ofDescriptor_told descriptor).lift_bind fun className => ?_
  exact (machine.method?_settles className _).bind fun _ _ => .ok (tame_text "")

/-! ### Instructions -/

namespace Instruction

/-- The literal of a constant is plain, if it is an expression at all. -/
def isPlain : Instruction → Bool
  | .const _ literal => (Expr.ofString literal).all Expr.isPlain
  | _ => true

/-- What an instruction evaluates calculates with integers, if it is an expression at all. -/
def evaluatesIntegers (machine : Machine) (instruction : Instruction) : Bool :=
  (instruction.evaluated? machine).all fun text => (Expr.ofString text).all Expr.isIntegral

variable {machine : Machine} (htame : machine.Tame)

include htame

theorem written_tame {target source literal symbol : String}
    (hintegral : (writtenText machine source literal symbol).toOption.all
      (fun text => (Expr.ofString text).all Expr.isIntegral) = true) :
    Sound machine.heap.MadeTame (written machine target source literal symbol) := by
  have htold : Told (writtenText machine source literal symbol) :=
    (htame.read source).bind fun value _ => (plain_told machine.heap value).bind fun _ => told_ok _
  refine htold.eq.bind fun text hwritten => ?_
  rw [hwritten] at hintegral
  exact Expr.evaluate_tame _ machine.heap _ hintegral

omit htame in
theorem numberOrCode_tame (heap : Heap) (value : Value) :
    Sound (fun number => number.Tame heap) (numberOrCode value) := by
  unfold numberOrCode
  split
  · exact sound_ok (tame_int _)
  · exact (codePoint_told value).map fun n => tame_int n

/-- A literal may be of any kind; nothing of it is taken over. -/
theorem literalResult_tame {operation : LiteralArithmetic} {target source literal : String}
    (hintegral : evaluatesIntegers machine (.literalArithmetic operation target source literal) =
      true) :
    Sound machine.heap.MadeTame (literalResult machine operation target source literal) := by
  have hliteral := Expr.readLiteral_keepsTame machine.heap literal
  have hresult : ∀ {left : Value} {operator : Operator} {made : Value × Heap},
      left.Tame machine.heap → machine.heap.KeepsTame made.2 → operator ≠ .add →
      operator ≠ .mul → Sound machine.heap.MadeTame (left.operate made.2 operator made.1) :=
    fun hleft hkeeps hadd hmul => (operate_tame_of_left (hkeeps _ hleft) hadd hmul).mono
      fun _ hlast => hlast.after hkeeps
  cases operation with
  | add | mul => exact written_tame htame hintegral
  | div | shl =>
      exact (htame.read source).bind fun left hleft => hliteral.bind fun made hkeeps =>
        hresult hleft hkeeps nofun nofun
  | rem | and =>
      exact (htame.read source).bind fun value _ => (toInt_told value).bind fun n =>
        hliteral.bind fun made hkeeps => hresult (tame_int n) hkeeps nofun nofun
  | xor =>
      exact (htame.read source).bind fun value _ =>
        (numberOrCode_tame _ value).bind fun left hleft =>
          hliteral.bind fun made hkeeps => hresult hleft hkeeps nofun nofun

omit htame in
/-- The case of a switch is found by a difference and two comparisons. -/
theorem caseOf_told {heap : Heap} {value : Value} (hvalue : value.Tame heap)
    (switch? : Option Switch) : Told (caseOf heap switch? value) := by
  unfold caseOf
  dsimp only
  have hindex : Sound heap.MadeTame
      (value.operate heap .sub ((switch?.map (·.first)).getD .null)) :=
    operate_tame_of_left hvalue nofun nofun
  refine hindex.bind fun made _ => ?_
  refine (compare_told made.2 _ made.1 _).bind fun beyond => Meets.ite (told_ok _) ?_
  refine (compare_told made.2 _ made.1 _).bind fun below => Meets.ite (told_ok _) ?_
  exact (itemAt_told _ _ _).bind fun _ => told_ok _

theorem narrowOutcome_tame (kind target source : String) :
    Settles Machine.Tame (narrowOutcome machine kind target source) := by
  have hchar : ∀ value, Sound (fun char => char.Tame machine.heap) (lowChar value) := by
    intro value
    unfold lowChar
    split
    · exact sound_ok (tame_text _)
    · exact sound_error rfl
  have hbyte : ∀ value, Sound (fun byte => byte.Tame machine.heap) (byteOf value) := by
    intro value
    unfold byteOf
    split
    · exact sound_ok (tame_int _)
    · exact sound_error rfl
  unfold narrowOutcome
  split
  · refine (htame.read source).lift_bind fun value _ => ?_
    exact (hchar value).lift_bind fun char htext => .ok (htame.write htext target)
  · refine (htame.read source).lift_bind fun value _ => ?_
    exact (hbyte value).lift_bind fun byte hint => .ok (htame.write hint target)
  · exact .error rfl

theorem leaveOutcome_tame (kind source : Option String) :
    Settles Machine.Tame (leaveOutcome machine kind source) := by
  have hnull : Value.null.Tame machine.heap := tame_of_within fun _ => trivial
  unfold leaveOutcome
  split
  · exact .ok (htame.leaveWith hnull)
  · exact .ok (htame.leaveWith hnull)
  · exact (htame.read _).lift_bind fun value hvalue => .ok (htame.leaveWith hvalue)
  · exact (htame.read _).lift_bind fun value hvalue => .ok (htame.leaveWith hvalue)
  · exact (htame.read _).lift_bind fun value hvalue => .ok (htame.leaveWith hvalue)
  · exact .error rfl
  · exact .error rfl
  · exact .error rfl

/-- An instruction leaves a tame machine tame, or halts with something that can be reported. -/
theorem outcome_tame (instruction : Instruction) (hplain : instruction.isPlain = true)
    (hintegral : instruction.evaluatesIntegers machine = true) :
    Settles Machine.Tame (instruction.outcome machine) := by
  cases instruction with
  | const target literal =>
      exact (Expr.readLiteral_tame machine.heap literal hplain).lift_bind fun made hmade =>
        .ok (htame.writeFrom hmade target)
  | constString => exact .error rfl
  | move target source | staticGet target source | staticPut source target =>
      exact (htame.read source).lift_bind fun value hvalue => .ok (htame.write hvalue target)
  | moveResult target => exact .ok (htame.write htame.result target)
  | moveException target =>
      simp only [outcome]
      split
      · rename_i thrown _
        have hdropped : machine.dropPending.Tame :=
          ⟨htame.registers, htame.result, htame.arrays⟩
        have hraised : (Value.raised thrown.cause thrown.serial).Tame machine.dropPending.heap :=
          tame_of_within fun _ => trivial
        exact .ok (hdropped.write hraised target)
      · exact .error rfl
  | branch test left right label =>
      refine (htame.read left).lift_bind fun x _ => ?_
      refine (htame.read right).lift_bind fun y _ => ?_
      refine (compare_told machine.heap test x y).lift_bind fun taken => ?_
      exact Meets.ite (htame.jumpTo label) (.ok htame)
  | branchZero test source label =>
      refine (htame.read source).lift_bind fun x _ => ?_
      refine (compare_told machine.heap test x (.int 0)).lift_bind fun taken => ?_
      exact Meets.ite (htame.jumpTo label) (.ok htame)
  | goto label => exact htame.jumpTo label
  | packedSwitch source table =>
      refine (htame.read source).lift_bind fun value hvalue => ?_
      refine (caseOf_told hvalue _).lift_bind fun label? => ?_
      cases label? with
      | some label => exact htame.jumpTo label
      | none => exact .ok htame
  | arrayLength target array =>
      refine (htame.read array).lift_bind fun value _ => ?_
      exact (length_told machine.heap value).lift_bind fun length =>
        .ok (htame.write (tame_int length) target)
  | fillArray target label =>
      simp only [outcome]
      split
      · rename_i data hdata
        exact .ok (htame.write (htame.arrays label data hdata) target)
      · exact .error rfl
  | newArray target size className =>
      refine (htame.read size).lift_bind fun count hcount => ?_
      have hone : machine.heap.MadeTame (machine.heap.newList [.text ""]) :=
        madeTame_newList fun item hitem => List.mem_singleton.mp hitem ▸ tame_text ""
      have hmany := operate_tame hone.tame (hone.keeps _ hcount) .mul
      exact hmany.lift_bind fun made hmade => .ok (htame.writeFrom (hmade.after hone.keeps) target)
  | arrayGet target array index =>
      refine (htame.read array).lift_bind fun sequence hsequence => ?_
      refine (htame.read index).lift_bind fun place _ => ?_
      exact (subscript_tame hsequence place).lift_bind fun item hitem =>
        .ok (htame.write hitem target)
  | arrayPut source array index =>
      refine (htame.read index).lift_bind fun position _ => ?_
      refine (toInt_told position).lift_bind fun place => ?_
      refine (htame.read array).lift_bind fun sequence hsequence => ?_
      refine (htame.read source).lift_bind fun item hitem => ?_
      refine (storeItem_tame hsequence hitem place).lift_bind fun later hkeeps => .ok ?_
      exact htame.writeFrom ⟨hkeeps, hkeeps _ hsequence⟩ array
  | arithmetic operation target left right =>
      refine (htame.read left).lift_bind fun x hx => ?_
      refine (htame.read right).lift_bind fun y hy => ?_
      have hmade : Sound machine.heap.MadeTame (operation.apply machine.heap x y) := by
        unfold Arithmetic.apply
        cases operation <;> exact operate_tame hx hy _
      exact hmade.lift_bind fun made hlast => .ok (htame.writeFrom hlast target)
  | literalArithmetic operation target source literal =>
      exact (literalResult_tame htame hintegral).lift_bind fun made hmade =>
        .ok (htame.writeFrom hmade target)
  | xorInto target source =>
      refine (htame.read source).lift_bind fun y _ => ?_
      refine (htame.read target).lift_bind fun x hx => ?_
      refine (numberOrCode_tame machine.heap y).lift_bind fun number _ => ?_
      have hmade : Sound machine.heap.MadeTame (x.xorInPlace machine.heap number) :=
        bitwise_tame hx
      exact hmade.lift_bind fun made hlast => .ok (htame.writeFrom hlast target)
  | convert kind target source => exact narrowOutcome_tame htame kind target source
  | newInstance target className =>
      exact (machine.newInstance_tame className).bind fun object hobject =>
        .ok (htame.write hobject target)
  | invoke registers callee =>
      exact (machine.callee_settles callee).bind fun method _ =>
        method.outcome_tame htame (registers.headD "") registers.tail
  | exit kind source => exact leaveOutcome_tame htame kind source

end Instruction

end Dalvik
