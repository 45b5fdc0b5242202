import Dalvik.Proofs.TextOperands
import Dalvik.Proofs.WrittenCharacters

/-!
# Characters as operands of integers

A character in a register counts as its code point only where it is the source of an exclusive
disjunction. Other instructions refuse it, repeat it, take the value of a digit, or write it down as
a part of an expression: none of these is the code point.
-/

namespace Dalvik

/-! ### Code points and digits -/

namespace Text

/-- The white space by its code points. -/
def blankCodes : List Nat :=
  [9, 10, 11, 12, 13, 28, 29, 30, 31, 32, 0x85, 0xa0, 0x1680, 0x2000, 0x2001, 0x2002, 0x2003,
    0x2004, 0x2005, 0x2006, 0x2007, 0x2008, 0x2009, 0x200a, 0x2028, 0x2029, 0x202f, 0x205f, 0x3000]

theorem mem_blankCodes {c : Char} (hc : isBlank c = true) : c.toNat ∈ blankCodes := by
  simp only [isBlank, Bool.or_eq_true, Bool.and_eq_true, decide_eq_true_eq, beq_iff_eq] at hc
  simp only [blankCodes, List.mem_cons, List.not_mem_nil, or_false]
  omega

theorem numeralDigit_of_isBlank {c : Char} (hc : isBlank c = true) :
    Number.numeralDigit 10 c = none := by
  have hall : ∀ code ∈ blankCodes, Number.numeralDigit 10 (Char.ofNat code) = none := by
    decide +kernel
  have hnone := hall c.toNat (mem_blankCodes hc)
  rwa [Char.ofNat_toNat] at hnone

end Text

/-- A single character is a numeral just where it is a digit, of any script. -/
theorem Number.readNumeral_singleton (c : Char) :
    readNumeral 10 [c] =
      match numeralDigit 10 c with
      | some value => .ok value
      | none => .error .invalid := by
  cases hblank : Text.isNumeralBlank c with
  | true =>
      have hdigit : numeralDigit 10 c = none := by
        rw [Text.isNumeralBlank, Bool.and_eq_true] at hblank
        exact Text.numeralDigit_of_isBlank hblank.1
      have htrim : Text.trimBoth Text.isNumeralBlank [c] = [] := by
        simp [Text.trimBoth, hblank]
      rw [readNumeral, htrim, hdigit]
      rfl
  | false =>
      have htrim : Text.trimBoth Text.isNumeralBlank [c] = [c] := by
        simp [Text.trimBoth, hblank]
      -- A sign or an underscore alone is no numeral, and no digit either.
      by_cases hmark : c = '-' ∨ c = '+' ∨ c = '_'
      · rw [readNumeral, htrim]
        rcases hmark with rfl | rfl | rfl <;> rfl
      · simp only [not_or] at hmark
        obtain ⟨hminus, hplus, hunderscore⟩ := hmark
        have hsign : takeSign [c] = (false, [c]) := by
          simp [takeSign, hminus, hplus]
        have hhead : ¬[c].head? = some '_' := fun h => hunderscore (Option.some.inj h)
        rw [readNumeral, htrim, hsign]
        simp only [dropBaseMark, if_neg hhead]
        cases hdigit : numeralDigit 10 c with
        | none => simp [digitRun, hdigit]
        | some value => simp [digitRun, hdigit, ofDigits, maxDigits]

namespace Value

theorem toInt_ofChar (c : Char) :
    (ofChar c).toInt =
      match Number.numeralDigit 10 c with
      | some value => .ok value
      | none => .error (.badNumeral 10 (Text.quote (String.ofList [c]))) := by
  rw [ofChar, toInt, readNumeral, String.toList_ofList, Number.readNumeral_singleton]
  cases Number.numeralDigit 10 c <;> rfl

theorem numberOrCode_ofChar (c : Char) :
    Instruction.numberOrCode (ofChar c) = .ok (.int (Text.codeOf c)) := by
  change (codePoint (.text (String.ofList [c]))).map Value.int = _
  rw [codePoint, String.toList_ofList]
  rfl

/-- One character has no room for a conversion of the number. -/
theorem format_singleton (heap : Heap) (c : Char) (y : Int) :
    ∃ cause, format heap [c] (.int y) .text = .error cause := by
  by_cases hpercent : c = '%'
  · subst hpercent
    exact ⟨.formatIncomplete, rfl⟩
  · refine ⟨.unusedArguments .text, ?_⟩
    have hfill : fill heap .text (.int y) 1 2 (.single (.int y)) [c] =
        .ok ([c], .single (.int y)) := by
      rw [fill]
      · rfl
      · intro rest hc
        exact absurd hc hpercent
      · exact hpercent
    change (fill heap .text (.int y) 1 2 (.single (.int y)) [c] >>= _) = _
    rw [hfill]
    rfl

/-- A repeated text is a text, if it is not too long. -/
theorem repeatSequence_text (heap : Heap) (s : String) (y : Int) :
    (∃ cause, (Value.text s).repeatSequence heap y = .error cause) ∨
      ∃ repeated, (Value.text s).repeatSequence heap y = .ok (.text repeated, heap) := by
  cases hfits : fitsIndex y with
  | false =>
      left
      refine ⟨.repeatTooWide, ?_⟩
      unfold repeatSequence
      rw [hfits]
      rfl
  | true =>
      have hrepeat : (Value.text s).repeatSequence heap y =
          if s.length * y.toNat > maxLength then
            if ((s.length * y.toNat : Nat) : Int) > maxIndex then .error (.repeatTooLong .text)
            else .error .outOfMemory
          else .ok (.text (String.ofList (repeatItems s.toList
            (if s.length * y.toNat = 0 then 0 else y.toNat))), heap) := by
        unfold repeatSequence
        rw [hfits]
        rfl
      rw [hrepeat]
      split
      · left
        split
        · exact ⟨_, rfl⟩
        · exact ⟨_, rfl⟩
      · exact .inr ⟨_, rfl⟩

end Value

namespace Arithmetic

/-- The operations that a character is refused by. -/
def refusing : List Arithmetic :=
  [.add, .sub, .rem, .and, .or]

variable {operation : Arithmetic} (heap : Heap) (c : Char) (y : Int)

theorem apply_ofChar_left (hoperation : operation ∈ refusing) :
    ∃ cause, operation.apply heap (Value.ofChar c) (.int y) = .error cause := by
  simp only [refusing, List.mem_cons, List.not_mem_nil, or_false] at hoperation
  rcases hoperation with rfl | rfl | rfl | rfl | rfl
  · exact ⟨_, rfl⟩
  · exact ⟨_, rfl⟩
  · obtain ⟨cause, hformat⟩ := Value.format_singleton heap c y
    refine ⟨cause, ?_⟩
    change (Value.format heap (String.ofList [c]).toList (.int y) .text >>= _) = _
    rw [String.toList_ofList, hformat]
    rfl
  · exact ⟨_, rfl⟩
  · exact ⟨_, rfl⟩

theorem apply_ofChar_right (hoperation : operation ∈ refusing) :
    ∃ cause, operation.apply heap (.int y) (Value.ofChar c) = .error cause := by
  simp only [refusing, List.mem_cons, List.not_mem_nil, or_false] at hoperation
  rcases hoperation with rfl | rfl | rfl | rfl | rfl <;> exact ⟨_, rfl⟩

end Arithmetic

namespace Expr

variable {c : Char} {t : Int} {joint : Joint}

/-- Sums never take a character for its code point, and products only in that zero times anything is
zero. -/
theorem characterValue_ne (hjoint : joint = .product → t ≠ 0) {value : Int}
    (hvalue : characterValue c t joint = some value) :
    value ≠ joint.value (Text.codeOf c) t := by
  have hdigit : Text.isAsciiDigit c = true → (Text.codeOf c : Int) = digit c + 48 :=
    @of_isAsciiDigit (fun d => (Text.codeOf d : Int) = digit d + 48) _ (by decide) c
  cases joint with
  | sum =>
      simp only [characterValue] at hvalue
      split at hvalue
      · rename_i hc
        rw [← Option.some.inj hvalue, Joint.value, hdigit hc]
        omega
      split at hvalue
      · rename_i hc
        rw [← Option.some.inj hvalue, Joint.value]
        have hall : ∀ d, d = ' ' ∨ d = '\t' ∨ d = '+' → Text.codeOf d ≠ 0 := by
          rintro d (rfl | rfl | rfl) <;> decide
        have hcode := hall c hc
        omega
      split at hvalue
      · rename_i hc
        subst hc
        rw [← Option.some.inj hvalue, Joint.value]
        have hcode : Text.codeOf '-' = 45 := by decide
        omega
      split at hvalue
      · rename_i hc
        subst hc
        rw [← Option.some.inj hvalue, Joint.value]
        have hcode : Text.codeOf '~' = 126 := by decide
        omega
      · cases hvalue
  | product =>
      simp only [characterValue] at hvalue
      split at hvalue
      · rename_i hc
        have ht := hjoint rfl
        rw [← Option.some.inj hvalue, Joint.value, hdigit hc, Int.add_mul]
        omega
      · cases hvalue

/-- The result of a sum or a product and its right operand tell the left one. -/
theorem value_left_inj {m n : Nat} (hjoint : joint = .product → t ≠ 0)
    (hvalue : joint.value m t = joint.value n t) : m = n := by
  cases joint with
  | sum =>
      simp only [Joint.value] at hvalue
      omega
  | product =>
      have hcast := Int.eq_of_mul_eq_mul_right (hjoint rfl) hvalue
      omega

theorem isName_singleton (hc : Text.isNameStart c = true) : isName (String.singleton c) = true := by
  rw [isName_eq_true_iff]
  refine ⟨c, [], String.toList_singleton c, hc, List.forall_mem_nil _, ?_⟩
  intro hkeyword
  have hlong : ∀ word ∈ keywords, word.toList.length ≠ 1 := by decide
  exact hlong _ hkeyword (by rw [String.toList_singleton]; rfl)

theorem codeOf_ne_one (hc : Text.isNameStart c = true) : Text.codeOf c ≠ 1 := by
  have hstart : ¬c.toNat = 1 := by
    intro hone
    rw [← Char.ofNat_toNat c, hone] at hc
    exact absurd hc (by decide)
  unfold Text.codeOf
  split
  · rename_i hsurrogate
    simp only [Text.isSurrogate, Bool.and_eq_true, decide_eq_true_eq] at hsurrogate
    omega
  · exact hstart

end Expr

namespace Instruction

variable {machine : Machine} {target source literal : String}

theorem literalResult_xor {value : Value} {code : Int}
    (hsource : machine.read source = .ok value) (hcode : numberOrCode value = .ok (.int code)) :
    literalResult machine .xor target source literal =
      machine.literal literal >>= fun made => (Value.int code).operate made.2 .xor made.1 := by
  simp only [literalResult, hsource]
  change (numberOrCode value >>= _) = _
  rw [hcode]
  rfl

/-- The operation with a literal that a digit takes part in with its value. -/
def digitOperation : LiteralArithmetic → Option IntOperation
  | .rem => some .rem
  | .and => some .and
  | _ => none

/-- What a digit gives, and what every other character. -/
def digitResult (heap : Heap) (onInts : IntOperation) (c : Char) (t : Int) :
    Except Fault (Value × Heap) :=
  match Number.numeralDigit 10 c with
  | some value => (onInts.result value t).map fun result => (.int result, heap)
  | none => .error (.badNumeral 10 (Text.quote (String.ofList [c])))

theorem literalResult_digit {operation : LiteralArithmetic} {onInts : IntOperation} {c : Char}
    {t : Int} (honInts : digitOperation operation = some onInts)
    (hsource : machine.read source = .ok (Value.ofChar c))
    (hliteral : Expr.integer? literal = some t) :
    literalResult machine operation target source literal =
      digitResult machine.heap onInts c t := by
  have hread : machine.literal literal = .ok (.int t, machine.heap) :=
    Expr.readLiteral_integer machine.heap hliteral
  have htoInt := Value.toInt_ofChar c
  have hresult : literalResult machine operation target source literal =
      (Value.ofChar c).toInt >>= fun left =>
        (Value.int left).operate machine.heap onInts.operator (.int t) := by
    -- what the character is does not matter here
    generalize Value.ofChar c = value at hsource
    cases operation <;> cases honInts
    · simp only [literalResult, hsource, hread]
      rfl
    · simp only [literalResult, hsource, hread]
      rfl
  have hbounded : onInts.Bounded t := by
    rintro rfl
    cases operation <;> cases honInts
  rw [hresult, htoInt, digitResult]
  cases Number.numeralDigit 10 c with
  | none => rfl
  | some value => exact Value.operate_int machine.heap onInts hbounded

/-- The names of operands stand for texts, one other name for a truth value, and two more for texts
that are not known. -/
theorem writtenScope_operand {name : String} (hname : name ∈ operandNames) :
    (∃ s, (writtenScope target source literal).get? name = some (.text s)) ∨
      (writtenScope target source literal).get? name = some (.bool true) ∨
      ∃ found, (writtenScope target source literal).get? name = some found ∧ IsInert found := by
  simp only [operandNames, List.mem_cons, List.not_mem_nil, or_false] at hname
  rcases hname with rfl | rfl | rfl | rfl | rfl | rfl | rfl | rfl
  · exact .inl ⟨_, rfl⟩
  · exact .inl ⟨_, rfl⟩
  · exact .inl ⟨_, rfl⟩
  · exact .inr (.inl rfl)
  · exact .inl ⟨_, rfl⟩
  · exact .inl ⟨_, rfl⟩
  · exact .inr (.inr ⟨_, rfl, .outside _ _⟩)
  · exact .inr (.inr ⟨_, rfl, .outside _ _⟩)

/-- A text is refused by sums and repeated by products. -/
theorem operate_text {joint : Expr.Joint} {heap : Heap} {s : String} {t : Int}
    {made : Value × Heap}
    (hmade : (Value.text s).operate heap joint.operator (.int t) = .ok made) :
    ∃ repeated, made.1 = .text repeated := by
  cases joint with
  | sum => cases hmade
  | product =>
      change (Value.text s).repeatSequence heap t = .ok made at hmade
      rcases Value.repeatSequence_text heap s t with ⟨cause, herror⟩ | ⟨repeated, hok⟩
      · rw [herror] at hmade
        cases hmade
      · rw [hok] at hmade
        cases hmade
        exact ⟨repeated, rfl⟩

theorem operate_true (joint : Expr.Joint) (heap : Heap) (t : Int) :
    (Value.bool true).operate heap joint.operator (.int t) =
      .ok (.int (joint.value 1 t), heap) := by
  cases joint <;> rfl

/-- No letter counts as its code point either, whatever it may name. -/
theorem evaluate_letter_ne {heap : Heap} {joint : Expr.Joint} {c : Char} {t : Int}
    {made : Value × Heap} (hc : Text.isNameStart c = true)
    (hliteral : Expr.integer? literal = some t) (hjoint : joint = .product → t ≠ 0)
    (hmade : Expr.evaluate (writtenScope target source literal) heap
      (String.singleton c ++ " " ++ joint.symbol ++ " " ++ literal) = .ok made) :
    made.1 ≠ .int (joint.value (Text.codeOf c) t) := by
  rw [Expr.evaluate_name joint _ heap (Expr.isName_singleton hc) hliteral] at hmade
  cases hfound : (writtenScope target source literal).get?
      (Expr.nameOf (String.singleton c)) with
  | none =>
      rw [hfound] at hmade
      cases hmade
  | some found =>
      rw [hfound] at hmade
      change found.operate heap joint.operator (.int t) = .ok made at hmade
      have hinert : ¬ IsInert found := by
        intro hinert
        obtain ⟨cause, hrefused⟩ := operate_refused joint heap t hinert
        exact absurd (hrefused.symm.trans hmade) (by simp)
      by_cases hname : Expr.nameOf (String.singleton c) ∈ operandNames
      · rcases writtenScope_operand hname with ⟨s, htext⟩ | htrue | ⟨other, hother, hunknown⟩
        · cases htext.symm.trans hfound
          obtain ⟨repeated, hrepeated⟩ := operate_text hmade
          rw [hrepeated]
          intro hint
          cases hint
        · cases htrue.symm.trans hfound
          rw [operate_true] at hmade
          cases hmade
          intro hint
          exact Expr.codeOf_ne_one hc (Expr.value_left_inj hjoint (Value.int.inj hint)).symm
        · cases hother.symm.trans hfound
          exact absurd hunknown hinert
      · exact absurd (writtenScope_get? hname hfound) hinert

end Instruction

/-! ### What characters give -/

namespace Emulator

open Instruction

/-- The state in which a register holds another value. -/
def holding (emulator : Emulator) (register : String) (value : Value) : Emulator :=
  { emulator with machine := emulator.machine.write register value }

/-- The line gives what it gives where the source holds the code point of the character. -/
def CountsAsCode (emulator : Emulator) (line target source : String) (c : Char) : Prop :=
  ∃ result, emulator.Gives line target result ∧
    (emulator.holding source (.int (Text.codeOf c))).Gives line target result

section Operands

variable {emulator : Emulator} {target source other literal : Token} {c : Char} {y t : Int}
variable (gaps : Nat → Gap) (width : LiteralWidth)

theorem get?_holding (emulator : Emulator) (register : String) (value : Value) :
    (emulator.holding register value).machine.registers.get? register = some value :=
  Table.get?_insert_self ..

section Source

variable (hsource : emulator.machine.registers.get? source.text = some (Value.ofChar c))

include hsource

theorem countsAsCode_xorInto (twoAddresses : Bool) {left : Value}
    (htarget : emulator.machine.registers.get? target.text = some left)
    (hne : target.text ≠ source.text) :
    emulator.CountsAsCode ((Statement.xorInto twoAddresses target source).print gaps) target.text
      source.text c := by
  have hkept : (emulator.holding source.text (.int (Text.codeOf c))).machine.registers.get?
      target.text = some left := by
    rw [← htarget]
    exact Table.get?_insert_of_ne _ _ hne
  have hcharacter := @gives_xorInto emulator gaps target source left _ twoAddresses htarget hsource
  rw [Value.numberOrCode_ofChar] at hcharacter
  exact ⟨_, hcharacter, gives_xorInto gaps twoAddresses hkept (get?_holding ..)⟩

theorem countsAsCode_xorLiteral :
    emulator.CountsAsCode
      ((Statement.literalArithmetic .xor width target source literal).print gaps) target.text
      source.text c := by
  have hcharacter := @gives_literalArithmetic emulator gaps target source literal .xor width
  have hcode := @gives_literalArithmetic (emulator.holding source.text (.int (Text.codeOf c))) gaps
    target source literal .xor width
  rw [Instruction.literalResult_xor (Machine.read_eq_ok.mpr hsource)
    (Value.numberOrCode_ofChar c)] at hcharacter
  rw [Instruction.literalResult_xor (Machine.read_eq_ok.mpr (get?_holding ..)) rfl] at hcode
  exact ⟨_, hcharacter, hcode⟩

theorem throws_arithmetic {operation : Arithmetic} (hoperation : operation ∈ Arithmetic.refusing)
    (hother : emulator.machine.registers.get? other.text = some (.int y)) :
    emulator.Throws ((Statement.arithmetic operation target source other).print gaps) target.text ∧
      emulator.Throws ((Statement.arithmetic operation target other source).print gaps)
        target.text := by
  obtain ⟨left, hleft⟩ := Arithmetic.apply_ofChar_left emulator.machine.heap c y hoperation
  obtain ⟨right, hright⟩ := Arithmetic.apply_ofChar_right emulator.machine.heap c y hoperation
  exact ⟨⟨left, hleft ▸ gives_arithmetic gaps hsource hother⟩,
    right, hright ▸ gives_arithmetic gaps hother hsource⟩

/-- A character that is the target stays a text, whatever the source counts as. -/
theorem throws_xorInto (twoAddresses : Bool) {right : Value} {code : Int}
    (hother : emulator.machine.registers.get? other.text = some right)
    (hcode : Instruction.numberOrCode right = .ok (.int code)) :
    emulator.Throws ((Statement.xorInto twoAddresses source other).print gaps) source.text := by
  have hgives := @gives_xorInto emulator gaps source other _ right twoAddresses hsource hother
  rw [hcode] at hgives
  exact ⟨_, hgives⟩

theorem throws_shiftLiteral (hliteral : Expr.integer? literal.text = some t) :
    emulator.Throws ((Statement.literalArithmetic .shl width target source literal).print gaps)
      target.text := by
  have hread : emulator.machine.literal literal.text = .ok (.int t, emulator.machine.heap) :=
    Expr.readLiteral_integer emulator.machine.heap hliteral
  have hresult : Instruction.literalResult emulator.machine .shl target.text source.text
      literal.text = .error (.unsupportedOperands "<<" .text .int) := by
    simp only [Instruction.literalResult, Machine.read_eq_ok.mpr hsource, hread]
    rfl
  exact ⟨_, hresult ▸ gives_literalArithmetic gaps .shl width⟩

theorem gives_character (joint : Expr.Joint) (hliteral : Expr.integer? literal.text = some t)
    (hc : Text.isNameStart c = false) :
    emulator.Gives
      ((Statement.literalArithmetic (ofJoint joint) width target source literal).print gaps)
      target.text
      (Expr.characterResult emulator.machine.heap c t joint) := by
  have hgives := @gives_written emulator target source literal _ gaps width joint hsource
  rw [← Expr.evaluate_character joint _ emulator.machine.heap hc hliteral]
  exact hgives

/-- Sums and products with a literal never take a character for its code point. -/
theorem gives_joint_ne (joint : Expr.Joint) (hliteral : Expr.integer? literal.text = some t)
    (hjoint : joint = .product → t ≠ 0) {made : Value × Heap}
    (hmade : emulator.Gives
      ((Statement.literalArithmetic (ofJoint joint) width target source literal).print gaps)
      target.text (.ok made)) :
    made.1 ≠ .int (joint.value (Text.codeOf c) t) := by
  cases hc : Text.isNameStart c with
  | true =>
      obtain ⟨given, hgiven, hvalue⟩ := (gives_written gaps width joint hsource).value_eq hmade
      rw [← hvalue]
      exact evaluate_letter_ne hc hliteral hjoint hgiven
  | false =>
      obtain ⟨given, hgiven, hvalue⟩ :=
        (gives_character gaps width hsource joint hliteral hc).value_eq hmade
      rw [Expr.characterResult] at hgiven
      cases hresult : Expr.characterValue c t joint with
      | none =>
          rw [hresult] at hgiven
          cases hgiven
      | some result =>
          rw [hresult] at hgiven
          cases hgiven
          rw [← hvalue]
          intro hint
          exact Expr.characterValue_ne hjoint hresult (Value.int.inj hint)

end Source

end Operands

/-- A character counts as its code point where it is the source of an exclusive disjunction, and
nowhere else. As the target of one it is refused. Other operations on two registers refuse it in
either place, but a product repeats it. A shift by a literal refuses it, and a remainder or a
conjunction with a literal takes the value of a digit. A sum or a product with a literal puts it in
front of the operator and evaluates that, which is never the sum with the code point, and never the
product unless the literal is zero. -/
theorem character_counts_as_code_as_xor_source (emulator : Emulator) (gaps : Nat → Gap)
    (width : LiteralWidth) (target source other literal : Token) (c : Char) (y t : Int)
    (hsource : emulator.machine.registers.get? source.text = some (Value.ofChar c))
    (hother : emulator.machine.registers.get? other.text = some (.int y))
    (hliteral : Expr.integer? literal.text = some t) :
    let pair := fun operation x y => (Statement.arithmetic operation target x y).print gaps
    let xorInto := fun twoAddresses x y => (Statement.xorInto twoAddresses x y).print gaps
    let withLiteral := fun operation =>
      (Statement.literalArithmetic operation width target source literal).print gaps
    (∀ twoAddresses left, emulator.machine.registers.get? target.text = some left →
        target.text ≠ source.text →
          emulator.CountsAsCode (xorInto twoAddresses target source) target.text source.text c) ∧
      emulator.CountsAsCode (withLiteral .xor) target.text source.text c ∧
      (∀ twoAddresses, emulator.Throws (xorInto twoAddresses source other) source.text ∧
        emulator.Throws (xorInto twoAddresses source source) source.text) ∧
      (∀ operation ∈ Arithmetic.refusing,
        emulator.Throws (pair operation source other) target.text ∧
          emulator.Throws (pair operation other source) target.text) ∧
      emulator.Gives (pair .mul source other) target.text
        ((Value.ofChar c).repeatSequence emulator.machine.heap y) ∧
      emulator.Gives (pair .mul other source) target.text
        ((Value.ofChar c).repeatSequence emulator.machine.heap y) ∧
      emulator.Throws (withLiteral .shl) target.text ∧
      (∀ operation onInts, digitOperation operation = some onInts →
        emulator.Gives (withLiteral operation) target.text
          (digitResult emulator.machine.heap onInts c t)) ∧
      ∀ joint,
        (Text.isNameStart c = false →
          emulator.Gives (withLiteral (ofJoint joint)) target.text
            (Expr.characterResult emulator.machine.heap c t joint)) ∧
        (Text.isNameStart c = true → Expr.nameOf (String.singleton c) ∉ operandNames →
          emulator.Throws (withLiteral (ofJoint joint)) target.text) ∧
        ((joint = .product → t ≠ 0) → ∀ made,
          emulator.Gives (withLiteral (ofJoint joint)) target.text (.ok made) →
            made.1 ≠ .int (joint.value (Text.codeOf c) t)) := by
  intro pair xorInto withLiteral
  refine ⟨fun twoAddresses left htarget hne =>
      countsAsCode_xorInto gaps hsource twoAddresses htarget hne,
    countsAsCode_xorLiteral gaps width hsource,
    fun twoAddresses => ⟨throws_xorInto gaps hsource twoAddresses hother rfl,
      throws_xorInto gaps hsource twoAddresses hsource (Value.numberOrCode_ofChar c)⟩,
    fun operation hoperation => throws_arithmetic gaps hsource hoperation hother,
    gives_arithmetic gaps hsource hother, gives_arithmetic gaps hother hsource,
    throws_shiftLiteral gaps width hsource hliteral, fun operation onInts honInts => ?_,
    fun joint => ⟨gives_character gaps width hsource joint hliteral, fun hc hfree => ?_,
      fun hjoint made => gives_joint_ne gaps width hsource joint hliteral hjoint⟩⟩
  · rw [← literalResult_digit honInts (Machine.read_eq_ok.mpr hsource) hliteral]
    exact gives_literalArithmetic gaps operation width
  · exact throws_word gaps width joint hsource hliteral (Expr.isName_singleton hc) hfree

/-- A register holds a letter, and another one a number. -/
def holdingLetter : Emulator where
  machine := { registers := [("v1", Value.ofChar 'a'), ("v2", .int 1)] }

theorem character_counts_as_code_as_xor_source_holdingLetter :
    holdingLetter.machine.registers.get? "v1" = some (Value.ofChar 'a') ∧
      holdingLetter.machine.registers.get? "v2" = some (.int 1) ∧
      holdingLetter.CountsAsCode "xor-int/2addr v2, v1" "v2" "v1" 'a' ∧
      holdingLetter.Throws "xor-int/2addr v1, v2" "v1" := by
  have hsource : holdingLetter.machine.registers.get? "v1" = some (Value.ofChar 'a') := rfl
  have hother : holdingLetter.machine.registers.get? "v2" = some (.int 1) := rfl
  obtain ⟨hcounts, -, hthrows, -⟩ := character_counts_as_code_as_xor_source holdingLetter
    (fun _ => ⟨" ", by decide⟩) .lit8 ⟨"v2", by decide, by decide⟩ ⟨"v1", by decide, by decide⟩
    ⟨"v2", by decide, by decide⟩ ⟨"0x2", by decide, by decide⟩ 'a' 1 2 hsource hother
    (by decide +kernel)
  exact ⟨hsource, hother, hcounts true _ hother (by decide), (hthrows true).1⟩

/-- The exclusive disjunction of a character and a number, in both orders. -/
def characterListing (x y : String) : List String :=
  ["const v0, 97", "int-to-char v1, v0", "const v2, 1", s!"xor-int/2addr {x}, {y}", s!"return {x}"]

def characterRun (x y : String) : Emulator × Ending Value :=
  Emulator.run {} (characterListing x y) (({} : Machine).load []) false 5

/-- With the character behind the number it counts as its code point; the other way around a fault
is thrown, and the character stays. -/
theorem characterListing_depends_on_order :
    (characterRun "v2" "v1").1.machine.intAt? "v2" = some 96 ∧
      (characterRun "v1" "v2").1.machine.textAt? "v1" = some "a" ∧
      (characterRun "v1" "v2").1.machine.intAt? "v1" = none := by
  decide +kernel

end Emulator

end Dalvik
