import Dalvik.Proofs.InstructionFrame
import Dalvik.Proofs.IntegerArithmetic
import Dalvik.Proofs.Printing

/-!
# Literal forms and register forms

An operation with a literal does to its target what the form with two registers does after the
literal has been loaded into one of them: it gives the same integer, or it throws the same fault.
-/

namespace Dalvik

/-! ### Spellings -/

namespace Expr

/-- The digits of a number, in decimal or, behind their mark, in base sixteen. -/
inductive SpelledMagnitude (n : Nat) : List Char → Prop where
  | decimal : SpelledMagnitude n (Nat.toDigits 10 n)
  | hex {digits : List Char} (zeros : Nat)
      (hdigits : digits.map Char.toLower = List.replicate zeros '0' ++ Nat.toDigits 16 n) :
      SpelledMagnitude n ('0' :: 'x' :: digits)

/-- The texts of an integer; one that is negated has a minus before its digits. -/
inductive Spelled : Int → String → Prop where
  | plain {n : Nat} {text : String} (hdigits : SpelledMagnitude n text.toList) :
      Spelled n text
  | negated {n : Nat} {digits : List Char} {text : String} (htext : text.toList = '-' :: digits)
      (hdigits : SpelledMagnitude n digits) : Spelled (-n) text

variable {n : Nat} {value : Int} {chars : List Char} {text : String}

theorem digitOf_toLower (base : Nat) (c : Char) : digitOf base c.toLower = digitOf base c := by
  rw [digitOf, Text.hexValue_toLower, digitOf]

theorem isNumeralChar_of_digitOf {c : Char} (hc : (digitOf 16 c).isSome = true) :
    isNumeralChar c = true := by
  have hvalue : (Text.hexValue c).isSome = true := by
    rw [digitOf] at hc
    cases hhex : Text.hexValue c with
    | none => rw [hhex] at hc; cases hc
    | some digit => rfl
  rw [Text.hexValue] at hvalue
  simp only [isNumeralChar, Text.isAsciiLetter, Text.isAsciiDigit, Bool.or_eq_true,
    Bool.and_eq_true, decide_eq_true_eq]
  split at hvalue
  · rename_i hdigit
    exact Or.inl (Or.inr (by simpa using hdigit))
  split at hvalue
  · rename_i hlower
    rw [Bool.and_eq_true, decide_eq_true_eq, decide_eq_true_eq] at hlower
    exact Or.inl (Or.inl (Or.inl ⟨hlower.1, Char.le_trans hlower.2 (by decide)⟩))
  split at hvalue
  · rename_i hupper
    rw [Bool.and_eq_true, decide_eq_true_eq, decide_eq_true_eq] at hupper
    exact Or.inl (Or.inl (Or.inr ⟨hupper.1, Char.le_trans hupper.2 (by decide)⟩))
  · cases hvalue

theorem magnitude_hex (zeros : Nat)
    (hdigits : chars.map Char.toLower = List.replicate zeros '0' ++ Nat.toDigits 16 n) :
    Magnitude ('0' :: 'x' :: chars) n := by
  have hsome : ∀ c ∈ chars, (digitOf 16 c).isSome = true := by
    intro c hc
    have hmem : c.toLower ∈ List.replicate zeros '0' ++ Nat.toDigits 16 n := by
      rw [← hdigits]
      exact List.mem_map_of_mem hc
    rw [← digitOf_toLower]
    rcases List.mem_append.mp hmem with hzero | hdigit
    · rw [List.eq_of_mem_replicate hzero]
      rfl
    · exact Number.isSome_digitOf_of_mem_toDigits (by decide) (by decide) n _ hdigit
  have hvalues : chars.filterMap (digitOf 16) =
      List.replicate zeros 0 ++ (Nat.toDigits 16 n).filterMap (digitOf 16) := by
    have hmapped : (chars.map Char.toLower).filterMap (digitOf 16) =
        chars.filterMap (digitOf 16) := by
      rw [List.filterMap_map]
      exact congrArg (chars.filterMap ·) (funext (digitOf_toLower 16))
    have hzero : digitOf 16 '0' = some 0 := rfl
    rw [← hmapped, hdigits, List.filterMap_append, List.filterMap_replicate_of_some hzero]
  have hne : chars ≠ [] := by
    rintro rfl
    exact Nat.toDigits_ne_nil (List.append_eq_nil_iff.mp hdigits.symm).2
  refine ⟨rfl, ?_, ?_⟩
  · rw [List.all_cons, List.all_cons, List.all_eq_true.mpr]
    · rfl
    · intro c hc
      exact isNumeralChar_of_digitOf (hsome c hc)
  · rw [numberOf_hex hne hsome, hvalues, Number.ofDigits_zeros,
      Number.ofDigits_toDigits (by decide) (by decide)]

theorem SpelledMagnitude.magnitude (hchars : SpelledMagnitude n chars)
    (hlength : (Nat.toDigits 10 n).length ≤ Number.maxDigits) : Magnitude chars n := by
  cases hchars with
  | decimal => exact magnitude_toDigits hlength
  | hex zeros hdigits => exact magnitude_hex zeros hdigits

/-- Every spelling of an integer is read as that integer. -/
theorem Spelled.integer?_eq (hspelled : Spelled value text) (hvalue : Number.Printable value) :
    integer? text = some value := by
  rw [integer?_eq_some_iff]
  cases hspelled with
  | plain hdigits => exact ⟨.none, _, _, rfl, hdigits.magnitude hvalue, rfl⟩
  | @negated n digits text htext hdigits =>
      have hlength : (Nat.toDigits 10 n).length ≤ Number.maxDigits := by
        rwa [Number.Printable, Int.natAbs_neg, Int.natAbs_natCast] at hvalue
      exact ⟨.minus, digits, n, htext, hdigits.magnitude hlength, rfl⟩

theorem isSolid_of_isNumeralChar {c : Char} (hc : isNumeralChar c = true) :
    Text.isSolid c = true := by
  have hascii : ∀ n < 128, isNumeralChar (Char.ofNat n) = true →
      Text.isSolid (Char.ofNat n) = true := by decide
  have hlow : c.toNat < 128 := by
    simp only [isNumeralChar, Text.isAsciiLetter, Text.isAsciiDigit, Bool.or_eq_true,
      Bool.and_eq_true, decide_eq_true_eq, beq_iff_eq] at hc
    rcases hc with ((hc | hc) | hc) | rfl
    · exact Nat.lt_of_le_of_lt (show c.toNat ≤ 122 from hc.2) (by decide)
    · exact Nat.lt_of_le_of_lt (show c.toNat ≤ 90 from hc.2) (by decide)
    · exact Nat.lt_of_le_of_lt (show c.toNat ≤ 57 from hc.2) (by decide)
    · decide
  have hsolid := hascii c.toNat hlow
  rw [Char.ofNat_toNat] at hsolid
  exact hsolid hc

theorem solid_of_integer? (hinteger : integer? text = some value) :
    text.toList.all Text.isSolid = true := by
  obtain ⟨sign, digits, n, htext, hdigits, -⟩ := integer?_eq_some_iff.mp hinteger
  rw [htext, List.all_append, Bool.and_eq_true]
  constructor
  · cases sign <;> decide
  · rw [List.all_eq_true]
    intro c hc
    exact isSolid_of_isNumeralChar (List.all_eq_true.mp hdigits.plain c hc)

/-- A spelling can stand as an operand. -/
def Spelled.token (hspelled : Spelled value text) (hvalue : Number.Printable value) :
    Dalvik.Token where
  text := text
  ne_empty := by
    rintro rfl
    cases hspelled.integer?_eq hvalue
  solid := solid_of_integer? (hspelled.integer?_eq hvalue)

end Expr

/-! ### What a line gives a register -/

namespace Emulator

/-- The emulator after a register was given an integer, or after a fault was thrown instead. -/
def deliver (emulator : Emulator) (register : String) : Except Fault Int → Emulator × Ending Unit
  | .ok value =>
    ({ emulator with machine := emulator.machine.write register (.int value) }, .done ())
  | .error cause => emulator.throw cause

/-- Executing the line gives the register the integer or throws the fault, and does nothing else. -/
def Delivers (emulator : Emulator) (line register : String) (result : Except Fault Int) : Prop :=
  emulator.executeLine line =
    andThen ((emulator.trace line).deliver register result) fun after _ => (after, .done true)

theorem delivers_print {emulator : Emulator} {statement : Statement} {register : String}
    {result : Except Fault Int} (gaps : Nat → Gap)
    (houtcome : statement.instruction.outcome emulator.machine =
      (result.mapError Halt.fault).map fun value => emulator.machine.write register (.int value)) :
    emulator.Delivers (statement.print gaps) register result := by
  have hline := Statement.ofLine?_print statement gaps
  rw [Delivers, executeLine, hline, attempt, execute_eq_settle, trace_machine, houtcome]
  cases result with
  | ok value => rw [deliver, trace_machine]; rfl
  | error cause => rfl

/-! ### The two forms -/

variable {emulator : Emulator} {target source other literal : Token} {left right : Int}

theorem delivers_const (gaps : Nat → Gap) {width : Option Digits}
    (hliteral : Expr.integer? literal.text = some right) :
    emulator.Delivers ((Statement.const width target literal).print gaps) target.text
      (.ok right) :=
  delivers_print gaps (Instruction.outcome_const_int hliteral)

theorem delivers_literalArithmetic (gaps : Nat → Gap) (width : LiteralWidth)
    {operation : LiteralArithmetic} {onInts : IntOperation}
    (honInts : operation.intOperation? = some onInts) (hshift : onInts ≠ .shl)
    (hsource : emulator.machine.registers.get? source.text = some (.int left))
    (hleft : Number.Printable left) (hliteral : Expr.integer? literal.text = some right) :
    emulator.Delivers
      ((Statement.literalArithmetic operation width target source literal).print gaps)
      target.text (onInts.result left right) := by
  apply delivers_print
  apply Instruction.outcome_literalArithmetic_int
  apply Instruction.literalResult_int honInts (Machine.read_eq_ok.mpr hsource) hliteral
  · exact fun _ => hleft
  · exact fun heq => absurd heq hshift

theorem delivers_arithmetic (gaps : Nat → Gap) {operation : Arithmetic} {onInts : IntOperation}
    (honInts : operation.intOperation? = some onInts)
    (hsource : emulator.machine.registers.get? source.text = some (.int left))
    (hother : emulator.machine.registers.get? other.text = some (.int right)) :
    emulator.Delivers ((Statement.arithmetic operation target source other).print gaps)
      target.text (onInts.result left right) := by
  apply delivers_print
  exact Instruction.outcome_arithmetic_int honInts (Machine.read_eq_ok.mpr hsource)
    (Machine.read_eq_ok.mpr hother)

theorem delivers_xorInto (gaps : Nat → Gap) (twoAddresses : Bool)
    (htarget : emulator.machine.registers.get? target.text = some (.int left))
    (hother : emulator.machine.registers.get? other.text = some (.int right)) :
    emulator.Delivers ((Statement.xorInto twoAddresses target other).print gaps)
      target.text (.ok (Int.xor left right)) := by
  apply delivers_print
  exact Instruction.outcome_xorInto_int (Machine.read_eq_ok.mpr htarget)
    (Machine.read_eq_ok.mpr hother)

/-- An operation with a literal gives its target the integer that the operation on registers gives
it once the literal is loaded into another register, or throws the same fault; the integer is the
exact one, whatever the signs, the size and the spelling. -/
theorem literal_forms_agree (emulator : Emulator) (gaps : Nat → Gap) (width : LiteralWidth)
    (target source other : Token) (y c : Int) (t : String) (hy : Number.Printable y)
    (hc : Number.Printable c) (hspelled : Expr.Spelled c t) :
    let literal := hspelled.token hc
    let loading := (Statement.const none other literal).print gaps
    let loaded := { emulator.trace loading with
      machine := emulator.machine.write other.text (.int c) }
    emulator.executeLine loading = (loaded, .done true) ∧
    (other.text ≠ source.text →
      emulator.machine.registers.get? source.text = some (.int y) →
      ∀ (operation : LiteralArithmetic) (plain : Arithmetic) (result : Except Fault Int),
        (operation, plain, result) ∈ [
          (.add, .add, .ok (y + c)),
          (.mul, .mul, .ok (y * c)),
          (.rem, .rem, if c = 0 then .error .moduloByZero else .ok (Int.fmod y c)),
          (.and, .and, .ok (Int.land y c))] →
        emulator.Delivers
          ((Statement.literalArithmetic operation width target source literal).print gaps)
          target.text result ∧
        loaded.Delivers ((Statement.arithmetic plain target source other).print gaps)
          target.text result) ∧
    (other.text ≠ target.text →
      emulator.machine.registers.get? target.text = some (.int y) →
        emulator.Delivers
          ((Statement.literalArithmetic .xor width target target literal).print gaps)
          target.text (.ok (Int.xor y c)) ∧
        loaded.Delivers ((Statement.xorInto true target other).print gaps)
          target.text (.ok (Int.xor y c))) := by
  intro literal loading loaded
  have hliteral : Expr.integer? literal.text = some c := hspelled.integer?_eq hc
  have hother : loaded.machine.registers.get? other.text = some (.int c) :=
    Table.get?_insert_self ..
  -- loading the literal leaves every other register as it was
  have hkept : ∀ register : Token, other.text ≠ register.text →
      emulator.machine.registers.get? register.text = some (.int y) →
      loaded.machine.registers.get? register.text = some (.int y) := by
    intro register hne hregister
    rw [← hregister]
    exact Table.get?_insert_of_ne _ _ (Ne.symm hne)
  refine ⟨?_, ?_, ?_⟩
  · have hloading : emulator.Delivers loading other.text (.ok c) := delivers_const gaps hliteral
    rw [Delivers, deliver, trace_machine] at hloading
    exact hloading
  · intro hne hsource operation plain result hmem
    obtain ⟨onInts, hoperation, hplain, hshift, rfl⟩ : ∃ onInts : IntOperation,
        operation.intOperation? = some onInts ∧ plain.intOperation? = some onInts ∧
          onInts ≠ .shl ∧ result = onInts.result y c := by
      simp only [List.mem_cons, Prod.mk.injEq, List.not_mem_nil, or_false] at hmem
      rcases hmem with ⟨rfl, rfl, rfl⟩ | ⟨rfl, rfl, rfl⟩ | ⟨rfl, rfl, rfl⟩ | ⟨rfl, rfl, rfl⟩
      · exact ⟨.add, rfl, rfl, by decide, rfl⟩
      · exact ⟨.mul, rfl, rfl, by decide, rfl⟩
      · exact ⟨.rem, rfl, rfl, by decide, rfl⟩
      · exact ⟨.and, rfl, rfl, by decide, rfl⟩
    exact ⟨delivers_literalArithmetic gaps width hoperation hshift hsource hy hliteral,
      delivers_arithmetic gaps hplain (hkept source hne hsource) hother⟩
  · intro hne htarget
    have hxor : LiteralArithmetic.xor.intOperation? = some .xor := rfl
    exact ⟨delivers_literalArithmetic gaps width hxor (by decide) htarget hy hliteral,
      delivers_xorInto gaps true (hkept target hne htarget) hother⟩

/-- Two registers hold a negative number. -/
def holdingNegatives : Emulator where
  machine := { registers := [("v0", .int (-7)), ("v1", .int (-7))] }

theorem spelled_negativeHex : Expr.Spelled (-10) "-0x0A" :=
  .negated rfl (.hex 1 (by decide : ['0', 'A'].map Char.toLower = _))

theorem literal_forms_agree_holdingNegatives :
    (Number.Printable (-7) ∧ Number.Printable (-10) ∧ Expr.Spelled (-10) "-0x0A") ∧
    ∃ loaded : Emulator,
      holdingNegatives.executeLine "const v2, -0x0A" = (loaded, .done true) ∧
      (holdingNegatives.Delivers "mul-int/lit8 v0, v1, -0x0A" "v0" (.ok 70) ∧
        loaded.Delivers "mul-int v0, v1, v2" "v0" (.ok 70)) ∧
      (holdingNegatives.Delivers "xor-int/lit8 v0, v0, -0x0A" "v0" (.ok 15) ∧
        loaded.Delivers "xor-int/2addr v0, v2" "v0" (.ok 15)) := by
  have hy : Number.Printable (-7) := by unfold Number.Printable; decide
  have hc : Number.Printable (-10) := by unfold Number.Printable; decide
  obtain ⟨hloading, hforms, hxor⟩ := literal_forms_agree holdingNegatives
    (fun _ => ⟨" ", by decide⟩) .lit8 ⟨"v0", by decide, by decide⟩ ⟨"v1", by decide, by decide⟩
    ⟨"v2", by decide, by decide⟩ (-7) (-10) "-0x0A" hy hc spelled_negativeHex
  exact ⟨⟨hy, hc, spelled_negativeHex⟩, _, hloading,
    hforms (by decide) rfl .mul .mul (.ok 70) (by simp), hxor (by decide) rfl⟩

end Emulator

end Dalvik
