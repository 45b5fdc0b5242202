import Dalvik.Proofs.Doubles
import Dalvik.Proofs.GivenValues
import Mathlib

/-!
# Quotients and remainders

Division by an integer in a register and by a literal are carried out alike. The quotient is always
a double: the one nearest to the exact quotient, and not an integer that was cut off. The remainder
is an integer and belongs to the quotient rounded down, so that its sign is the one of the divisor.
The two fit together where the division leaves no remainder and the quotient is short enough to be a
double.
-/

namespace Dalvik

/-! ### Remainders -/

section Remainders

variable {a b : Int}

/-- The remainder of the quotient rounded down lies between zero and the divisor. -/
theorem fmod_between (a : Int) (hb : b ≠ 0) :
    0 ≤ a.fmod b ∧ a.fmod b < b ∨ b < a.fmod b ∧ a.fmod b ≤ 0 := by
  rcases lt_or_gt_of_ne hb with hneg | hpos
  · have hflipped := Int.neg_fmod_neg a b
    have hnonneg := Int.fmod_nonneg_of_pos (-a) (Int.neg_pos_of_neg hneg)
    have hless := Int.fmod_lt_of_pos (-a) (Int.neg_pos_of_neg hneg)
    exact .inr (by omega)
  · exact .inl ⟨Int.fmod_nonneg_of_pos a hpos, Int.fmod_lt_of_pos a hpos⟩

theorem abs_fmod_lt (a : Int) (hb : b ≠ 0) : |a.fmod b| < |b| := by
  have hbetween := fmod_between a hb
  rw [Int.abs_eq_natAbs, Int.abs_eq_natAbs]
  omega

theorem sign_fmod (a : Int) (hb : b ≠ 0) : a.fmod b = 0 ∨ (a.fmod b).sign = b.sign := by
  rcases fmod_between a hb with ⟨hge, hlt⟩ | ⟨hlt, hle⟩
  · rcases hge.eq_or_lt with hzero | hpos
    · exact .inl hzero.symm
    · right
      rw [Int.sign_eq_one_of_pos hpos, Int.sign_eq_one_of_pos (hpos.trans hlt)]
  · rcases hle.eq_or_lt with hzero | hneg
    · exact .inl hzero
    · right
      rw [Int.sign_eq_neg_one_of_neg hneg, Int.sign_eq_neg_one_of_neg (hlt.trans hneg)]

/-- It is the remainder of the quotient cut off where that is zero or the signs agree. -/
theorem fmod_eq_tmod_iff (hb : b ≠ 0) : a.fmod b = a.tmod b ↔ b ∣ a ∨ a.sign = b.sign := by
  rw [Int.fmod_eq_tmod]
  by_cases hdvd : b ∣ a
  · simp [hdvd]
  have ha : a ≠ 0 := by
    rintro rfl
    exact hdvd (dvd_zero b)
  rcases lt_or_gt_of_ne ha with haneg | hapos <;> rcases lt_or_gt_of_ne hb with hbneg | hbpos
  · rw [Int.sign_eq_neg_one_of_neg haneg, Int.sign_eq_neg_one_of_neg hbneg]
    simp [hdvd, haneg.not_ge, hbneg.not_ge, hbneg.le]
  · rw [Int.sign_eq_neg_one_of_neg haneg, Int.sign_eq_one_of_pos hbpos]
    simp [hdvd, haneg.not_ge, hbpos.le, hb]
  · rw [Int.sign_eq_one_of_pos hapos, Int.sign_eq_neg_one_of_neg hbneg]
    simp [hdvd, hapos.le, hbneg.not_ge, hb]
  · rw [Int.sign_eq_one_of_pos hapos, Int.sign_eq_one_of_pos hbpos]
    simp [hdvd, hapos.le, hbpos.le]

end Remainders

/-! ### Quotients -/

theorem Heap.newNumber_float (heap : Heap) {x : Float} (hnumber : x.isNaN = false) :
    heap.newNumber (.float x) = (.float x 0, heap) := by
  rw [newNumber, Numeric.differsFromItself, hnumber]
  rfl

/-- A quotient is the nearest double, or too large for one. -/
theorem Value.operate_div (heap : Heap) (a : Int) {b : Int} (hb : b ≠ 0) :
    (∃ x, Number.IsNearest x (a / b) ∧ |(a : ℚ) / b| < Number.overflow ∧
        (Value.int a).operate heap .div (.int b) = .ok (.float x 0, heap)) ∨
      Number.overflow ≤ |(a : ℚ) / b| ∧
        (Value.int a).operate heap .div (.int b) = .error .quotientTooLarge := by
  have hoperate : (Value.int a).operate heap .div (.int b) =
      (Numeric.div (.int a) (.int b)).map heap.newNumber := rfl
  rw [hoperate]
  rcases Number.divideInts_spec a hb with ⟨x, hsome, hnumber, hnearest, hless⟩ | ⟨hnone, hlarge⟩
  · refine .inl ⟨x, hnearest, hless, ?_⟩
    have hquotient : Numeric.div (.int a) (.int b) = .ok (.float x) := by
      simp only [Numeric.div, Numeric.lift, if_neg hb, hsome]
    rw [hquotient, ← heap.newNumber_float hnumber]
    rfl
  · refine .inr ⟨hlarge, ?_⟩
    have hquotient : Numeric.div (.int a) (.int b) = .error .quotientTooLarge := by
      simp only [Numeric.div, Numeric.lift, if_neg hb, hnone]
    rw [hquotient]
    rfl

namespace Emulator

/-- What a division takes its divisor from. -/
inductive Divisor where
  | register (other : Token)
  | literal (width : LiteralWidth) (text : Token)

namespace Divisor

def Is (machine : Machine) (number : Int) : Divisor → Prop
  | register other => machine.registers.get? other.text = some (.int number)
  | literal _ text => Expr.integer? text.text = some number

def quotient (target source : Token) : Divisor → Statement
  | register other => .arithmetic .div target source other
  | literal width text => .literalArithmetic .div width target source text

def remainder (target source : Token) : Divisor → Statement
  | register other => .arithmetic .rem target source other
  | literal width text => .literalArithmetic .rem width target source text

end Divisor

section Divisions

variable {emulator : Emulator} {divisor : Divisor} {target source : Token} {a b : Int}
variable (gaps : Nat → Gap) (hsource : emulator.machine.registers.get? source.text = some (.int a))
variable (hdivisor : divisor.Is emulator.machine b)

include hsource hdivisor

theorem gives_quotient :
    emulator.Gives ((divisor.quotient target source).print gaps) target.text
      ((Value.int a).operate emulator.machine.heap .div (.int b)) := by
  cases divisor with
  | register other => exact gives_arithmetic gaps hsource hdivisor
  | literal width text =>
    have hread : emulator.machine.literal text.text = .ok (.int b, emulator.machine.heap) :=
      Expr.readLiteral_integer emulator.machine.heap hdivisor
    have hresult : Instruction.literalResult emulator.machine .div target.text source.text
        text.text = (Value.int a).operate emulator.machine.heap .div (.int b) := by
      simp only [Instruction.literalResult, Machine.read_eq_ok.mpr hsource, hread]
      rfl
    rw [← hresult]
    exact gives_literalArithmetic gaps .div width

theorem gives_remainder (hb : b ≠ 0) :
    emulator.Gives ((divisor.remainder target source).print gaps) target.text
      (.ok (.int (a.fmod b), emulator.machine.heap)) := by
  have hresult : (IntOperation.rem.result a b).map (fun value =>
      (Value.int value, emulator.machine.heap)) = .ok (.int (a.fmod b), emulator.machine.heap) := by
    rw [IntOperation.result, if_neg hb]
    rfl
  rw [← hresult]
  cases divisor with
  | register other =>
    have happly := @Arithmetic.apply_int emulator.machine.heap .rem .rem a b rfl
    rw [← happly]
    exact gives_arithmetic gaps hsource hdivisor
  | literal width text =>
    have hliteral := @Instruction.literalResult_int emulator.machine target.text source.text
      text.text a b .rem .rem rfl (Machine.read_eq_ok.mpr hsource) hdivisor
      (fun hwritten => absurd hwritten (by decide)) (fun hshift => absurd hshift (by decide))
    rw [← hliteral]
    exact gives_literalArithmetic gaps .rem width

end Divisions

/-- The quotient is the nearest double, exact where the division leaves no remainder and the
quotient has at most 53 bits, or too large for a double. The remainder is the one of the quotient
rounded down: it has the sign of the divisor, and is the one of the quotient cut off only where it
is zero or the signs agree. Divisors in registers and literals do the same. -/
theorem division_nearest_remainder_floor (emulator : Emulator) (gaps : Nat → Gap)
    (divisor : Divisor) (target source : Token) (a b : Int) (hb : b ≠ 0)
    (hsource : emulator.machine.registers.get? source.text = some (.int a))
    (hdivisor : divisor.Is emulator.machine b) :
    let divide := (divisor.quotient target source).print gaps
    let remain := (divisor.remainder target source).print gaps
    ((∃ x, Number.IsNearest x (a / b) ∧
          (b ∣ a → |a / b| < 2 ^ 53 → Number.toRat? x = some ((a / b : Int) : ℚ)) ∧
          emulator.Gives divide target.text (.ok (.float x 0, emulator.machine.heap)) ∧
          |(a : ℚ) / b| < Number.overflow) ∨
        emulator.Gives divide target.text (.error .quotientTooLarge) ∧
          Number.overflow ≤ |(a : ℚ) / b|) ∧
      emulator.Gives remain target.text (.ok (.int (a.fmod b), emulator.machine.heap)) ∧
      a = a.fdiv b * b + a.fmod b ∧ |a.fmod b| < |b| ∧
      (a.fmod b = 0 ∨ (a.fmod b).sign = b.sign) ∧
      (a.fmod b = a.tmod b ↔ b ∣ a ∨ a.sign = b.sign) := by
  intro divide remain
  have hquotient : emulator.Gives divide target.text _ := gives_quotient gaps hsource hdivisor
  refine ⟨?_, gives_remainder gaps hsource hdivisor hb, (Int.fdiv_mul_add_fmod a b).symm,
    abs_fmod_lt a hb, sign_fmod a hb, fmod_eq_tmod_iff hb⟩
  rcases Value.operate_div emulator.machine.heap a hb with
    ⟨x, hnearest, hless, hoperate⟩ | ⟨hlarge, hoperate⟩
  · rw [hoperate] at hquotient
    refine .inl ⟨x, hnearest, fun hdvd hshort => ?_, hquotient, hless⟩
    rw [← Int.cast_div_charZero hdvd] at hnearest
    exact hnearest.toRat?_eq hshort
  · rw [hoperate] at hquotient
    exact .inr ⟨hquotient, hlarge⟩

/-- A dividend below zero that its divisor does not divide. -/
def holdingSevenBelow : Emulator where
  machine := { registers := [("v1", .int (-7)), ("v2", .int 2)] }

theorem division_nearest_remainder_floor_holdingSevenBelow :
    holdingSevenBelow.Gives "rem-int v0, v1, v2" "v0" (.ok (.int 1, {})) ∧
      (-7 : Int).fmod 2 ≠ (-7 : Int).tmod 2 ∧
      holdingSevenBelow.Gives "rem-int/lit8 v0, v1, 0x2" "v0" (.ok (.int 1, {})) := by
  have hregister := division_nearest_remainder_floor holdingSevenBelow (fun _ => ⟨" ", by decide⟩)
    (.register ⟨"v2", by decide, by decide⟩) ⟨"v0", by decide, by decide⟩
    ⟨"v1", by decide, by decide⟩ (-7) 2 (by decide) rfl rfl
  have hliteral := division_nearest_remainder_floor holdingSevenBelow (fun _ => ⟨" ", by decide⟩)
    (.literal .lit8 ⟨"0x2", by decide, by decide⟩) ⟨"v0", by decide, by decide⟩
    ⟨"v1", by decide, by decide⟩ (-7) 2 (by decide) rfl
    (show Expr.integer? "0x2" = some 2 by decide +kernel)
  exact ⟨hregister.2.1, fun h => absurd (hregister.2.2.2.2.2.mp h) (by decide), hliteral.2.1⟩

/-- A quotient and a remainder of the same numbers. -/
def divisionListing : List String :=
  ["const v0, -7", "const v1, 2", "div-int v2, v0, v1", "rem-int v3, v0, v1", "return v2"]

def divisionRun : Emulator × Ending Value :=
  Emulator.run {} divisionListing (({} : Machine).load []) false 5

/-- The quotient is not an integer, and the remainder has the sign of the divisor. -/
theorem divisionListing_is_not_cut_off :
    divisionRun.1.machine.intAt? "v2" = none ∧
      (divisionRun.1.machine.registers.get? "v2").isSome = true ∧
      divisionRun.1.machine.intAt? "v3" = some 1 ∧ (-7 : Int).tmod 2 = -1 := by
  decide +kernel

end Emulator

end Dalvik
