import Dalvik.Number.Binary64
import Mathlib

/-!
# The double nearest to a quotient

A finite double is an integer of at most 53 bits times a power of two that is not below the least
one. The quotient of two integers is rounded to a multiple of the power that leaves it 53 bits: no
double is nearer, and of two that are equally near the even one is taken. Quotients from half a step
above the largest double on have no nearest one.
-/

namespace Dalvik.Number

open Float.Model

/-! ### Bits -/

variable {bits : UInt64}

theorem toBits_ofBits (hfinite : bits.toNat / 2 ^ 52 % 2 ^ 11 ≠ 2047) :
    (Float.ofBits bits).toBits = bits := by
  have hexponent : @UnpackedFloat.unpackExponent Format.binary64 bits.toBitVec ≠ -1#_ := by
    intro heq
    have hnat := congrArg BitVec.toNat heq
    rw [UnpackedFloat.unpackExponent_def] at hnat
    simp [BitVec.extractLsb'_toNat, Nat.shiftRight_eq_div_pow] at hnat
    exact hfinite hnat
  have hnan : @UnpackedFloat.isNaNBits Format.binary64 bits.toBitVec = false :=
    decide_eq_false fun hnan => hexponent hnan.1
  change UInt64.ofBitVec
    ((UnpackedFloat.unpack Format.binary64 bits.toBitVec).pack Format.binary64) = bits
  rw [UnpackedFloat.pack_unpack, hnan]
  rfl

theorem isNaN_ofBits (hfinite : bits.toNat / 2 ^ 52 % 2 ^ 11 ≠ 2047) :
    (Float.ofBits bits).isNaN = false := by
  rw [Float.isNaN_eq_decide_eq_nan, decide_eq_false_iff_not]
  intro hnan
  have hbits := congrArg Float.toBits hnan
  rw [toBits_ofBits hfinite] at hbits
  subst hbits
  exact hfinite (by decide)

/-- The bits of finite doubles that are not negative. -/
def FiniteBits (bits : Nat) : Prop :=
  bits < 2047 * 2 ^ 52

theorem toNat_signedBits (negative : Bool) {bits : Nat} (hbits : FiniteBits bits) :
    (if negative then bits + Nat.pow 2 63 else bits).toUInt64.toNat =
      if negative then bits + 2 ^ 63 else bits := by
  unfold FiniteBits at hbits
  simp only [Nat.toUInt64_eq, UInt64.toNat_ofNat', Nat.pow_eq]
  split <;> omega

theorem field_signedBits (negative : Bool) {bits : Nat} (hbits : FiniteBits bits) :
    (if negative then bits + Nat.pow 2 63 else bits).toUInt64.toNat / 2 ^ 52 % 2 ^ 11 =
      bits / 2 ^ 52 := by
  rw [toNat_signedBits negative hbits]
  unfold FiniteBits at hbits
  split <;> omega

theorem field_ne (negative : Bool) {bits : Nat} (hbits : FiniteBits bits) :
    (if negative then bits + Nat.pow 2 63 else bits).toUInt64.toNat / 2 ^ 52 % 2 ^ 11 ≠ 2047 := by
  rw [field_signedBits negative hbits]
  unfold FiniteBits at hbits
  omega

theorem isNaN_ofBits_of_finite (negative : Bool) {bits : Nat} (hbits : FiniteBits bits) :
    (ofBits negative bits).isNaN = false :=
  isNaN_ofBits (field_ne negative hbits)

/-- The bits of a double are a field for the power of two and the rest of the mantissa. -/
theorem unpack_ofBits (negative : Bool) {bits : Nat} (hbits : FiniteBits bits) :
    unpack (ofBits negative bits) =
      if bits / 2 ^ 52 = 0 then .finite negative bits (-1074)
      else .finite negative (bits % 2 ^ 52 + 2 ^ 52) ((bits / 2 ^ 52 : Nat) - 1075) := by
  have htoBits : (ofBits negative bits).toBits.toNat =
      if negative then bits + 2 ^ 63 else bits := by
    rw [ofBits, toBits_ofBits (field_ne negative hbits), toNat_signedBits negative hbits]
  have hfield := field_signedBits negative hbits
  rw [toNat_signedBits negative hbits] at hfield
  unfold FiniteBits at hbits
  have hsign : ((if negative then bits + 2 ^ 63 else bits) / 2 ^ 63 == 1) = negative := by
    cases negative with
    | false => simp; omega
    | true => simp; omega
  have hfraction : (if negative then bits + 2 ^ 63 else bits) % 2 ^ 52 = bits % 2 ^ 52 := by
    split <;> omega
  simp only [unpack, Nat.pow_eq, htoBits, hfield, hsign, hfraction]
  rw [if_neg (by omega)]
  split
  · rename_i hzero
    rw [Nat.mod_eq_of_lt (by omega)]
  · rfl

/-! ### Exact values -/

/-- The exact value of a double, `none` if it is infinite or not a number. -/
def toRat? (x : Float) : Option ℚ :=
  match unpack x with
  | .finite negative mantissa exponent => some (signed negative mantissa * 2 ^ exponent)
  | _ => none

def HasEvenMantissa (x : Float) : Prop :=
  ∃ negative mantissa exponent, unpack x = .finite negative mantissa exponent ∧ mantissa % 2 = 0

/-- Mantissa and exponent of a double. All 53 bits are used, unless the exponent is the least. -/
structure IsScaled (mantissa : Nat) (exponent : Int) : Prop where
  short : mantissa < 2 ^ 53
  least : -1074 ≤ exponent
  full : 2 ^ 52 ≤ mantissa ∨ exponent = -1074

theorem exists_of_toRat? {x : Float} {value : ℚ} (hexact : toRat? x = some value) :
    ∃ (negative : Bool) (mantissa : Nat) (exponent : Int), IsScaled mantissa exponent ∧
      value = signed negative mantissa * 2 ^ exponent := by
  have hfraction : x.toBits.toNat % 2 ^ 52 < 2 ^ 52 := Nat.mod_lt _ (by decide)
  simp only [toRat?, unpack, Nat.pow_eq] at hexact
  by_cases hinfinite : x.toBits.toNat / 2 ^ 52 % 2 ^ 11 = 2047
  · rw [if_pos hinfinite] at hexact
    by_cases hzero : x.toBits.toNat % 2 ^ 52 = 0
    · rw [if_pos hzero] at hexact
      cases hexact
    · rw [if_neg hzero] at hexact
      cases hexact
  by_cases hfield : x.toBits.toNat / 2 ^ 52 % 2 ^ 11 = 0
  · rw [if_neg hinfinite, if_pos hfield] at hexact
    exact ⟨_, _, _, ⟨by omega, by decide, .inr rfl⟩, (Option.some.inj hexact).symm⟩
  · rw [if_neg hinfinite, if_neg hfield] at hexact
    exact ⟨_, _, _, ⟨by omega, by omega, .inl (by omega)⟩, (Option.some.inj hexact).symm⟩

/-- The bits that a rounded mantissa makes with its exponent, also where it is rounded up to the
next power of two. -/
theorem unpack_ofBits_scaled (negative : Bool) {step rounded : Nat}
    (hbits : FiniteBits (step * 2 ^ 52 + rounded)) (hrounded : rounded ≤ 2 ^ 53)
    (hfull : 2 ^ 52 ≤ rounded ∨ step = 0) :
    ∃ (mantissa : Nat) (exponent : Int),
      unpack (ofBits negative (step * 2 ^ 52 + rounded)) =
        .finite negative mantissa exponent ∧
      (mantissa : ℚ) * 2 ^ exponent = rounded * 2 ^ ((step : ℤ) - 1074) ∧
      mantissa % 2 = rounded % 2 := by
  rw [unpack_ofBits negative hbits]
  by_cases hsmall : rounded < 2 ^ 52
  · have hstep : step = 0 := hfull.resolve_left (by omega)
    subst hstep
    rw [if_pos (by omega)]
    exact ⟨_, _, rfl, by norm_num, by omega⟩
  by_cases hcarry : rounded = 2 ^ 53
  · subst hcarry
    have hfield : (step * 2 ^ 52 + 2 ^ 53) / 2 ^ 52 = step + 2 := by omega
    have hrest : (step * 2 ^ 52 + 2 ^ 53) % 2 ^ 52 = 0 := by omega
    rw [hfield, hrest, if_neg (by omega)]
    refine ⟨_, _, rfl, ?_, by omega⟩
    have hexponent : ((step + 2 : Nat) : ℤ) - 1075 = ((step : ℤ) - 1074) + 1 := by
      push_cast
      ring
    rw [hexponent, zpow_add_one₀ (by norm_num)]
    push_cast
    ring
  · have hfield : (step * 2 ^ 52 + rounded) / 2 ^ 52 = step + 1 := by omega
    have hrest : (step * 2 ^ 52 + rounded) % 2 ^ 52 + 2 ^ 52 = rounded := by omega
    rw [hfield, hrest, if_neg (by omega)]
    refine ⟨_, _, rfl, ?_, rfl⟩
    congr 2
    push_cast
    ring

/-! ### Rounding to an integer -/

/-- `value` is at least as near to `target` as `other` is, and `even` holds if both are as near. -/
structure Nearer (value other target : ℚ) (even : Prop) : Prop where
  le : |value - target| ≤ |other - target|
  tie : |value - target| = |other - target| → other ≠ value → even

theorem Nearer.imp {value other target : ℚ} {even even' : Prop}
    (hnearer : Nearer value other target even) (himp : even → even') :
    Nearer value other target even' :=
  ⟨hnearer.le, fun hequal hne => himp (hnearer.tie hequal hne)⟩

theorem Nearer.scale {value other target : ℚ} {even : Prop}
    (hnearer : Nearer value other target even) {unit : ℚ} (hunit : 0 < unit) :
    Nearer (value * unit) (other * unit) (target * unit) even := by
  have hdistance : ∀ number : ℚ, |number * unit - target * unit| = |number - target| * unit := by
    intro number
    rw [← sub_mul, abs_mul, abs_of_pos hunit]
  constructor
  · rw [hdistance, hdistance]
    exact mul_le_mul_of_nonneg_right hnearer.le hunit.le
  · rw [hdistance, hdistance]
    intro hequal hne
    exact hnearer.tie (mul_right_cancel₀ hunit.ne' hequal) fun h => hne (by rw [h])

theorem roundHalfEven_cases {numerator denominator : Nat} :
    (roundHalfEven numerator denominator = numerator / denominator ∧
        2 * (numerator % denominator) ≤ denominator ∧
        (2 * (numerator % denominator) = denominator → numerator / denominator % 2 = 0)) ∨
      (roundHalfEven numerator denominator = numerator / denominator + 1 ∧
        denominator ≤ 2 * (numerator % denominator) ∧
        (2 * (numerator % denominator) = denominator →
          (numerator / denominator + 1) % 2 = 0)) := by
  simp only [roundHalfEven, gt_iff_lt, Bool.or_eq_true, decide_eq_true_eq, Bool.and_eq_true,
    beq_iff_eq]
  split
  · right
    omega
  · left
    omega

/-- How far a multiple of the denominator is from the one at the quotient rounded down. -/
theorem multiple_cases (quotient other denominator : Nat) :
    (other < quotient ∧ ((other : ℤ) - quotient) * denominator ≤ -denominator) ∨
      (other = quotient ∧ ((other : ℤ) - quotient) * denominator = 0) ∨
      (other = quotient + 1 ∧ ((other : ℤ) - quotient) * denominator = denominator) ∨
      (quotient + 1 < other ∧ 2 * (denominator : ℤ) ≤ ((other : ℤ) - quotient) * denominator) := by
  rcases Nat.lt_trichotomy other quotient with hless | rfl | hmore
  · exact .inl ⟨hless, by nlinarith⟩
  · exact .inr (.inl ⟨rfl, by rw [sub_self, zero_mul]⟩)
  · rcases Nat.eq_or_lt_of_le (Nat.succ_le_of_lt hmore) with rfl | hmore
    · refine .inr (.inr (.inl ⟨rfl, ?_⟩))
      push_cast
      ring
    · exact .inr (.inr (.inr ⟨hmore, by nlinarith⟩))

theorem roundHalfEven_integers (numerator : Nat) {denominator : Nat} (hpos : 0 < denominator)
    (other : Nat) :
    |(roundHalfEven numerator denominator : ℤ) * denominator - numerator| ≤
        |(other : ℤ) * denominator - numerator| ∧
      (|(roundHalfEven numerator denominator : ℤ) * denominator - numerator| =
          |(other : ℤ) * denominator - numerator| →
        other ≠ roundHalfEven numerator denominator →
          roundHalfEven numerator denominator % 2 = 0) := by
  have hdivision := Nat.div_add_mod numerator denominator
  have hrest := Nat.mod_lt numerator hpos
  have hcases := @roundHalfEven_cases numerator denominator
  generalize roundHalfEven numerator denominator = rounded at hcases ⊢
  generalize numerator / denominator = quotient at hcases hdivision
  generalize numerator % denominator = rest at hcases hdivision hrest
  -- Everything is measured from the multiple at the quotient rounded down.
  have hoffset : ∀ integer : ℕ, (integer : ℤ) * denominator - numerator =
      ((integer : ℤ) - quotient) * denominator - rest := by
    intro integer
    rw [← hdivision]
    push_cast
    ring
  have hother := multiple_cases quotient other denominator
  have hrounded := multiple_cases quotient rounded denominator
  rw [hoffset, hoffset]
  generalize ((other : ℤ) - quotient) * denominator = distance at hother ⊢
  generalize ((rounded : ℤ) - quotient) * denominator = chosen at hrounded ⊢
  clear hdivision hoffset
  simp only [Int.abs_eq_natAbs]
  constructor
  · omega
  · intro hequal hne
    omega

/-- No integer is nearer to a quotient than the rounded one, which is even if another is as
near. -/
theorem roundHalfEven_nearer (numerator : Nat) {denominator : Nat} (hpos : 0 < denominator)
    (other : Nat) :
    Nearer (roundHalfEven numerator denominator) other (numerator / denominator)
      (roundHalfEven numerator denominator % 2 = 0) := by
  have hcast : (0 : ℚ) < denominator := Nat.cast_pos.2 hpos
  have hdistance : ∀ integer : ℕ, |(integer : ℚ) - numerator / denominator| =
      ((|(integer : ℤ) * denominator - numerator| : ℤ) : ℚ) / denominator := by
    intro integer
    push_cast
    rw [eq_div_iff hcast.ne', ← abs_of_pos hcast, ← abs_mul, abs_of_pos hcast, sub_mul,
      div_mul_cancel₀ _ hcast.ne']
  have hintegers := roundHalfEven_integers numerator hpos other
  constructor
  · rw [hdistance, hdistance]
    exact div_le_div_of_nonneg_right (Int.cast_le.2 hintegers.1) hcast.le
  · rw [hdistance, hdistance, div_left_inj' hcast.ne', Int.cast_inj]
    intro hequal hne
    exact hintegers.2 hequal fun h => hne (by rw [h])

/-! ### The unit of the last place -/

theorem scaleDown_of_nonneg (numerator denominator bits : Nat) :
    scaleDown numerator denominator bits = (numerator, denominator * 2 ^ bits) :=
  if_pos (Int.natCast_nonneg bits)

theorem scaleDown_of_neg (numerator denominator bits : Nat) :
    scaleDown numerator denominator (Int.negSucc bits) =
      (numerator * 2 ^ (bits + 1), denominator) :=
  if_neg (by omega)

theorem scaleDown_pos (numerator : Nat) {denominator : Nat} (hpos : 0 < denominator) (shift : Int) :
    0 < (scaleDown numerator denominator shift).2 := by
  cases shift with
  | ofNat bits =>
    rw [Int.ofNat_eq_natCast, scaleDown_of_nonneg]
    exact Nat.mul_pos hpos (Nat.pow_pos (by decide))
  | negSucc bits =>
    rw [scaleDown_of_neg]
    exact hpos

theorem scaleDown_exact (numerator : Nat) {denominator : Nat} (hpos : 0 < denominator)
    (shift : Int) :
    ((scaleDown numerator denominator shift).1 : ℚ) / (scaleDown numerator denominator shift).2 =
      numerator / denominator / 2 ^ shift := by
  have hdenominator : (denominator : ℚ) ≠ 0 := Nat.cast_ne_zero.2 hpos.ne'
  cases shift with
  | ofNat bits =>
    rw [Int.ofNat_eq_natCast, scaleDown_of_nonneg, zpow_natCast, div_div]
    push_cast
    rfl
  | negSucc bits =>
    rw [scaleDown_of_neg, zpow_negSucc, div_inv_eq_mul, div_mul_eq_mul_div]
    push_cast
    rfl

/-- The unit of a quotient by the lengths of the two numbers. It is the right one or the next one
above. -/
def guessedUnit (numerator denominator : Nat) : Int :=
  (numerator.log2 : Int) - denominator.log2 - 52

/-- The exponent that a quotient is rounded at. -/
def unitExponent (numerator denominator : Nat) : Int :=
  let guess := guessedUnit numerator denominator
  let (top, bottom) := scaleDown numerator denominator guess
  max (if top / bottom < 2 ^ 52 then guess - 1 else guess) (-1074)

theorem pow_log2_le {number : Nat} (hne : number ≠ 0) : (2 : ℚ) ^ (number.log2 : ℤ) ≤ number := by
  rw [zpow_natCast]
  exact_mod_cast Nat.log2_self_le hne

theorem lt_pow_log2 (number : Nat) : (number : ℚ) < 2 * 2 ^ (number.log2 : ℤ) := by
  rw [zpow_natCast, ← pow_succ']
  exact_mod_cast Nat.lt_log2_self

section Unit

variable {numerator denominator : Nat}

theorem guessedUnit_bounds (hne : numerator ≠ 0) (hpos : 0 < denominator) :
    2 ^ 52 * 2 ^ (guessedUnit numerator denominator - 1) ≤ (numerator : ℚ) / denominator ∧
      (numerator : ℚ) / denominator < 2 ^ 53 * 2 ^ guessedUnit numerator denominator := by
  have hdenominator : (0 : ℚ) < denominator := Nat.cast_pos.2 hpos
  have htwo : (2 : ℚ) ≠ 0 := by norm_num
  have hsplit : (2 : ℚ) ^ (numerator.log2 : ℤ) =
      2 ^ 52 * 2 ^ guessedUnit numerator denominator * 2 ^ (denominator.log2 : ℤ) := by
    rw [← zpow_natCast (2 : ℚ) 52, ← zpow_add₀ htwo, ← zpow_add₀ htwo, guessedUnit]
    congr 1
    omega
  generalize guessedUnit numerator denominator = guess at hsplit ⊢
  constructor
  · rw [le_div_iff₀ hdenominator, zpow_sub_one₀ htwo]
    calc 2 ^ 52 * (2 ^ guess * 2⁻¹) * (denominator : ℚ)
        ≤ 2 ^ 52 * (2 ^ guess * 2⁻¹) * (2 * 2 ^ (denominator.log2 : ℤ)) := by
          gcongr
          exact (lt_pow_log2 denominator).le
      _ = 2 ^ (numerator.log2 : ℤ) := by rw [hsplit]; ring
      _ ≤ numerator := pow_log2_le hne
  · rw [div_lt_iff₀ hdenominator]
    calc (numerator : ℚ) < 2 * 2 ^ (numerator.log2 : ℤ) := lt_pow_log2 numerator
      _ = 2 ^ 53 * 2 ^ guess * 2 ^ (denominator.log2 : ℤ) := by rw [hsplit]; ring
      _ ≤ 2 ^ 53 * 2 ^ guess * denominator := by
        gcongr
        exact pow_log2_le hpos.ne'

/-- The test for too large a unit, without rounding down. -/
theorem scaleDown_lt_iff (hpos : 0 < denominator) (shift : Int) :
    (scaleDown numerator denominator shift).1 / (scaleDown numerator denominator shift).2 < 2 ^ 52 ↔
      (numerator : ℚ) / denominator < 2 ^ 52 * 2 ^ shift := by
  have hunit : (0 : ℚ) < 2 ^ shift := zpow_pos (by norm_num) _
  have hbottom := scaleDown_pos numerator hpos shift
  rw [Nat.div_lt_iff_lt_mul hbottom, ← div_lt_iff₀ hunit, ← scaleDown_exact numerator hpos,
    div_lt_iff₀ (Nat.cast_pos.2 hbottom)]
  exact_mod_cast Iff.rfl

/-- The quotient fills the 53 bits above its unit, unless the unit is the least one. -/
theorem unitExponent_spec (hne : numerator ≠ 0) (hpos : 0 < denominator) :
    -1074 ≤ unitExponent numerator denominator ∧
      (numerator : ℚ) / denominator < 2 ^ 53 * 2 ^ unitExponent numerator denominator ∧
      (2 ^ 52 * 2 ^ unitExponent numerator denominator ≤ (numerator : ℚ) / denominator ∨
        unitExponent numerator denominator = -1074) := by
  obtain ⟨hbelow, habove⟩ := guessedUnit_bounds hne hpos
  have hunfold : unitExponent numerator denominator =
      max (if (numerator : ℚ) / denominator < 2 ^ 52 * 2 ^ guessedUnit numerator denominator then
        guessedUnit numerator denominator - 1 else guessedUnit numerator denominator) (-1074) := by
    simp only [← scaleDown_lt_iff hpos]
    rfl
  generalize guessedUnit numerator denominator = guess at hbelow habove hunfold
  generalize (numerator : ℚ) / denominator = quotient at hbelow habove hunfold ⊢
  rw [hunfold]
  have hfits : ∀ exponent, (if quotient < 2 ^ 52 * 2 ^ guess then guess - 1 else guess) = exponent →
      quotient < 2 ^ 53 * 2 ^ exponent ∧ 2 ^ 52 * 2 ^ exponent ≤ quotient := by
    rintro _ rfl
    split
    · rename_i hlow
      refine ⟨?_, hbelow⟩
      rw [zpow_sub_one₀ (by norm_num)]
      linarith
    · rename_i hhigh
      exact ⟨habove, not_lt.1 hhigh⟩
  obtain ⟨hlt, hle⟩ := hfits _ rfl
  generalize (if quotient < 2 ^ 52 * 2 ^ guess then guess - 1 else guess) = exponent at hlt hle ⊢
  rcases le_total (-1074) exponent with hexponent | hexponent
  · rw [max_eq_left hexponent]
    exact ⟨hexponent, hlt, .inl hle⟩
  · rw [max_eq_right hexponent]
    refine ⟨le_rfl, hlt.trans_le ?_, .inr rfl⟩
    gcongr
    norm_num

end Unit

/-! ### Nearest doubles -/

/-- Half a unit above the largest double. -/
def overflow : ℚ :=
  (2 ^ 53 - 1 / 2) * 2 ^ 971

/-- The integer that a quotient is rounded to, counted in its units. -/
def roundedUnits (numerator denominator : Nat) : Nat :=
  let (top, bottom) := scaleDown numerator denominator (unitExponent numerator denominator)
  roundHalfEven top bottom

section Units

variable {numerator denominator : Nat}

theorem roundedUnits_nearer (hpos : 0 < denominator) (other : Nat) :
    Nearer (roundedUnits numerator denominator * 2 ^ unitExponent numerator denominator)
      (other * 2 ^ unitExponent numerator denominator) (numerator / denominator)
      (roundedUnits numerator denominator % 2 = 0) := by
  have hunit : (0 : ℚ) < 2 ^ unitExponent numerator denominator := zpow_pos (by norm_num) _
  have hnearer := (roundHalfEven_nearer
    (scaleDown numerator denominator (unitExponent numerator denominator)).1
    (scaleDown_pos numerator hpos (unitExponent numerator denominator)) other).scale hunit
  rw [scaleDown_exact numerator hpos, div_mul_cancel₀ _ hunit.ne'] at hnearer
  exact hnearer

/-- Every finite double that is not negative is at least as far from the quotient. -/
theorem roundedUnits_nearer_scaled (hne : numerator ≠ 0) (hpos : 0 < denominator)
    {mantissa : Nat} {exponent : Int} (hscaled : IsScaled mantissa exponent) :
    Nearer (roundedUnits numerator denominator * 2 ^ unitExponent numerator denominator)
      (mantissa * 2 ^ exponent) (numerator / denominator)
      (roundedUnits numerator denominator % 2 = 0) := by
  have htwo : (2 : ℚ) ≠ 0 := by norm_num
  obtain ⟨hleast, -, hfull⟩ := unitExponent_spec hne hpos
  have hnearer := @roundedUnits_nearer numerator _ hpos
  have hunit : (0 : ℚ) < 2 ^ unitExponent numerator denominator := zpow_pos (by norm_num) _
  generalize unitExponent numerator denominator = unit at *
  rcases le_or_gt unit exponent with hle | hlt
  · -- The double is a multiple of the unit.
    obtain ⟨bits, rfl⟩ := Int.le.dest hle
    have hmultiple : (mantissa : ℚ) * 2 ^ (unit + bits) =
        ((mantissa * 2 ^ bits : ℕ) : ℚ) * 2 ^ unit := by
      rw [zpow_add₀ htwo, zpow_natCast]
      push_cast
      ring
    rw [hmultiple]
    exact hnearer _
  · -- The double lies below all quotients that are rounded at this unit.
    have hquotient := hfull.resolve_right (by have := hscaled.least; omega)
    have hbelow : (mantissa : ℚ) * 2 ^ exponent < 2 ^ 52 * 2 ^ unit := by
      calc (mantissa : ℚ) * 2 ^ exponent < 2 ^ 53 * 2 ^ exponent := by
            gcongr
            exact_mod_cast hscaled.short
        _ ≤ 2 ^ 53 * 2 ^ (unit - 1) := by
            gcongr
            · norm_num
            · omega
        _ = 2 ^ 52 * 2 ^ unit := by
            rw [zpow_sub_one₀ htwo]
            ring
    have hstrict : |(roundedUnits numerator denominator : ℚ) * 2 ^ unit - numerator / denominator| <
        |(mantissa : ℚ) * 2 ^ exponent - numerator / denominator| := by
      refine (hnearer (2 ^ 52)).le.trans_lt ?_
      push_cast
      rw [abs_of_nonpos (by linarith), abs_of_nonpos (by linarith)]
      linarith
    exact ⟨hstrict.le, fun hequal => absurd hequal hstrict.ne⟩

theorem roundedUnits_le (hne : numerator ≠ 0) (hpos : 0 < denominator) :
    roundedUnits numerator denominator ≤ 2 ^ 53 := by
  obtain ⟨-, hbelow, -⟩ := unitExponent_spec hne hpos
  have hunit : (0 : ℚ) < 2 ^ unitExponent numerator denominator := zpow_pos (by norm_num) _
  have hnearer := (@roundedUnits_nearer numerator _ hpos (2 ^ 53)).le
  rw [Nat.cast_pow, Nat.cast_ofNat, abs_of_pos (sub_pos.2 hbelow)] at hnearer
  have hunits := sub_le_sub_iff_right _ |>.1 ((le_abs_self _).trans hnearer)
  exact_mod_cast le_of_mul_le_mul_right hunits hunit

theorem le_roundedUnits (hne : numerator ≠ 0) (hpos : 0 < denominator) :
    2 ^ 52 ≤ roundedUnits numerator denominator ∨
      unitExponent numerator denominator = -1074 := by
  obtain ⟨-, -, hfull⟩ := unitExponent_spec hne hpos
  refine hfull.imp_left fun hle => ?_
  have hunit : (0 : ℚ) < 2 ^ unitExponent numerator denominator := zpow_pos (by norm_num) _
  have hnearer := (@roundedUnits_nearer numerator _ hpos (2 ^ 52)).le
  rw [Nat.cast_pow, Nat.cast_ofNat, abs_of_nonpos (sub_nonpos.2 hle)] at hnearer
  have hunits := neg_le_neg_iff.1 ((neg_le_abs _).trans hnearer)
  exact_mod_cast le_of_mul_le_mul_right (sub_le_sub_iff_right _ |>.1 hunits) hunit

theorem nearestBits_eq (hne : numerator ≠ 0) :
    nearestBits numerator denominator =
      let bits := (unitExponent numerator denominator + 1074).toNat * 2 ^ 52 +
        roundedUnits numerator denominator
      if bits < 2047 * 2 ^ 52 then some bits else none :=
  if_neg hne

/-- At the largest exponent a quotient is rounded up to a power of two from half a unit below it
on. -/
theorem roundedUnits_eq_iff (hne : numerator ≠ 0) (hpos : 0 < denominator) :
    roundedUnits numerator denominator = 2 ^ 53 ↔
      (2 ^ 53 - 1 / 2) * 2 ^ unitExponent numerator denominator ≤
        (numerator : ℚ) / denominator := by
  obtain ⟨-, hbelow, -⟩ := unitExponent_spec hne hpos
  have hunit : (0 : ℚ) < 2 ^ unitExponent numerator denominator := zpow_pos (by norm_num) _
  have hle := roundedUnits_le hne hpos
  have hnearer := @roundedUnits_nearer numerator _ hpos
  generalize (2 : ℚ) ^ unitExponent numerator denominator = unit at *
  generalize (numerator : ℚ) / denominator = quotient at *
  generalize roundedUnits numerator denominator = units at *
  constructor
  · rintro rfl
    have hdistance := (hnearer (2 ^ 53 - 1)).le
    rw [Nat.cast_sub (by norm_num), Nat.cast_pow, Nat.cast_ofNat, Nat.cast_one,
      abs_of_pos (sub_pos.2 hbelow), le_abs] at hdistance
    rcases hdistance with hdistance | hdistance
    · linarith
    · linarith
  · intro hhalf
    by_contra hne
    have hpred : (units : ℚ) ≤ 2 ^ 53 - 1 := by
      have hlt : units + 1 ≤ 2 ^ 53 := by omega
      rw [le_sub_iff_add_le]
      exact_mod_cast hlt
    have hunits : units * unit ≤ (2 ^ 53 - 1) * unit := mul_le_mul_of_nonneg_right hpred hunit.le
    obtain ⟨hdistance, htie⟩ := hnearer (2 ^ 53)
    rw [Nat.cast_pow, Nat.cast_ofNat, abs_of_pos (sub_pos.2 hbelow),
      abs_of_nonpos (by linarith)] at hdistance htie
    -- The only integer left is odd and as near as the power of two.
    have hlast : units * unit = (2 ^ 53 - 1) * unit := by linarith
    have hodd : units = 2 ^ 53 - 1 := by
      have hcast : (units : ℚ) = ((2 ^ 53 - 1 : ℕ) : ℚ) := by
        rw [mul_right_cancel₀ hunit.ne' hlast]
        norm_num
      exact_mod_cast hcast
    have heven := htie (by linarith) (by intro h; linarith)
    omega

/-- A quotient half a unit above the largest double, or more, has no nearest double. -/
theorem nearestBits_eq_none_iff (hne : numerator ≠ 0) (hpos : 0 < denominator) :
    nearestBits numerator denominator = none ↔ overflow ≤ (numerator : ℚ) / denominator := by
  unfold overflow
  obtain ⟨hleast, hbelow, hfull⟩ := unitExponent_spec hne hpos
  have hle := roundedUnits_le hne hpos
  have hge := le_roundedUnits hne hpos
  have hlast := roundedUnits_eq_iff hne hpos
  have hlower : ∀ power : ℚ, 0 < power → 2 ^ 53 * power < (2 ^ 53 - 1 / 2) * (power * 2) := by
    intro power hpower
    linarith
  have hupper : ∀ power : ℚ, 0 < power → (2 ^ 53 - 1 / 2) * power ≤ 2 ^ 52 * (power * 2) := by
    intro power hpower
    linarith
  rw [nearestBits_eq hne]
  simp only [ite_eq_right_iff, reduceCtorEq, imp_false, not_lt]
  generalize unitExponent numerator denominator = unit at *
  generalize roundedUnits numerator denominator = units at *
  -- The largest doubles are multiples of 2 ^ 971.
  rcases lt_trichotomy unit 971 with hlt | rfl | hgt
  · refine iff_of_false (by omega) (not_le.2 (hbelow.trans ?_))
    calc (2 : ℚ) ^ 53 * 2 ^ unit ≤ 2 ^ 53 * 2 ^ (970 : ℤ) := by
          gcongr
          · norm_num
          · omega
      _ < (2 ^ 53 - 1 / 2) * 2 ^ 971 := by
          rw [pow_succ _ 970, zpow_ofNat]
          exact hlower _ (by positivity)
  · rw [zpow_ofNat] at hlast
    rw [← hlast]
    omega
  · refine iff_of_true (by omega) ?_
    have hquotient := hfull.resolve_right (by omega)
    calc ((2 : ℚ) ^ 53 - 1 / 2) * 2 ^ 971 ≤ 2 ^ 52 * 2 ^ (972 : ℤ) := by
          rw [zpow_ofNat, pow_succ _ 971]
          exact hupper _ (by positivity)
      _ ≤ 2 ^ 52 * 2 ^ unit := by
          gcongr
          · norm_num
          · omega
      _ ≤ (numerator : ℚ) / denominator := hquotient

end Units

/-- The double `x` is the rounded `target`: no double is nearer, and if another is as near, the
mantissa of `x` is even. -/
def IsNearest (x : Float) (target : ℚ) : Prop :=
  ∃ value, toRat? x = some value ∧ ∀ other otherValue, toRat? other = some otherValue →
    Nearer value otherValue target (HasEvenMantissa x)

theorem Nearer.neg {value other target : ℚ} {even : Prop}
    (hnearer : Nearer value other target even) : Nearer (-value) (-other) (-target) even := by
  have hdistance : ∀ number : ℚ, |(-number) - (-target)| = |number - target| := by
    intro number
    rw [neg_sub_neg, abs_sub_comm]
  constructor
  · rw [hdistance, hdistance]
    exact hnearer.le
  · rw [hdistance, hdistance]
    exact fun hequal hne => hnearer.tie hequal fun h => hne (by rw [h])

/-- A number is nearer to a positive target than its negation. -/
theorem Nearer.neg_other {value other target : ℚ} {even : Prop}
    (hnearer : Nearer value other target even) (hother : 0 ≤ other) (htarget : 0 < target) :
    Nearer value (-other) target even := by
  have hfar : |other - target| ≤ |(-other) - target| := by
    rw [abs_of_nonpos (show -other - target ≤ 0 by linarith)]
    exact abs_le.2 ⟨by linarith, by linarith⟩
  refine ⟨hnearer.le.trans hfar, fun hequal hne => ?_⟩
  have hfarther : |(-other) - target| = other + target := by
    rw [abs_of_nonpos (by linarith)]
    ring
  have hsame : |other - target| = other + target :=
    le_antisymm (hfarther ▸ hfar) (hfarther ▸ hequal ▸ hnearer.le)
  have hzero : other = 0 := by
    rcases abs_choice (other - target) with h | h
    · linarith
    · linarith
  subst hzero
  rw [neg_zero] at hequal hne
  exact hnearer.tie hequal hne

theorem signed_mul (negative : Bool) (mantissa : Nat) (scale : ℚ) :
    (signed negative mantissa : ℚ) * scale =
      if negative then -(mantissa * scale) else mantissa * scale := by
  cases negative with
  | false =>
    change ((mantissa : ℤ) : ℚ) * scale = mantissa * scale
    push_cast
    rfl
  | true =>
    change ((-mantissa : ℤ) : ℚ) * scale = -(mantissa * scale)
    push_cast
    ring

theorem toRat?_of_unpack {x : Float} {negative : Bool} {mantissa : Nat} {exponent : Int}
    (hunpack : unpack x = .finite negative mantissa exponent) :
    toRat? x =
      some (if negative then -((mantissa : ℚ) * 2 ^ exponent) else mantissa * 2 ^ exponent) := by
  rw [toRat?, hunpack, ← signed_mul]

theorem unpack_of_nearestBits (negative : Bool) {numerator denominator bits : Nat}
    (hne : numerator ≠ 0) (hpos : 0 < denominator)
    (hbits : nearestBits numerator denominator = some bits) :
    FiniteBits bits ∧ ∃ (mantissa : Nat) (exponent : Int),
      unpack (ofBits negative bits) = .finite negative mantissa exponent ∧
      (mantissa : ℚ) * 2 ^ exponent =
        roundedUnits numerator denominator * 2 ^ unitExponent numerator denominator ∧
      mantissa % 2 = roundedUnits numerator denominator % 2 := by
  obtain ⟨hleast, -, -⟩ := unitExponent_spec hne hpos
  rw [nearestBits_eq hne] at hbits
  obtain ⟨hfinite, hbits⟩ := Option.ite_none_right_eq_some.1 hbits
  rw [Option.some.injEq] at hbits
  subst hbits
  have hunpack := unpack_ofBits_scaled negative hfinite (roundedUnits_le hne hpos)
    ((le_roundedUnits hne hpos).imp_right fun h => by omega)
  have hunit : (((unitExponent numerator denominator + 1074).toNat : ℤ) - 1074) =
      unitExponent numerator denominator := by omega
  rw [hunit] at hunpack
  exact ⟨hfinite, hunpack⟩

/-- The double nearest to a quotient that is not zero. -/
theorem isNearest_ofBits (negative : Bool) {numerator denominator bits : Nat}
    (hne : numerator ≠ 0) (hpos : 0 < denominator)
    (hbits : nearestBits numerator denominator = some bits) :
    FiniteBits bits ∧ IsNearest (ofBits negative bits)
      (if negative then -((numerator : ℚ) / denominator) else numerator / denominator) := by
  obtain ⟨hfinite, mantissa, exponent, hunpack, hvalue, hparity⟩ :=
    unpack_of_nearestBits negative hne hpos hbits
  refine ⟨hfinite, _, toRat?_of_unpack hunpack, fun other otherValue hother => ?_⟩
  obtain ⟨otherNegative, otherMantissa, otherExponent, hscaled, rfl⟩ := exists_of_toRat? hother
  have hquotient : (0 : ℚ) < numerator / denominator :=
    div_pos (Nat.cast_pos.2 (Nat.pos_of_ne_zero hne)) (Nat.cast_pos.2 hpos)
  have hpositive : Nearer ((mantissa : ℚ) * 2 ^ exponent) (otherMantissa * 2 ^ otherExponent)
      (numerator / denominator) (mantissa % 2 = 0) := by
    rw [hvalue, hparity]
    exact roundedUnits_nearer_scaled hne hpos hscaled
  have hboth := hpositive.neg_other (by positivity) hquotient
  refine Nearer.imp ?_ fun heven => ⟨negative, mantissa, exponent, hunpack, heven⟩
  rw [signed_mul]
  cases negative with
  | false =>
    cases otherNegative with
    | false => exact hpositive
    | true => exact hboth
  | true =>
    cases otherNegative with
    | false =>
      have hflipped := hboth.neg
      rw [neg_neg] at hflipped
      exact hflipped
    | true => exact hpositive.neg

theorem toRat?_zero (negative : Bool) : toRat? (ofBits negative 0) = some 0 := by
  have hunpack := unpack_ofBits negative (show 0 < 2047 * 2 ^ 52 by decide)
  rw [toRat?_of_unpack hunpack]
  simp

theorem isNearest_zero (negative : Bool) : IsNearest (ofBits negative 0) 0 := by
  refine ⟨0, toRat?_zero negative, fun other otherValue hother => ⟨?_, fun hequal hne => ?_⟩⟩
  · rw [sub_self, abs_zero]
    exact abs_nonneg _
  · rw [sub_self, abs_zero, eq_comm, abs_eq_zero, sub_zero] at hequal
    exact absurd hequal hne

theorem div_eq_signed (left right : Int) :
    (left : ℚ) / right = if (decide (left < 0) != decide (right < 0)) = true then
      -((left.natAbs : ℚ) / right.natAbs) else left.natAbs / right.natAbs := by
  simp only [Nat.cast_natAbs, Int.cast_abs]
  rcases lt_or_ge left 0 with hleft | hleft <;> rcases lt_or_ge right 0 with hright | hright
  · rw [abs_of_neg (Int.cast_lt_zero.2 hleft), abs_of_neg (Int.cast_lt_zero.2 hright)]
    simp [hleft, hright]
  · rw [abs_of_neg (Int.cast_lt_zero.2 hleft), abs_of_nonneg (Int.cast_nonneg hright)]
    simp [hleft, hright.not_gt, neg_div]
  · rw [abs_of_nonneg (Int.cast_nonneg hleft), abs_of_neg (Int.cast_lt_zero.2 hright)]
    simp [hleft.not_gt, hright, div_neg]
  · rw [abs_of_nonneg (Int.cast_nonneg hleft), abs_of_nonneg (Int.cast_nonneg hright)]
    simp [hleft.not_gt, hright.not_gt]

theorem abs_div_eq (left right : Int) :
    |(left : ℚ) / right| = (left.natAbs : ℚ) / right.natAbs := by
  rw [abs_div, Nat.cast_natAbs, Nat.cast_natAbs, Int.cast_abs, Int.cast_abs]

theorem overflow_pos : 0 < overflow :=
  mul_pos (by norm_num) (by positivity)

/-- The quotient of two integers as a double: the nearest one, or none from half a unit above the
largest double on. -/
theorem divideInts_spec (left : Int) {right : Int} (hright : right ≠ 0) :
    (∃ x, divideInts left right = some x ∧ x.isNaN = false ∧ IsNearest x (left / right) ∧
        |(left : ℚ) / right| < overflow) ∨
      divideInts left right = none ∧ overflow ≤ |(left : ℚ) / right| := by
  rcases eq_or_ne left 0 with rfl | hleft
  · left
    refine ⟨ofBits _ 0, rfl, isNaN_ofBits_of_finite _ (show 0 < 2047 * 2 ^ 52 by decide), ?_, ?_⟩
    · rw [Int.cast_zero, zero_div]
      exact isNearest_zero _
    · rw [Int.cast_zero, zero_div, abs_zero]
      exact overflow_pos
  have hnumerator : left.natAbs ≠ 0 := Int.natAbs_ne_zero.2 hleft
  have hdenominator : 0 < right.natAbs := Int.natAbs_pos.2 hright
  have hoverflow := nearestBits_eq_none_iff hnumerator hdenominator
  rw [← abs_div_eq] at hoverflow
  unfold divideInts nearest
  cases hbits : nearestBits left.natAbs right.natAbs with
  | none => exact .inr ⟨rfl, hoverflow.1 hbits⟩
  | some bits =>
    obtain ⟨hfinite, hnearest⟩ := isNearest_ofBits
      (decide (left < 0) != decide (right < 0)) hnumerator hdenominator hbits
    rw [← div_eq_signed] at hnearest
    refine .inl ⟨_, rfl, isNaN_ofBits_of_finite _ hfinite, hnearest, not_le.1 fun hle => ?_⟩
    rw [hoverflow.2 hle] at hbits
    cases hbits

/-! ### Integers that are doubles -/

theorem roundedUnits_of_short {number : Nat} (hne : number ≠ 0) (hshort : number < 2 ^ 53) :
    (roundedUnits number 1 : ℚ) * 2 ^ unitExponent number 1 = number := by
  obtain ⟨-, -, hfull⟩ := unitExponent_spec hne Nat.one_pos
  -- The unit is at most one, so that the number is a multiple of it.
  have hunit : unitExponent number 1 ≤ 0 := by
    rcases hfull with hfull | hleast
    · by_contra hpositive
      have hlarge : (2 : ℚ) ^ 53 ≤ 2 ^ 52 * 2 ^ unitExponent number 1 := by
        calc (2 : ℚ) ^ 53 = 2 ^ 52 * 2 ^ (1 : ℤ) := by norm_num
          _ ≤ 2 ^ 52 * 2 ^ unitExponent number 1 := by
            gcongr
            · norm_num
            · omega
      rw [Nat.cast_one, div_one] at hfull
      exact absurd (hlarge.trans hfull) (not_le.2 (by exact_mod_cast hshort))
    · omega
  obtain ⟨bits, hbits⟩ := Int.eq_ofNat_of_zero_le (neg_nonneg.2 hunit)
  have hnearer := (@roundedUnits_nearer number _ Nat.one_pos (number * 2 ^ bits)).le
  have hmultiple : ((number * 2 ^ bits : ℕ) : ℚ) * 2 ^ unitExponent number 1 = number := by
    rw [← neg_neg (unitExponent number 1), hbits, zpow_neg, zpow_natCast]
    push_cast
    exact mul_inv_cancel_right₀ (by positivity) _
  rw [hmultiple, Nat.cast_one, div_one, sub_self, abs_zero] at hnearer
  exact sub_eq_zero.1 (abs_eq_zero.1 (le_antisymm hnearer (abs_nonneg _)))

theorem lt_overflow {number : Nat} (hshort : number < 2 ^ 53) : (number : ℚ) / 1 < overflow := by
  have hhalf : (number : ℚ) ≤ 2 ^ 53 - 1 := by
    rw [le_sub_iff_add_le]
    exact_mod_cast hshort
  have hpower : (1 : ℚ) ≤ 2 ^ 971 := one_le_pow₀ (by norm_num)
  calc (number : ℚ) / 1 < 2 ^ 53 - 1 / 2 := by linarith
    _ ≤ overflow := le_mul_of_one_le_right (by norm_num) hpower

theorem exists_toRat?_eq {number : Int} (hshort : |number| < 2 ^ 53) :
    ∃ x, toRat? x = some (number : ℚ) := by
  rcases eq_or_ne number 0 with rfl | hne
  · exact ⟨_, toRat?_zero false⟩
  have hnatAbs : number.natAbs ≠ 0 := Int.natAbs_ne_zero.2 hne
  have hless : number.natAbs < 2 ^ 53 := by
    rw [Int.abs_eq_natAbs] at hshort
    omega
  have hfound : nearestBits number.natAbs 1 ≠ none := fun hnone =>
    absurd ((nearestBits_eq_none_iff hnatAbs Nat.one_pos).1 hnone)
      (not_le.2 (by exact_mod_cast lt_overflow hless))
  obtain ⟨bits, hbits⟩ := Option.ne_none_iff_exists'.1 hfound
  obtain ⟨-, mantissa, exponent, hunpack, hvalue, -⟩ :=
    unpack_of_nearestBits (decide (number < 0)) hnatAbs Nat.one_pos hbits
  refine ⟨_, (toRat?_of_unpack hunpack).trans ?_⟩
  rw [hvalue, roundedUnits_of_short hnatAbs hless, Nat.cast_natAbs, Int.cast_abs]
  rcases lt_or_ge number 0 with hnegative | hnonneg
  · rw [if_pos (decide_eq_true hnegative), abs_of_neg (Int.cast_lt_zero.2 hnegative), neg_neg]
  · rw [if_neg (by simpa using hnonneg), abs_of_nonneg (Int.cast_nonneg hnonneg)]

theorem IsNearest.toRat?_eq {x : Float} {number : Int} (hnearest : IsNearest x number)
    (hshort : |number| < 2 ^ 53) : toRat? x = some (number : ℚ) := by
  obtain ⟨value, hvalue, hnearer⟩ := hnearest
  obtain ⟨other, hother⟩ := exists_toRat?_eq hshort
  have hdistance := (hnearer other _ hother).le
  rw [sub_self, abs_zero] at hdistance
  rw [hvalue, sub_eq_zero.1 (abs_eq_zero.1 (le_antisymm hdistance (abs_nonneg _)))]

end Dalvik.Number
