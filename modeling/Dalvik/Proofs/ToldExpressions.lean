import Dalvik.Expr.Eval
import Dalvik.Proofs.ToldFaults

/-!
# Numbers, texts that are filled in, and literals have told faults

Arithmetic, conversions in texts and literals never ask a table for a key that cannot be shown: the
names of arguments in a text are texts themselves.
-/

namespace Dalvik

/-! ### Numbers -/

namespace Numeric

theorem toFloat_told (number : Numeric) : Told number.toFloat := by
  unfold toFloat
  split
  · split
    · exact told_ok _
    · exact sound_error rfl
  · exact told_ok _
  · exact told_ok _

theorem toComplex_told (number : Numeric) : Told number.toComplex := by
  unfold toComplex
  split
  · exact told_ok _
  · exact (toFloat_told number).map fun _ => trivial

section

variable {onInts : Int → Int → Except Fault Numeric}
  {onFloats : Float → Float → Except Fault Numeric}
  (hints : ∀ m n, Told (onInts m n)) (hfloats : ∀ x y, Told (onFloats x y))

include hints hfloats

theorem lift_told {onComplex : Float × Float → Float × Float → Except Fault Numeric}
    (hcomplex : ∀ x y, Told (onComplex x y)) (left right : Numeric) :
    Told (lift onInts onFloats onComplex left right) := by
  unfold lift
  split
  · exact hints _ _
  · exact (toComplex_told _).bind fun _ => (toComplex_told _).bind fun _ => hcomplex _ _
  · exact (toComplex_told _).bind fun _ => (toComplex_told _).bind fun _ => hcomplex _ _
  · exact (toFloat_told _).bind fun _ => (toFloat_told _).bind fun _ => hfloats _ _

theorem liftReal_told {refusal : Fault} (hrefusal : refusal.isTold = true)
    (left right : Numeric) : Told (liftReal refusal onInts onFloats left right) := by
  unfold liftReal
  split
  · exact sound_error hrefusal
  · exact sound_error hrefusal
  · exact lift_told hints hfloats (fun _ _ => sound_error hrefusal) left right

end

theorem add_told (left right : Numeric) : Told (left.add right) :=
  lift_told (fun _ _ => told_ok _) (fun _ _ => told_ok _) (fun _ _ => told_ok _) left right

theorem sub_told (left right : Numeric) : Told (left.sub right) :=
  lift_told (fun _ _ => told_ok _) (fun _ _ => told_ok _) (fun _ _ => told_ok _) left right

theorem mul_told (left right : Numeric) : Told (left.mul right) :=
  lift_told (fun _ _ => told_ok _) (fun _ _ => told_ok _) (fun _ _ => told_ok _) left right

theorem divideComplex_told (left right : Float × Float) : Told (divideComplex left right) := by
  unfold divideComplex
  dsimp only
  split
  · exact sound_error rfl
  · split
    · exact told_ok _
    · split <;> exact told_ok _

theorem div_told (left right : Numeric) : Told (left.div right) := by
  refine lift_told (fun m n => ?_) (fun x y => ?_) (fun x y => ?_) left right
  · split
    · exact sound_error rfl
    · split
      · exact told_ok _
      · exact sound_error rfl
  · split
    · exact sound_error rfl
    · exact told_ok _
  · exact (divideComplex_told x y).bind fun _ => told_ok _

section

variable {refusal : Fault} (hrefusal : refusal.isTold = true)

include hrefusal

theorem floorDiv_told (left right : Numeric) : Told (floorDiv refusal left right) := by
  refine liftReal_told (fun m n => ?_) (fun x y => ?_) hrefusal left right
  all_goals
    split
    · exact sound_error rfl
    · exact told_ok _

theorem mod_told (left right : Numeric) : Told (mod refusal left right) := by
  refine liftReal_told (fun m n => ?_) (fun x y => ?_) hrefusal left right
  all_goals
    split
    · exact sound_error rfl
    · exact told_ok _

end

theorem polarPower_told (base exponent : Float × Float) : Told (polarPower base exponent) := by
  unfold polarPower
  dsimp only
  split
  · exact told_ok _
  · split
    · split
      · exact sound_error rfl
      · exact told_ok _
    · exact Meets.ite (sound_error rfl) (told_ok _)

theorem powComplex_told (base exponent : Float × Float) : Told (powComplex base exponent) := by
  have hfinish : ∀ power : Float × Float, Told (if power.1.isInf || power.2.isInf then
      .error .complexPowerTooLarge else pure (Numeric.complex power.1 power.2)) :=
    fun _ => Meets.ite (sound_error rfl) (told_ok _)
  unfold powComplex
  dsimp only
  split
  · split
    · exact hfinish _
    · exact (told_mapError _ fun _ => rfl).bind hfinish
  · exact (polarPower_told base exponent).bind hfinish

theorem powFloat_told (x y : Float) : Told (powFloat x y) := by
  unfold powFloat
  dsimp only
  split
  · exact sound_error rfl
  · split
    · exact powComplex_told _ _
    · split
      · exact sound_error rfl
      · exact told_ok _

theorem pow_told (left right : Numeric) : Told (left.pow right) := by
  refine lift_told (fun m n => ?_) powFloat_told powComplex_told left right
  split
  · split
    · exact told_ok _
    · split
      · exact told_ok _
      · exact sound_error rfl
  · exact (toFloat_told _).bind fun _ => (toFloat_told _).bind fun _ => powFloat_told _ _

end Numeric

/-! ### Filled in texts -/

namespace Value

theorem checkDigits_told (spec : Spec) : Told (checkDigits spec) :=
  Meets.ite (sound_error rfl) (Meets.ite (sound_error rfl) (told_ok _))

theorem formatDecimal_told (spec : Spec) (n : Int) : Told (formatDecimal spec n) :=
  (checkDigits_told spec).bind fun _ => (intText_told _).bind fun _ => told_ok _

theorem formatBased_told (spec : Spec) (conversion : Char) (n : Int) :
    Told (formatBased spec conversion n) :=
  (checkDigits_told spec).bind fun _ => told_ok _

theorem formatNumber_told (spec : Spec) (conversion name : Char) (value : Value) :
    Told (formatNumber spec conversion name value) := by
  unfold formatNumber
  split
  case h_4 =>
    split
    · exact formatBased_told spec conversion _
    · exact sound_error rfl
  all_goals
    split
    · exact (truncateFloat_told _).bind fun n => formatDecimal_told spec n
    · split
      · exact formatDecimal_told spec _
      · exact sound_error rfl

theorem formatCharacter_told (spec : Spec) (value : Value) : Told (formatCharacter spec value) := by
  unfold formatCharacter
  split
  · exact Meets.ite (told_ok _) (sound_error rfl)
  · split
    · exact Meets.ite (told_ok _) (sound_error rfl)
    · exact sound_error rfl

theorem formatByte_told (spec : Spec) (value : Value) : Told (formatByte spec value) := by
  unfold formatByte
  split
  · exact told_ok _
  · split
    · exact Meets.ite (told_ok _) (sound_error rfl)
    · exact sound_error rfl

theorem formatBytes_told (spec : Spec) (value : Value) : Told (formatBytes spec value) := by
  unfold formatBytes
  split
  · exact told_ok _
  · exact sound_error rfl

theorem formatAscii_told (heap : Heap) (spec : Spec) (value : Value) :
    Told (formatAscii heap spec value) :=
  (shown_told heap value).bind fun _ => told_ok _

theorem formatReal_told (kind : ValueKind) (spec : Spec) (conversion : Char) (value : Value) :
    Told (formatReal kind spec conversion value) := by
  have hrefusal : (if kind = .bytes then Fault.formatNeedsFloat value.kind
      else .formatNeedsReal value.kind).isTold = true := by
    split <;> rfl
  have hfinish : ∀ x : Float, Told (if spec.precision.getD 0 > maxLength then do
      let _ ← (.error .outOfMemory : Except Fault PUnit)
      pure (formatFloat spec conversion x)
      else pure (formatFloat spec conversion x)) :=
    fun _ => Meets.ite (sound_error rfl) (told_ok _)
  unfold formatReal
  dsimp only
  split
  · exact sound_error hrefusal
  · exact sound_error hrefusal
  · split
    · exact (told_mapError _ fun _ => rfl).bind hfinish
    · exact (Numeric.toFloat_told _).bind hfinish

theorem unknownConversion_isTold (kind : ValueKind) (spec : Spec) (conversion : Char)
    (index : Nat) : (unknownConversion kind spec conversion index).isTold = true := by
  unfold unknownConversion
  dsimp only
  split
  · split <;> rfl
  · rfl

theorem convert_told (heap : Heap) (kind : ValueKind) (spec : Spec) (conversion : Char)
    (index : Nat) (value : Value) : Told (convert heap kind spec conversion index value) := by
  unfold convert
  split
  · exact formatBytes_told spec value
  · exact formatBytes_told spec value
  · exact formatAscii_told heap spec value
  · exact formatAscii_told heap spec value
  · exact (plain_told heap value).bind fun _ => told_ok _
  · exact (shown_told heap value).bind fun _ => told_ok _
  case h_14 | h_15 | h_16 | h_17 | h_18 | h_19 => exact formatReal_told kind spec _ value
  case h_20 => exact formatByte_told spec value
  case h_21 => exact formatCharacter_told spec value
  case h_22 => exact sound_error (unknownConversion_isTold kind spec conversion index)
  all_goals exact formatNumber_told spec _ _ value

theorem Arguments.take_told (arguments : Arguments) : Told arguments.take := by
  unfold take
  split
  · exact told_ok _
  · exact sound_error rfl
  · exact sound_error rfl
  · exact told_ok _

theorem takeWidth_told (spec : Spec) (arguments : Arguments) (rest : List Char) :
    Told (takeWidth spec arguments rest) := by
  unfold takeWidth
  split
  · refine arguments.take_told.bind fun taken => ?_
    dsimp only
    split
    · split
      · exact sound_error rfl
      · exact told_ok _
    · exact sound_error rfl
  · exact Meets.ite (sound_error rfl) (told_ok _)

theorem takePrecision_told (kind : ValueKind) (spec : Spec) (arguments : Arguments)
    (rest : List Char) : Told (takePrecision kind spec arguments rest) := by
  unfold takePrecision
  split
  · refine arguments.take_told.bind fun taken => ?_
    dsimp only
    split
    · split
      · exact sound_error rfl
      · exact told_ok _
    · exact sound_error rfl
  · exact Meets.ite (sound_error rfl) (told_ok _)
  · exact told_ok _

/-- The names of arguments are texts or byte strings, which can be shown. -/
theorem nameKey_shown (heap : Heap) (kind : ValueKind) (name : List Char) :
    ∃ shown, (nameKey kind name).shown heap = .ok shown := by
  unfold nameKey
  split <;> exact ⟨_, rfl⟩

theorem fill_told (heap : Heap) (kind : ValueKind) (source : Value) (total fuel : Nat)
    (arguments : Arguments) (text : List Char) :
    Told (fill heap kind source total fuel arguments text) := by
  fun_induction fill heap kind source total fuel arguments text
  case case1 | case2 => exact told_ok _
  case case3 ih | case8 ih => exact ih.bind fun _ => told_ok _
  case case4 | case6 => exact sound_error rfl
  case' case5 name _ _ _ _ =>
    obtain ⟨shown, hshown⟩ := nameKey_shown heap kind name
    refine (subscript_told hshown source).bind fun value => ?_
  all_goals
    rename_i ih
    refine (told_ok _).bind fun given => ?_
    dsimp +zetaDelta only
    refine (takeWidth_told _ _ _).bind fun width => ?_
    refine (takePrecision_told _ _ _ _).bind fun precision => ?_
    split
    · exact sound_error rfl
    · refine (Arguments.take_told _).bind fun taken => ?_
      refine (convert_told _ _ _ _ _ _).bind fun shown => ?_
      split
      · exact sound_error rfl
      · exact (ih _ _).bind fun _ => told_ok _

theorem format_told (heap : Heap) (text : List Char) (value : Value) (kind : ValueKind) :
    Told (format heap text value kind) := by
  unfold format
  dsimp only
  refine (fill_told heap kind value _ _ _ _).bind fun filled => ?_
  split
  · exact sound_error rfl
  · exact Meets.ite (told_ok _) (sound_error rfl)
  · exact told_ok _

end Value

/-! ### Literals and tests -/

namespace Expr

theorem complexLiteral?_told {operator : Operator} {left right : Expr}
    {result : Except Fault Numeric} (hresult : complexLiteral? operator left right = some result) :
    Told result := by
  unfold complexLiteral? at hresult
  split at hresult
  · cases hresult
  · cases hresult
    exact Numeric.add_told _ _
  · cases hresult
    exact Numeric.sub_told _ _
  · cases hresult

mutual

theorem literal_told (heap : Heap) (expr : Expr) : Told (literal heap expr) := by
  unfold literal
  split
  · exact told_ok _
  · exact (literals_told heap _).bind fun _ => told_ok _
  · exact (literals_told heap _).bind fun _ => told_ok _
  · exact (literalMembers_told heap _ _).bind fun _ => told_ok _
  · exact (literalEntries_told heap _ _).bind fun _ => told_ok _
  · exact told_ok _
  · split
    · rename_i result hresult
      exact (complexLiteral?_told hresult).map fun _ => trivial
    · exact sound_error rfl
  · split
    · exact told_ok _
    · exact sound_error rfl
termination_by sizeOf expr

theorem literals_told (heap : Heap) (items : List Expr) : Told (literals heap items) := by
  cases items with
  | nil =>
      rw [literals]
      exact told_ok _
  | cons item rest =>
      rw [literals]
      exact (literal_told heap item).bind fun made =>
        (literals_told made.2 rest).bind fun _ => told_ok _
termination_by sizeOf items

theorem literalMembers_told (heap : Heap) (members : Members) (items : List Expr) :
    Told (literalMembers heap members items) := by
  cases items with
  | nil =>
      rw [literalMembers]
      exact told_ok _
  | cons item rest =>
      rw [literalMembers]
      exact (literal_told heap item).bind fun made =>
        (Value.insertMember_told made.2 members made.1).bind fun more =>
          literalMembers_told made.2 more rest
termination_by sizeOf items

theorem literalEntries_told (heap : Heap) (table : List (Value × Value))
    (entries : List (Option Expr × Expr)) : Told (literalEntries heap table entries) := by
  match entries with
  | [] =>
      rw [literalEntries]
      exact told_ok _
  | (none, operand) :: rest =>
      rw [literalEntries]
      exact sound_error rfl
  | (some key, value) :: rest =>
      rw [literalEntries]
      exact (literal_told heap key).bind fun madeKey =>
        (literal_told madeKey.2 value).bind fun made =>
          (Value.insertEntry_told made.2 table madeKey.1 made.1).bind fun more =>
            literalEntries_told made.2 more rest
termination_by sizeOf entries

end

theorem readLiteral_told (heap : Heap) (text : String) : Told (readLiteral heap text) := by
  unfold readLiteral
  split
  · exact literal_told heap _
  · exact sound_error rfl

theorem isInside_told (heap : Heap) (value container : Value) :
    Told (isInside heap value container) := by
  unfold isInside
  split
  · split
    · exact told_ok _
    · exact sound_error rfl
  · split
    · exact told_ok _
    · exact Meets.ite (told_ok _) (sound_error rfl)
    · exact sound_error rfl
  · exact (Value.lookupKey_told heap value _).bind fun _ => told_ok _
  · split
    · exact told_ok _
    · exact (Value.hash_told heap value).bind fun _ =>
        Members.contains_told (Value.equalItems_told heap) _ _ value
  · split
    · exact Value.anyEqual_told (Value.equalItems_told heap) value _
    · exact sound_error rfl

theorem applyTest_told (heap : Heap) (test : Test) (left right : Value) :
    Told (applyTest heap test left right) := by
  cases test with
  | order comparison => exact Value.compare_told heap comparison left right
  | inside present => exact (isInside_told heap left right).map fun _ => trivial
  | same present => exact told_ok _

end Expr

end Dalvik
