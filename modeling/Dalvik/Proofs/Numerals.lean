import Dalvik.Expr.Constant

/-!
# Written integers

An integer is written with or without a sign, in decimal or in another base that a mark names. The
reader of numbers takes the digits that stand before a blank or at the end of a text, and makes of
them the number whose digits they are.
-/

namespace Dalvik

namespace Text

theorem hexValue_digitChar : ∀ digit < 16, hexValue (Nat.digitChar digit) = some digit := by
  decide

theorem hexValue_toLower (c : Char) : hexValue c.toLower = hexValue c := by
  have hletters : ∀ n < 26, hexValue (Char.ofNat (65 + n)).toLower =
      hexValue (Char.ofNat (65 + n)) := by decide
  by_cases hupper : c.val ≥ 'A'.val ∧ c.val ≤ 'Z'.val
  · have hlow : 65 ≤ c.toNat := hupper.1
    have hhigh : c.toNat ≤ 90 := hupper.2
    have hc := hletters (c.toNat - 65) (by omega)
    rwa [Nat.add_sub_cancel' hlow, Char.ofNat_toNat] at hc
  · have hsame : c.toLower = c := dif_neg hupper
    rw [hsame]

end Text

open Dalvik.Expr

namespace Number

variable {base : Nat} {chars rest : List Char}

/-! ### Runs of digits -/

/-- A text whose first character is neither a digit nor an underscore ends a run of digits. -/
def EndsRun (base : Nat) (rest : List Char) : Prop :=
  ∀ c, rest.head? = some c → c ≠ '_' ∧ digitOf base c = none

theorem digitOf_underscore (base : Nat) : digitOf base '_' = none := rfl

theorem digitRun_of_ends (hrest : EndsRun base rest) :
    digitRun (digitOf base) rest = ([], rest) := by
  cases rest with
  | nil => rfl
  | cons c rest =>
      obtain ⟨hne, hnone⟩ := hrest c rfl
      rw [digitRun]
      · rw [hnone]
      · exact fun _ _ heq _ => hne heq

/-- Plain digits are taken up to the character that ends them. -/
theorem digitRun_append (hchars : ∀ c ∈ chars, (digitOf base c).isSome = true)
    (hrest : EndsRun base rest) :
    digitRun (digitOf base) (chars ++ rest) = (chars.filterMap (digitOf base), rest) := by
  induction chars with
  | nil => exact digitRun_of_ends hrest
  | cons c chars ih =>
      obtain ⟨digit, hdigit⟩ := Option.isSome_iff_exists.mp (hchars c List.mem_cons_self)
      have hmore := ih fun d hd => hchars d (List.mem_cons_of_mem c hd)
      rw [List.cons_append, digitRun]
      · rw [hdigit, hmore, List.filterMap_cons_some hdigit]
      · rintro _ _ rfl _
        rw [digitOf_underscore] at hdigit
        cases hdigit

/-! ### Digits of a number -/

theorem ofDigits_concat (base : Nat) (digits : List Nat) (digit : Nat) :
    ofDigits base (digits ++ [digit]) = ofDigits base digits * base + digit := by
  simp [ofDigits]

theorem ofDigits_zeros (base count : Nat) (digits : List Nat) :
    ofDigits base (List.replicate count 0 ++ digits) = ofDigits base digits := by
  induction count with
  | zero => rfl
  | succ count ih => simpa [ofDigits, List.replicate_succ] using ih

theorem digitOf_digitChar {digit : Nat} (hdigit : digit < base) (hbase : base ≤ 16) :
    digitOf base (Nat.digitChar digit) = some digit := by
  have hvalue := Text.hexValue_digitChar digit (Nat.lt_of_lt_of_le hdigit hbase)
  simp [digitOf, hvalue, hdigit]

theorem isSome_digitOf_of_mem_toDigits (hlow : 1 < base) (hhigh : base ≤ 16) (n : Nat) :
    ∀ c ∈ Nat.toDigits base n, (digitOf base c).isSome = true := by
  induction n using Nat.strongRecOn with
  | ind n ih =>
      rw [Nat.toDigits_eq_if hlow]
      split
      · rename_i hlt
        intro c hc
        rw [List.mem_singleton.mp hc, digitOf_digitChar hlt hhigh]
        rfl
      · rename_i hge
        have hpos : 0 < base := Nat.lt_trans Nat.zero_lt_one hlow
        intro c hc
        rcases List.mem_append.mp hc with hfirst | hlast
        · exact ih (n / base) (Nat.div_lt_self (by omega) hlow) c hfirst
        · rw [List.mem_singleton.mp hlast, digitOf_digitChar (Nat.mod_lt n hpos) hhigh]
          rfl

/-- The digits of a number write that number. -/
theorem ofDigits_toDigits (hlow : 1 < base) (hhigh : base ≤ 16) (n : Nat) :
    ofDigits base ((Nat.toDigits base n).filterMap (digitOf base)) = n := by
  induction n using Nat.strongRecOn with
  | ind n ih =>
      rw [Nat.toDigits_eq_if hlow]
      split
      · rename_i hlt
        rw [List.filterMap_cons_some (digitOf_digitChar hlt hhigh)]
        simp [ofDigits]
      · rename_i hge
        have hpos : 0 < base := Nat.lt_trans Nat.zero_lt_one hlow
        rw [List.filterMap_append,
          List.filterMap_cons_some (digitOf_digitChar (Nat.mod_lt n hpos) hhigh),
          List.filterMap_nil, ofDigits_concat, ih (n / base) (Nat.div_lt_self (by omega) hlow)]
        exact Nat.div_add_mod' n base

/-- Only zero begins with a zero in decimal. -/
theorem eq_zero_of_toDigits (n : Nat) {chars : List Char}
    (hdigits : Nat.toDigits 10 n = '0' :: chars) : n = 0 := by
  induction n using Nat.strongRecOn generalizing chars with
  | ind n ih =>
      rw [Nat.toDigits_eq_if (by decide)] at hdigits
      split at hdigits
      · rename_i hlt
        have hvalue := Text.hexValue_digitChar n (by omega)
        rw [(List.cons.inj hdigits).1] at hvalue
        exact (Option.some.inj hvalue).symm
      · rename_i hge
        cases hfront : Nat.toDigits 10 (n / 10) with
        | nil => exact absurd hfront Nat.toDigits_ne_nil
        | cons c front =>
            rw [hfront] at hdigits
            have hzero := ih (n / 10) (by omega) ((List.cons.inj hdigits).1 ▸ hfront)
            omega

end Number

namespace Expr

/-! ### The reader of numbers -/

/-- A number may end at a blank and at the end of the text. -/
def EndsAtBlank (rest : List Char) : Prop :=
  rest = [] ∨ ∃ more, rest = ' ' :: more

variable {rest : List Char}

theorem EndsAtBlank.endsRun (hrest : EndsAtBlank rest) (base : Nat) : Number.EndsRun base rest := by
  rintro c hc
  rcases hrest with rfl | ⟨more, rfl⟩
  · cases hc
  · rw [← Option.some.inj hc]
    exact ⟨by decide, rfl⟩

theorem EndsAtBlank.endsNumber (hrest : EndsAtBlank rest) : endsNumber rest = true := by
  rcases hrest with rfl | ⟨more, rfl⟩ <;> rfl

theorem afterWhole_of_blank (hrest : EndsAtBlank rest) {digits : List Nat}
    (hlength : digits.length ≤ Number.maxDigits) :
    afterWhole digits true rest = some (.int (Number.ofDigits 10 digits), rest) := by
  have hends := hrest.endsNumber
  rcases hrest with rfl | ⟨more, rfl⟩ <;>
    simp [afterWhole, exponentOf, hlength, finishNumber, hends]

theorem digitsOf_toDigits (n : Nat) (hrest : EndsAtBlank rest) :
    digitsOf 10 (Nat.toDigits 10 n ++ rest) =
      ((Nat.toDigits 10 n).filterMap (digitOf 10), rest) :=
  Number.digitRun_append (Number.isSome_digitOf_of_mem_toDigits (by decide) (by decide) n)
    (hrest.endsRun 10)

theorem numberOf_of_ne {c : Char} {chars : List Char} (hzero : c ≠ '0') (hpoint : c ≠ '.') :
    numberOf (c :: chars) =
      afterWhole (digitsOf 10 (c :: chars)).1 true (digitsOf 10 (c :: chars)).2 := by
  rw [numberOf]
  · intro _ _ heq
    exact hzero (List.cons.inj heq).1
  · intro _ heq
    exact hpoint (List.cons.inj heq).1

/-- The digits of a number are read as that number. -/
theorem numberOf_toDigits (n : Nat) (hlength : (Nat.toDigits 10 n).length ≤ Number.maxDigits)
    (hrest : EndsAtBlank rest) :
    numberOf (Nat.toDigits 10 n ++ rest) = some (.int n, rest) := by
  have hdigits := digitsOf_toDigits n hrest
  have hvalue : Number.ofDigits 10 ((Nat.toDigits 10 n).filterMap (digitOf 10)) = n :=
    Number.ofDigits_toDigits (by decide) (by decide) n
  have hcount : ((Nat.toDigits 10 n).filterMap (digitOf 10)).length ≤ Number.maxDigits :=
    Nat.le_trans (List.length_filterMap_le _ _) hlength
  by_cases hn : n = 0
  · -- Zero alone begins with the character that may begin a base mark.
    subst hn
    rcases hrest with rfl | ⟨more, rfl⟩ <;> rfl
  · cases hchars : Nat.toDigits 10 n with
    | nil => exact absurd hchars Nat.toDigits_ne_nil
    | cons c chars =>
        have hzero : c ≠ '0' := by
          rintro rfl
          exact hn (Number.eq_zero_of_toDigits n hchars)
        have hpoint : c ≠ '.' := by
          rintro rfl
          have hsome : (digitOf 10 '.').isSome = true :=
            Number.isSome_digitOf_of_mem_toDigits (by decide) (by decide) n '.'
              (by rw [hchars]; exact List.mem_cons_self)
          cases hsome
        rw [hchars] at hdigits hvalue hcount
        rw [List.cons_append] at hdigits ⊢
        rw [numberOf_of_ne hzero hpoint, hdigits]
        simp only
        rw [afterWhole_of_blank hrest hcount, hvalue]

/-- Digits of base sixteen after their mark are read as the number that they write. -/
theorem numberOf_hex {digits : List Char} (hne : digits ≠ [])
    (hdigits : ∀ c ∈ digits, (digitOf 16 c).isSome = true) :
    numberOf ('0' :: 'x' :: digits) =
      some (.int (Number.ofDigits 16 (digits.filterMap (digitOf 16))), []) := by
  have hrun : digitsOf 16 digits = (digits.filterMap (digitOf 16), []) := by
    have hend : EndsAtBlank [] := Or.inl rfl
    have happend := Number.digitRun_append hdigits (hend.endsRun 16)
    rwa [List.append_nil] at happend
  have hsome : digits.filterMap (digitOf 16) ≠ [] := by
    cases digits with
    | nil => exact absurd rfl hne
    | cons c digits =>
        obtain ⟨digit, hdigit⟩ := Option.isSome_iff_exists.mp (hdigits c List.mem_cons_self)
        rw [List.filterMap_cons_some hdigit]
        exact List.cons_ne_nil _ _
  change basedNumber 16 digits = _
  rw [basedNumber, hrun]
  cases hvalues : digits.filterMap (digitOf 16) with
  | nil => exact absurd hvalues hsome
  | cons digit others => rfl

/-! ### Integers with a sign -/

def isNumeralChar (c : Char) : Bool :=
  Text.isAsciiLetter c || Text.isAsciiDigit c || c == '_'

/-- Characters that begin with a digit, hold no others than numbers hold, and are read as one
integer. -/
structure Magnitude (chars : List Char) (n : Nat) : Prop where
  head : chars.head?.any Text.isAsciiDigit = true
  plain : chars.all isNumeralChar = true
  read : numberOf chars = some (.int n, [])

def magnitude? (chars : List Char) : Option Nat :=
  if chars.head?.any Text.isAsciiDigit && chars.all isNumeralChar then
    match numberOf chars with
    | some (.int n, []) => some n
    | _ => none
  else none

theorem magnitude?_eq_some_iff {chars : List Char} {n : Nat} :
    magnitude? chars = some n ↔ Magnitude chars n := by
  constructor
  · intro hsome
    rw [magnitude?] at hsome
    split at hsome
    · rename_i hplain
      rw [Bool.and_eq_true] at hplain
      split at hsome
      · rename_i hread
        cases hsome
        exact ⟨hplain.1, hplain.2, hread⟩
      · cases hsome
    · cases hsome
  · intro hmagnitude
    rw [magnitude?, hmagnitude.head, hmagnitude.plain, hmagnitude.read]
    rfl

inductive Sign where
  | none
  | plus
  | minus

namespace Sign

def chars : Sign → List Char
  | none => []
  | plus => ['+']
  | minus => ['-']

def value (n : Nat) : Sign → Int
  | none => n
  | plus => n
  | minus => -n

end Sign

/-- The integer that a text writes, with at most one sign before it and nothing around it. -/
def integer? (text : String) : Option Int :=
  match text.toList with
  | '+' :: digits => (magnitude? digits).map fun n => Sign.plus.value n
  | '-' :: digits => (magnitude? digits).map fun n => Sign.minus.value n
  | digits => (magnitude? digits).map fun n => Sign.none.value n

theorem integer?_eq_some_iff {text : String} {value : Int} :
    integer? text = some value ↔ ∃ (sign : Sign) (digits : List Char) (n : Nat),
      text.toList = sign.chars ++ digits ∧ Magnitude digits n ∧ sign.value n = value := by
  constructor
  · intro hsome
    rw [integer?] at hsome
    split at hsome <;> rename_i htext <;>
      obtain ⟨n, hn, hvalue⟩ := Option.map_eq_some_iff.mp hsome
    · exact ⟨.plus, _, n, htext, magnitude?_eq_some_iff.mp hn, hvalue⟩
    · exact ⟨.minus, _, n, htext, magnitude?_eq_some_iff.mp hn, hvalue⟩
    · exact ⟨.none, _, n, rfl, magnitude?_eq_some_iff.mp hn, hvalue⟩
  · rintro ⟨sign, digits, n, htext, hdigits, rfl⟩
    have hsome := magnitude?_eq_some_iff.mpr hdigits
    rw [integer?, htext]
    cases sign with
    | plus => simp [Sign.chars, hsome]
    | minus => simp [Sign.chars, hsome]
    | none =>
        rw [Sign.chars, List.nil_append]
        split
        · exact absurd hdigits.head (by simp [Text.isAsciiDigit])
        · exact absurd hdigits.head (by simp [Text.isAsciiDigit])
        · rw [hsome]
          rfl

end Expr

end Dalvik
