import Dalvik.Proofs.Characters
import Dalvik.Proofs.MethodCalls

/-!
# Numerals without a base mark

A numeral in base ten or sixteen is parsed in base ten first, and in base sixteen only if that
fails. The base that the caller names is not looked at, so that the digits of base sixteen are
understood only if one of them is a letter, or if there is a single one.
-/

namespace Dalvik

namespace Text

theorem trimBoth_eq_self {blank : Char → Bool} {text : List Char}
    (hnone : ∀ c ∈ text, blank c = false) : trimBoth blank text = text := by
  have hkept : ∀ part : List Char, (∀ c ∈ part, blank c = false) → part.dropWhile blank = part := by
    intro part hpart
    refine List.dropWhile_eq_self_iff.mpr fun hlength => ?_
    rw [hpart _ (List.getElem_mem hlength)]
    exact Bool.false_ne_true
  have hback : ∀ c ∈ text.reverse, blank c = false := fun c hc => hnone c (List.mem_reverse.mp hc)
  rw [trimBoth, hkept text hnone, hkept text.reverse hback, List.reverse_reverse]

variable {c : Char}

theorem not_isNumeralBlank_of_hex (hc : (hexValue c).isSome = true) : isNumeralBlank c = false := by
  have hblanks : ∀ code ∈ blankCodes, hexValue (Char.ofNat code) = none := by decide
  cases hblank : isBlank c with
  | false => rw [isNumeralBlank, hblank, Bool.false_and]
  | true =>
      have hnone := hblanks c.toNat (mem_blankCodes hblank)
      rw [Char.ofNat_toNat] at hnone
      rw [hnone] at hc
      cases hc

theorem ne_of_hex {mark : Char} (hc : (hexValue c).isSome = true) (hmark : hexValue mark = none) :
    c ≠ mark := by
  rintro rfl
  rw [hmark] at hc
  cases hc

end Text

namespace Number

open Dalvik.Expr

variable {base n : Nat} {chars : List Char}

/-- Hexadecimal digits are the same in numerals and in literals. -/
theorem numeralDigit_of_hex {c : Char} (base : Nat) (hc : (Text.hexValue c).isSome = true) :
    numeralDigit base c = digitOf base c := by
  obtain ⟨digit, hdigit⟩ := Option.isSome_iff_exists.mp hc
  rw [numeralDigit, digitOf, hdigit]
  rfl

/-- Without underscores, a run of digits ends at the first character that is none. -/
theorem digitRun_eq_span (digitOf : Char → Option Nat) (hplain : ∀ c ∈ chars, c ≠ '_') :
    digitRun digitOf chars =
      ((chars.takeWhile fun c => (digitOf c).isSome).filterMap digitOf,
        chars.dropWhile fun c => (digitOf c).isSome) := by
  induction chars with
  | nil => rfl
  | cons c rest ih =>
      have hrest := ih fun d hd => hplain d (List.mem_cons_of_mem c hd)
      have hc : c ≠ '_' := hplain c List.mem_cons_self
      rw [digitRun]
      · cases hdigit : digitOf c with
        | none => simp [hdigit]
        | some digit => simp [hdigit, hrest]
      · exact fun _ _ heq _ => hc heq

theorem digitOf_eq_hexValue {c : Char} (hc : (digitOf base c).isSome = true) :
    digitOf base c = Text.hexValue c := by
  cases hvalue : Text.hexValue c with
  | none => simp [digitOf, hvalue] at hc
  | some digit =>
      simp only [digitOf, hvalue, Option.isSome_filter] at hc
      simpa [digitOf, hvalue] using hc

/-- The digits of base ten are those from zero to nine. -/
theorem isSome_digitOf_ten_iff {c : Char} :
    (digitOf 10 c).isSome = true ↔ Text.isAsciiDigit c = true := by
  have hcode : ∀ {low high : Char}, (decide (low ≤ c) && decide (c ≤ high)) = true →
      low.toNat ≤ c.toNat ∧ c.toNat ≤ high.toNat := by
    intro low high hrange
    rwa [Bool.and_eq_true, decide_eq_true_eq, decide_eq_true_eq] at hrange
  unfold digitOf Text.hexValue Text.isAsciiDigit
  split_ifs with hdigit hlower hupper
  · have hrange := hcode hdigit
    have hsmall : c.toNat - 48 < 10 := by
      have hhigh : c.toNat ≤ 57 := hrange.2
      omega
    simpa [hsmall] using hdigit
  · have hlarge : ¬c.toNat - 87 < 10 := by
      have hlow : 97 ≤ c.toNat := (hcode hlower).1
      omega
    simpa [hlarge] using hdigit
  · have hlarge : ¬c.toNat - 55 < 10 := by
      have hlow : 65 ≤ c.toNat := (hcode hupper).1
      omega
    simpa [hlarge] using hdigit
  · simpa using hdigit

theorem isSome_hexValue_of_digitOf {c : Char} (hc : (digitOf base c).isSome = true) :
    (Text.hexValue c).isSome = true :=
  digitOf_eq_hexValue hc ▸ hc

section Hexadecimal

variable (hhex : ∀ c ∈ chars, (Text.hexValue c).isSome = true)

include hhex

/-! A text of hexadecimal digits has no blanks, no sign, no mark of its base and no underscores. -/

theorem ne_of_mem_hex {c mark : Char} (hc : c ∈ chars) (hmark : Text.hexValue mark = none) :
    c ≠ mark :=
  Text.ne_of_hex (hhex c hc) hmark

theorem takeSign_trimBoth_of_hex :
    takeSign (Text.trimBoth Text.isNumeralBlank chars) = (false, chars) := by
  rw [Text.trimBoth_eq_self fun c hc => Text.not_isNumeralBlank_of_hex (hhex c hc)]
  cases chars with
  | nil => rfl
  | cons c rest =>
      have hminus : c ≠ '-' := ne_of_mem_hex hhex List.mem_cons_self rfl
      have hplus : c ≠ '+' := ne_of_mem_hex hhex List.mem_cons_self rfl
      simp [takeSign, hminus, hplus]

theorem dropBaseMark_of_hex (base : Nat) : dropBaseMark base chars = chars := by
  match chars with
  | [] => rfl
  | [c] => rfl
  | first :: mark :: rest =>
      have hmem : mark ∈ first :: mark :: rest := List.mem_cons_of_mem first List.mem_cons_self
      have hlower : mark ≠ 'x' := ne_of_mem_hex hhex hmem rfl
      have hupper : mark ≠ 'X' := ne_of_mem_hex hhex hmem rfl
      simp [dropBaseMark, hlower, hupper]

theorem digitRun_of_hex (base : Nat) :
    digitRun (numeralDigit base) chars =
      ((chars.takeWhile fun c => (numeralDigit base c).isSome).filterMap (numeralDigit base),
        chars.dropWhile fun c => (numeralDigit base c).isSome) :=
  digitRun_eq_span _ fun _ hc => ne_of_mem_hex hhex hc rfl

theorem head?_ne_underscore : chars.head? ≠ some '_' :=
  fun hhead => ne_of_mem_hex hhex (List.mem_of_head? hhead) rfl rfl

/-- A digit that the base does not have spoils the numeral. -/
theorem readNumeral_of_other {c : Char} (hc : c ∈ chars) (hother : digitOf base c = none) :
    ∃ fault, readNumeral base chars = .error fault := by
  have hrest : (chars.dropWhile fun c => (numeralDigit base c).isSome) ≠ [] := by
    intro hnil
    have hsome := List.dropWhile_eq_nil_iff.mp hnil c hc
    rw [numeralDigit_of_hex base (hhex c hc), hother] at hsome
    cases hsome
  unfold readNumeral
  rw [takeSign_trimBoth_of_hex hhex]
  simp only [dropBaseMark_of_hex hhex base, if_neg (head?_ne_underscore hhex),
    digitRun_of_hex hhex base]
  generalize (chars.takeWhile _).filterMap _ = digits
  generalize chars.dropWhile _ = rest at hrest ⊢
  cases digits with
  | nil => exact ⟨_, rfl⟩
  | cons digit others =>
      simp only
      split_ifs with hunderscore hlong hempty
      · exact ⟨_, rfl⟩
      · exact ⟨_, rfl⟩
      · exact ⟨_, rfl⟩
      · exact absurd (List.isEmpty_iff.mp (by simpa using hempty)) hrest

end Hexadecimal

/-- Digits of a base are read as the number that they write. -/
theorem readNumeral_of_digits (hne : chars ≠ [])
    (hdigits : ∀ c ∈ chars, (digitOf base c).isSome = true)
    (hlength : base = 10 → chars.length ≤ maxDigits) :
    readNumeral base chars = .ok (ofChars base chars) := by
  have hhex : ∀ c ∈ chars, (Text.hexValue c).isSome = true :=
    fun c hc => isSome_hexValue_of_digitOf (hdigits c hc)
  have hvalue : ∀ c ∈ chars, numeralDigit base c = Text.hexValue c := fun c hc =>
    (numeralDigit_of_hex base (hhex c hc)).trans (digitOf_eq_hexValue (hdigits c hc))
  have hsome : ∀ c ∈ chars, (numeralDigit base c).isSome = true := fun c hc =>
    (hvalue c hc).symm ▸ hhex c hc
  have hrun : digitRun (numeralDigit base) chars = (chars.filterMap Text.hexValue, []) := by
    rw [digitRun_of_hex hhex, List.takeWhile_eq_self_iff.mpr hsome,
      List.dropWhile_eq_nil_iff.mpr hsome, List.filterMap_congr hvalue]
  have hshort : base = 10 → (chars.filterMap Text.hexValue).length ≤ maxDigits := fun hbase =>
    Nat.le_trans (List.length_filterMap_le _ _) (hlength hbase)
  unfold readNumeral ofChars
  rw [takeSign_trimBoth_of_hex hhex]
  simp only [dropBaseMark_of_hex hhex base, if_neg (head?_ne_underscore hhex), hrun]
  cases hlist : chars.filterMap Text.hexValue with
  | nil =>
      obtain ⟨c, rest, rfl⟩ := List.exists_cons_of_ne_nil hne
      have hnone := List.filterMap_eq_nil_iff.mp hlist c List.mem_cons_self
      rw [← Option.not_isSome_iff_eq_none] at hnone
      exact absurd (hhex c List.mem_cons_self) hnone
  | cons digit others =>
      rw [hlist] at hshort
      simpa using hshort

/-! ### The digits of a number -/

/-- The text has the digits of the number, without leading zeros; letters stand in either case. -/
def Writes (base n : Nat) (s : String) : Prop :=
  s.toList.map Char.toLower = Nat.toDigits base n
deriving Decidable

theorem digitOf_toLower (base : Nat) (c : Char) : digitOf base c.toLower = digitOf base c := by
  rw [digitOf, digitOf, Text.hexValue_toLower]

section Writes

variable {s : String} (hlow : 1 < base) (hhigh : base ≤ 16) (hwrites : Writes base n s)

include hwrites

theorem Writes.toList_ne_nil : s.toList ≠ [] := by
  intro hnil
  rw [Writes, hnil] at hwrites
  exact Nat.toDigits_ne_nil hwrites.symm

include hlow hhigh

theorem Writes.isSome_digitOf : ∀ c ∈ s.toList, (digitOf base c).isSome = true := by
  intro c hc
  rw [← digitOf_toLower]
  apply isSome_digitOf_of_mem_toDigits hlow hhigh n
  rw [← hwrites]
  exact List.mem_map_of_mem hc

theorem Writes.filterMap_hexValue :
    s.toList.filterMap Text.hexValue = (Nat.toDigits base n).filterMap (digitOf base) := by
  have hvalue : ∀ c ∈ s.toList, Text.hexValue c = digitOf base c.toLower := by
    intro c hc
    rw [digitOf_toLower, digitOf_eq_hexValue (hwrites.isSome_digitOf hlow hhigh c hc)]
  rw [List.filterMap_congr hvalue, ← hwrites, List.filterMap_map]
  rfl

theorem Writes.ofChars_eq : ofChars base s.toList = n := by
  rw [ofChars, hwrites.filterMap_hexValue hlow hhigh, ofDigits_toDigits hlow hhigh]

end Writes

theorem ofDigits_le_ofDigits {small large : Nat} (hle : small ≤ large) (digits : List Nat) :
    ofDigits small digits ≤ ofDigits large digits := by
  induction digits using List.reverseRecOn with
  | nil => exact Nat.le_refl _
  | append_singleton front last ih =>
      rw [ofDigits_concat, ofDigits_concat]
      exact Nat.add_le_add_right (Nat.mul_le_mul ih hle) last

/-- Digits of base sixteen are a smaller number in base ten, unless there is only one. -/
theorem ofDigits_ten_lt (hn : 16 ≤ n) :
    ofDigits 10 ((Nat.toDigits 16 n).filterMap (digitOf 16)) < n := by
  have hfront : ofDigits 16 ((Nat.toDigits 16 (n / 16)).filterMap (digitOf 16)) = n / 16 :=
    ofDigits_toDigits (by decide) (by decide) (n / 16)
  have hlast : digitOf 16 (Nat.digitChar (n % 16)) = some (n % 16) :=
    digitOf_digitChar (Nat.mod_lt n (by decide)) (by decide)
  rw [Nat.toDigits_eq_if (by decide), if_neg (by omega), List.filterMap_append,
    List.filterMap_cons_some hlast, List.filterMap_nil, ofDigits_concat]
  generalize (Nat.toDigits 16 (n / 16)).filterMap (digitOf 16) = front at hfront ⊢
  have hle : ofDigits 10 front ≤ ofDigits 16 front := ofDigits_le_ofDigits (by decide) front
  omega

/-- Of the texts in base sixteen, those of a single digit alone are right in base ten. -/
theorem Writes.ofChars_ten_eq_iff {s : String} (hwrites : Writes 16 n s) :
    ofChars 10 s.toList = n ↔ n < 16 := by
  rw [ofChars, hwrites.filterMap_hexValue (by decide) (by decide)]
  constructor
  · intro hvalue
    by_contra hn
    exact absurd hvalue (Nat.ne_of_lt (ofDigits_ten_lt (Nat.not_lt.mp hn)))
  · intro hn
    have hdigit : digitOf 16 (Nat.digitChar n) = some n := digitOf_digitChar hn (by decide)
    rw [Nat.toDigits_of_lt_base hn, List.filterMap_cons_some hdigit]
    simp [ofDigits]

end Number

/-! ### Parsing -/

namespace Method

open Number Dalvik.Expr

variable {n : Nat} {s : String}

theorem parsed_of_decimal (hne : s.toList ≠ [])
    (hdigits : ∀ c ∈ s.toList, (digitOf 10 c).isSome = true) (hlength : s.length ≤ maxDigits) :
    parsed (.text s) = .ok (ofChars 10 s.toList) := by
  have hread : Number.readNumeral 10 s.toList = .ok (ofChars 10 s.toList) :=
    readNumeral_of_digits hne hdigits fun _ => String.length_toList ▸ hlength
  have hint : (Value.text s).toInt = .ok (ofChars 10 s.toList) := by
    rw [Value.toInt, Value.readNumeral, hread]
  rw [parsed, hint]

/-- A letter among the digits leads to base sixteen. -/
theorem parsed_of_letter {c : Char} (hwrites : Writes 16 n s) (hc : c ∈ s.toList)
    (hletter : digitOf 10 c = none) : parsed (.text s) = .ok n := by
  have hdigits := hwrites.isSome_digitOf (by decide) (by decide)
  obtain ⟨fault, hfault⟩ :=
    readNumeral_of_other (fun d hd => isSome_hexValue_of_digitOf (hdigits d hd)) hc hletter
  have hread : Number.readNumeral 16 s.toList = .ok (ofChars 16 s.toList) :=
    readNumeral_of_digits hwrites.toList_ne_nil hdigits fun hbase => absurd hbase (by decide)
  have hdecimal : ∃ cause, (Value.text s).toInt = .error cause := by
    rw [Value.toInt, Value.readNumeral, hfault]
    cases fault <;> exact ⟨_, rfl⟩
  have hsixteen : (Value.text s).toIntInBase 16 = .ok n := by
    rw [Value.toIntInBase, Value.readNumeral, hread, hwrites.ofChars_eq (by decide) (by decide)]
  obtain ⟨cause, hcause⟩ := hdecimal
  rw [parsed, hcause, hsixteen]

end Method

namespace Emulator

open Number

theorem Calls.parseInt_completes {state : Emulator} {line this s : String} {arguments : List String}
    {value : Int} (hcalls : state.Calls line .parseInt (this :: arguments))
    (hthis : state.machine.registers.get? this = some (.text s))
    (hparsed : Method.parsed (.text s) = .ok value) :
    state.Completes line (state.advance.machine.give (.int value)) := by
  apply hcalls.completes
  simp only [Method.outcome, read_advance hthis, lift_ok_bind, hparsed]
  rfl

/-- **Decimal first.** Of a number in base ten or sixteen, written without a mark of its base,
parsing makes the decimal number of its digits if all of them are decimal, and the number itself if
there is a letter among them, whatever base the caller names. So a number in base ten is always
parsed right, and one in base sixteen just if it has a letter or a single digit. -/
theorem parseInt_decimal_first (base n : Nat) (s : String) (hbase : base = 10 ∨ base = 16)
    (hwrites : Writes base n s) (hlength : s.length ≤ maxDigits) (state : Emulator)
    (line this : String) (arguments : List String)
    (hcalls : state.Calls line .parseInt (this :: arguments))
    (hthis : state.machine.registers.get? this = some (.text s)) :
    let value := if s.toList.all Text.isAsciiDigit then ofChars 10 s.toList else n
    state.Completes line (state.advance.machine.give (.int value)) ∧
      (value = n ↔ base = 10 ∨ n < 16 ∨ ∃ c ∈ s.toList, Text.isAsciiDigit c = false) := by
  intro value
  by_cases hall : ∀ c ∈ s.toList, Text.isAsciiDigit c = true
  · have hvalue : value = ofChars 10 s.toList := if_pos (List.all_eq_true.mpr hall)
    have hparsed : Method.parsed (.text s) = .ok (ofChars 10 s.toList) :=
      Method.parsed_of_decimal hwrites.toList_ne_nil
        (fun c hc => isSome_digitOf_ten_iff.mpr (hall c hc)) hlength
    rw [hvalue]
    refine ⟨hcalls.parseInt_completes hthis hparsed, ?_⟩
    have hnone : ¬∃ c ∈ s.toList, Text.isAsciiDigit c = false := by
      rintro ⟨c, hc, hletter⟩
      rw [hall c hc] at hletter
      cases hletter
    rcases hbase with rfl | rfl
    · exact iff_of_true (hwrites.ofChars_eq (by decide) (by decide)) (Or.inl rfl)
    · rw [hwrites.ofChars_ten_eq_iff]
      simp [hnone]
  · have hvalue : value = n := if_neg fun h => hall (List.all_eq_true.mp h)
    have hletter : ∃ c ∈ s.toList, Text.isAsciiDigit c = false := by simpa using hall
    rw [hvalue]
    refine ⟨?_, iff_of_true rfl (Or.inr (Or.inr hletter))⟩
    obtain ⟨c, hc, hother⟩ := hletter
    have hnone : Expr.digitOf 10 c = none := by
      rw [← Option.not_isSome_iff_eq_none, isSome_digitOf_ten_iff, hother]
      exact Bool.false_ne_true
    rcases hbase with rfl | rfl
    · have hsome := hwrites.isSome_digitOf (by decide) (by decide) c hc
      rw [hnone] at hsome
      cases hsome
    · exact hcalls.parseInt_completes hthis (Method.parsed_of_letter hwrites hc hnone)

/-- Numerals of base sixteen, one with letters and one without. -/
def parsingListing : List String := [
  "invoke-static \x7bp0, p2\x7d, Ljava/lang/Integer;->parseInt(Ljava/lang/String;I)I",
  "invoke-static \x7bp1, p2\x7d, Ljava/lang/Integer;->parseInt(Ljava/lang/String;I)I"]

def parsingLine (line : Nat) : String :=
  (parsingListing[line]?).getD ""

/-- The emulator before a line of the listing. -/
def parsing (line : Nat) : Emulator where
  machine := {
    registers := [("p0", .text "1F"), ("p1", .text "10"), ("p2", .int 16)]
    pc := line }
  source := some parsingListing

theorem parsing_calls :
    (parsing 0).Calls (parsingLine 0) .parseInt ["p0", "p2"] ∧
    (parsing 1).Calls (parsingLine 1) .parseInt ["p1", "p2"] := by
  constructor
  · refine .of_print spaced .static ⟨"p0", ?_, ?_⟩ [⟨"p2", ?_, ?_⟩]
      (.ofParts "Ljava/lang/Integer" "parseInt(Ljava/lang/String;I)I" ?_)
      Library.integerClass ?_ ?_ ?_ ?_ <;> decide +kernel
  · refine .of_print spaced .static ⟨"p1", ?_, ?_⟩ [⟨"p2", ?_, ?_⟩]
      (.ofParts "Ljava/lang/Integer" "parseInt(Ljava/lang/String;I)I" ?_)
      Library.integerClass ?_ ?_ ?_ ?_ <;> decide +kernel

theorem parseInt_decimal_first_parsing :
    (Writes 16 31 "1F" ∧
      (parsing 0).Completes (parsingLine 0) ((parsing 1).machine.give (.int 31))) ∧
    (Writes 16 16 "10" ∧
      (parsing 1).Completes (parsingLine 1) ((parsing 2).machine.give (.int 10))) := by
  obtain ⟨hfirst, hsecond⟩ := parsing_calls
  have hletter : Writes 16 31 "1F" := by decide
  have hplain : Writes 16 16 "10" := by decide
  refine ⟨⟨hletter, ?_⟩, hplain, ?_⟩
  · exact (parseInt_decimal_first 16 31 "1F" (Or.inr rfl) hletter (by decide) (parsing 0) _ "p0" _
      hfirst rfl).1
  · exact (parseInt_decimal_first 16 16 "10" (Or.inr rfl) hplain (by decide) (parsing 1) _ "p1" _
      hsecond rfl).1

/-- The base that is named is not that of the number which is parsed. -/
theorem parseInt_not_by_base :
    ¬∀ (base n : Nat) (s : String), base = 10 ∨ base = 16 → Writes base n s →
      s.length ≤ maxDigits → ∀ (state : Emulator) (line this radix : String),
        state.Calls line .parseInt [this, radix] →
        state.machine.registers.get? this = some (.text s) →
        state.machine.registers.get? radix = some (.int base) →
        state.Completes line (state.advance.machine.give (.int n)) := by
  intro hbase
  have hcalls := parsing_calls.2
  have hasked := hbase 16 16 "10" (Or.inr rfl) (by decide) (by decide) (parsing 1) _ _ _
    hcalls rfl rfl
  have hparsed : Method.parsed (.text "10") = .ok 10 :=
    Method.parsed_of_decimal (by decide) (Text.forall_mem_of_all (by decide)) (by decide)
  have hgiven := hcalls.parseInt_completes rfl hparsed
  have hsame : Value.int 10 = .int 16 := hgiven.give_inj hasked
  cases hsame

end Emulator

end Dalvik
