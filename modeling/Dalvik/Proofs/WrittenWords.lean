import Dalvik.Proofs.Expressions
import Dalvik.Proofs.WrittenSums

/-!
# Words before an operator

A text that stands before an operator and an integer is read as a part of one expression. A word is
a name there, unless it is a keyword, and the operator applies to whatever the name stands for.
-/

namespace Dalvik.Expr

variable {fuel depth n : Nat} {c : Char} {chars digits text : List Char}

/-! ### Words -/

theorem isNameRest_of_isNameStart (hc : Text.isNameStart c = true) : Text.isNameRest c = true := by
  unfold Text.isNameStart at hc
  unfold Text.isNameRest
  split at hc
  · rename_i hascii
    rw [Bool.or_eq_true] at hc
    rw [if_pos hascii]
    rcases hc with hletter | hunderscore
    · rw [hletter]
      rfl
    · rw [hunderscore, Bool.or_true]
  · rename_i hascii
    rw [if_neg hascii, hc]
    rfl

theorem ne_of_isNameRest {d : Char} (hc : Text.isNameRest c = true)
    (hd : Text.isNameRest d = false) : c ≠ d := by
  rintro rfl
  rw [hc] at hd
  cases hd

theorem isGap_of_isNameRest (hc : Text.isNameRest c = true) : isGap c = false := by
  have hne : ∀ d, Text.isNameRest d = false → c ≠ d := fun d => ne_of_isNameRest hc
  simp [isGap, hne ' ' rfl, hne '\t' rfl, hne (Char.ofNat 12) rfl, hne '#' rfl, hne '\n' rfl,
    hne '\\' rfl]

theorem isOrdinary_of_isNameRest (hc : Text.isNameRest c = true) : isOrdinary c = true := by
  have hne : ∀ d, Text.isNameRest d = false → c ≠ d := fun d => ne_of_isNameRest hc
  simp [isOrdinary, hne '\r' rfl, hne (Char.ofNat 0) rfl]

/-- Letters that could be marks of a text are none where no quote follows. -/
theorem markOf_word {marks : TextMark} (hchars : ∀ d ∈ chars, Text.isNameRest d = true) :
    markOf marks (chars ++ ' ' :: text) = none := by
  induction chars generalizing marks with
  | nil => simp [markOf]
  | cons c chars ih =>
      have hne : ∀ d, Text.isNameRest d = false → c ≠ d := fun d =>
        ne_of_isNameRest (hchars c List.mem_cons_self)
      have htail : ∀ marks, markOf marks (chars ++ ' ' :: text) = none := fun marks =>
        ih fun d hd => hchars d (List.mem_cons_of_mem c hd)
      simp [markOf, hne '"' rfl, hne '\'' rfl, htail]

theorem isAsciiDigit_of_isNameStart (hc : Text.isNameStart c = true) :
    Text.isAsciiDigit c = false := by
  rw [Bool.eq_false_iff]
  intro hdigit
  have hnone : Text.isNameStart c = false :=
    @of_isAsciiDigit (Text.isNameStart · = false) _ (by decide) c hdigit
  rw [hnone] at hc
  cases hc

theorem nextToken_word (hc : Text.isNameStart c = true)
    (hchars : ∀ d ∈ chars, Text.isNameRest d = true) :
    nextToken (c :: chars ++ ' ' :: text) =
      some (wordToken (String.ofList (c :: chars)), ' ' :: text) := by
  have hword : ∀ d ∈ c :: chars, Text.isNameRest d = true :=
    List.forall_mem_cons.mpr ⟨isNameRest_of_isNameStart hc, hchars⟩
  have hmark : markOf {} (c :: (chars ++ ' ' :: text)) = none := markOf_word hword
  have hdot : c ≠ '.' := ne_of_isNameRest (hword c List.mem_cons_self) rfl
  have hblank : ¬Text.isNameRest ' ' = true := by decide
  simp [nextToken, hmark, isAsciiDigit_of_isNameStart hc, hdot, hc,
    List.takeWhile_append_of_pos hchars, List.dropWhile_append_of_pos hchars, hblank]

/-- A word that is a name and no keyword. -/
def isName (word : String) : Bool :=
  match word.toList with
  | [] => false
  | c :: chars => Text.isNameStart c && chars.all Text.isNameRest && decide (word ∉ keywords)

/-- The name that a word counts as. -/
def nameOf (word : String) : String :=
  String.ofList (Text.normalName word.toList)

theorem isName_eq_true_iff {word : String} :
    isName word = true ↔ ∃ c chars, word.toList = c :: chars ∧ Text.isNameStart c = true ∧
      (∀ d ∈ chars, Text.isNameRest d = true) ∧ word ∉ keywords := by
  unfold isName
  cases hword : word.toList with
  | nil => simp
  | cons c chars =>
      simp only [Bool.and_eq_true, List.all_eq_true, decide_eq_true_iff, List.cons.injEq]
      constructor
      · rintro ⟨⟨hc, hchars⟩, hkeyword⟩
        exact ⟨c, chars, ⟨rfl, rfl⟩, hc, hchars, hkeyword⟩
      · rintro ⟨_, _, ⟨rfl, rfl⟩, hc, hchars, hkeyword⟩
        exact ⟨⟨hc, hchars⟩, hkeyword⟩

theorem wordToken_name {word : String} (hkeyword : word ∉ keywords) :
    wordToken word = .name (nameOf word) := by
  have hne : word ≠ "None" ∧ word ≠ "True" ∧ word ≠ "False" := by
    refine ⟨?_, ?_, ?_⟩ <;> rintro rfl <;> exact absurd hkeyword (by decide)
  simp [wordToken, hne, hkeyword, nameOf]

/-! ### Names before an operator -/

section Tail

variable (joint : Joint) (mark : Sign)

theorem tokens_name {word : String} (hword : isName word = true) (hdigits : Magnitude digits n) :
    tokens (word.toList ++ ' ' :: joint.char :: ' ' :: (mark.chars ++ digits)) =
      some (.name (nameOf word) :: .symbol joint.symbol ::
        (mark.tokens ++ [.constant (.int n)])) := by
  obtain ⟨c, chars, hchars, hc, hrest, hkeyword⟩ := isName_eq_true_iff.mp hword
  have hstart := isNameRest_of_isNameStart hc
  have hall : ∀ d ∈ c :: chars, Text.isNameRest d = true :=
    List.forall_mem_cons.mpr ⟨hstart, hrest⟩
  have htoken := @nextToken_word c chars (joint.char :: ' ' :: (mark.chars ++ digits)) hc hrest
  rw [← hchars, String.ofList_toList, wordToken_name hkeyword, hchars] at htoken
  rw [hchars, tokens_of_plain]
  · rw [List.cons_append] at htoken ⊢
    refine tokensFrom_token (isGap_of_isNameRest hstart) (Nat.zero_le _) htoken
      (tokensFrom_tail joint mark (Nat.zero_le _) hdigits ?_)
    simp only [List.length_cons, List.length_append]
    omega
  · rintro d ⟨⟩
    exact isGap_of_isNameRest hstart
  · intro d hd
    rcases List.mem_append.mp hd with hd | hd
    · exact isOrdinary_of_isNameRest (hall d hd)
    · exact isOrdinary_tail joint mark hdigits d hd

theorem readFactor_name {word : String} {rest : List Token} (hrest : EndsOperand rest) :
    readFactor (fuel + 5) (.name word :: rest) = some (.name word, rest) := by
  have hprimary : readAwaited (fuel + 3) (.name word :: rest) = some (.name word, rest) := by
    rcases hrest with rfl | ⟨joint, others, rfl⟩
    · rfl
    · cases joint <;> rfl
  change readPower (fuel + 4) (.name word :: rest) = _
  rw [readPower, hprimary]
  rcases hrest with rfl | ⟨joint, others, rfl⟩
  · rfl
  · cases joint <;> rfl

theorem ofString_name {word literal : String} (hword : isName word = true)
    (hchars : literal.toList = mark.chars ++ digits) (hdigits : Magnitude digits n) :
    ofString (word ++ " " ++ joint.symbol ++ " " ++ literal) =
      some (.binary joint.operator (.name (nameOf word)) (mark.expr n)) := by
  have hwhole : (word ++ " " ++ joint.symbol ++ " " ++ literal).toList =
      word.toList ++ ' ' :: joint.char :: ' ' :: (mark.chars ++ digits) := by
    simp only [String.toList_append, hchars, Joint.symbol, String.toList_singleton]
    simp
  have hbinary : ∀ fuel, readBinary (fuel + 9) 1 (.name (nameOf word) :: .symbol joint.symbol ::
      (mark.tokens ++ [.constant (.int n)])) =
        some (.binary joint.operator (.name (nameOf word)) (mark.expr n), []) := by
    intro fuel
    rw [readBinary, readFactor_name (Or.inr ⟨joint, _, rfl⟩)]
    exact readBinaryRest_joint _ joint mark joint.one_le_level
  rw [ofString, hwhole]
  apply ofChars_of_readBinary (tokens_name joint mark hword hdigits) _ _ fun fuel => hbinary _
  · exact mark.fieldsIn_tokens
  · intro keyword
    simp

/-- What the value of a word and an integer make, if the word has a value. -/
theorem evaluate_name (scope : Scope) (heap : Heap) {word literal : String} {value : Int}
    (hword : isName word = true) (hliteral : integer? literal = some value) :
    evaluate scope heap (word ++ " " ++ joint.symbol ++ " " ++ literal) =
      match scope.get? (nameOf word) with
      | some found => found.operate heap joint.operator (.int value)
      | none => .error (.undefinedName (nameOf word)) := by
  obtain ⟨mark, digits, n, hchars, hdigits, rfl⟩ := integer?_eq_some_iff.mp hliteral
  rw [evaluate, ofString_name joint mark hword hchars hdigits]
  simp only [eval]
  cases scope.get? (nameOf word) with
  | none => rfl
  | some found =>
      simp only [eval_signed]
      rfl

end Tail

end Dalvik.Expr
