import Dalvik.Proofs.IntegerLiterals
import Mathlib.Algebra.Ring.Int.Defs

/-!
# Sums before an operator

A text that writes a sum of integers in decimal, an operator and another integer is one expression.
The operator does not take the sum as a whole: one that binds closer than a sum takes only the last
summand. A single integer is a sum too.
-/

/-- An integer with a decimal text. -/
def Dalvik.Number.Printable (value : Int) : Prop :=
  (Nat.toDigits 10 value.natAbs).length ≤ Dalvik.Number.maxDigits

instance (value : Int) : Decidable (Dalvik.Number.Printable value) :=
  inferInstanceAs (Decidable (_ ≤ _))

namespace Dalvik.Expr

variable {fuel depth n : Nat} {content : Bool} {chars text : List Char} {input : List Token}

/-! ### Tokens -/

/-- The sign that an integer is printed with. -/
def Sign.of : Int → Sign
  | .ofNat _ => none
  | .negSucc _ => minus

theorem Sign.value_of (value : Int) : (Sign.of value).value value.natAbs = value := by
  cases value <;> rfl

theorem toList_toString_int (value : Int) :
    (toString value).toList = (Sign.of value).chars ++ Nat.toDigits 10 value.natAbs := by
  cases value with
  | ofNat n => exact Nat.toList_repr
  | negSucc n =>
      rw [Int.toString_eq_repr, Int.repr, String.toList_append, Nat.toList_repr]
      rfl

def printedTokens (value : Int) : List Token :=
  (Sign.of value).tokens ++ [.constant (.int value.natAbs)]

/-- The characters of summands in decimal, each with the plus sign that follows it. -/
def sumChars (terms : List Int) (text : List Char) : List Char :=
  terms.foldr (fun term text => (toString term).toList ++ ' ' :: '+' :: ' ' :: text) text

def sumTokens (terms : List Int) (input : List Token) : List Token :=
  terms.foldr (fun term input => printedTokens term ++ .symbol "+" :: input) input

theorem isOrdinary_toString (value : Int) (hprintable : Number.Printable value) :
    ∀ c ∈ (toString value).toList, isOrdinary c = true := by
  intro c hc
  rw [toList_toString_int] at hc
  rcases List.mem_append.mp hc with hc | hc
  · exact (Sign.of value).isOrdinary_chars c hc
  · exact (magnitude_toDigits hprintable).isOrdinary c hc

/-- An integer in decimal, an operator between blanks and whatever follows. -/
theorem tokensFrom_printed (joint : Joint) {value : Int} (hprintable : Number.Printable value)
    (hdepth : depth ≤ maxNesting)
    (hfuel : ((toString value).toList ++ ' ' :: joint.char :: ' ' :: text).length < fuel)
    (htext : ∀ spare, text.length < spare → tokensFrom spare depth true false text = some input) :
    tokensFrom fuel depth content false
        ((toString value).toList ++ ' ' :: joint.char :: ' ' :: text) =
      some (printedTokens value ++ .symbol joint.symbol :: input) := by
  have hdecimal := magnitude_toDigits hprintable
  have hpos := hdecimal.length_pos
  rw [toList_toString_int] at hfuel ⊢
  simp only [List.length_append, List.length_cons] at hfuel
  obtain ⟨spare, rfl⟩ : ∃ spare, fuel = (spare + 3) + (Sign.of value).chars.length + 1 :=
    ⟨fuel - (Sign.of value).chars.length - 4, by omega⟩
  have hread := numberOf_toDigits value.natAbs hprintable
    (Or.inr ⟨_, rfl⟩ : EndsAtBlank (' ' :: joint.char :: ' ' :: text))
  have hjoint := tokensFrom_joint joint hdepth (htext spare (by omega))
  rw [List.append_assoc, printedTokens, List.append_assoc]
  exact tokensFrom_signed (Sign.of value) hdepth (hdecimal.head_append _) hread hjoint

theorem tokensFrom_sum (joint : Joint) {terms : List Int} {last : Int}
    (hterms : ∀ term ∈ terms, Number.Printable term) (hlast : Number.Printable last)
    (hfuel : (sumChars terms ((toString last).toList ++ ' ' :: joint.char :: ' ' :: text)).length
      < fuel)
    (htext : ∀ spare, text.length < spare → tokensFrom spare 0 true false text = some input) :
    tokensFrom fuel 0 content false
        (sumChars terms ((toString last).toList ++ ' ' :: joint.char :: ' ' :: text)) =
      some (sumTokens terms (printedTokens last ++ .symbol joint.symbol :: input)) := by
  induction terms generalizing fuel content with
  | nil => exact tokensFrom_printed joint hlast (Nat.zero_le _) hfuel htext
  | cons term terms ih =>
      obtain ⟨hterm, hterms⟩ := List.forall_mem_cons.mp hterms
      exact tokensFrom_printed .sum hterm (Nat.zero_le _) hfuel fun spare hspare => ih hterms hspare

theorem isOrdinary_sumChars {terms : List Int} (hterms : ∀ term ∈ terms, Number.Printable term)
    (htext : ∀ c ∈ text, isOrdinary c = true) : ∀ c ∈ sumChars terms text, isOrdinary c = true := by
  induction terms with
  | nil => exact htext
  | cons term terms ih =>
      obtain ⟨hterm, hterms⟩ := List.forall_mem_cons.mp hterms
      intro c hc
      rw [sumChars, List.foldr_cons, ← sumChars] at hc
      simp only [List.mem_append, List.mem_cons] at hc
      rcases hc with hc | rfl | rfl | rfl | hc
      · exact isOrdinary_toString term hterm c hc
      · rfl
      · rfl
      · rfl
      · exact ih hterms c hc

theorem isGap_head_sumChars {terms : List Int} {last : Int}
    (hterms : ∀ term ∈ terms, Number.Printable term) (hlast : Number.Printable last) :
    ∀ c, (sumChars terms ((toString last).toList ++ text)).head? = some c → isGap c = false := by
  cases terms with
  | nil =>
      rw [sumChars, List.foldr_nil, toList_toString_int]
      exact (magnitude_toDigits hlast).isGap_head (Sign.of last) text
  | cons term terms =>
      rw [sumChars, List.foldr_cons, toList_toString_int]
      exact (magnitude_toDigits (hterms term List.mem_cons_self)).isGap_head (Sign.of term) _

/-- A sum of integers in decimal, and an operator with another integer after it. -/
theorem tokens_sum (joint : Joint) (right : Sign) {terms : List Int} {last : Int}
    (hterms : ∀ term ∈ terms, Number.Printable term) (hlast : Number.Printable last)
    (hdigits : Magnitude chars n) :
    tokens (sumChars terms ((toString last).toList ++
        ' ' :: joint.char :: ' ' :: (right.chars ++ chars))) =
      some (sumTokens terms (printedTokens last ++ .symbol joint.symbol ::
        (right.tokens ++ [.constant (.int n)]))) := by
  rw [tokens_of_plain (isGap_head_sumChars hterms hlast)]
  · apply tokensFrom_sum joint hterms hlast (Nat.lt_succ_self _)
    exact fun spare hspare => tokensFrom_integer right (Nat.zero_le _) hdigits hspare
  · apply isOrdinary_sumChars hterms
    intro c hc
    rcases List.mem_append.mp hc with hc | hc
    · exact isOrdinary_toString last hlast c hc
    · exact isOrdinary_tail joint right hdigits c hc

/-! ### From summands up to expressions -/

def printedExpr (value : Int) : Expr :=
  (Sign.of value).expr value.natAbs

/-- The expression of a sum that an operator with an integer follows; the operator may take the last
summand away from the sum. -/
def Joint.close (left last right : Expr) : Joint → Expr
  | sum => .binary .add (.binary .add left last) right
  | product => .binary .add left (.binary .mul last right)

/-- The expression of a whole sum and what follows it. -/
def Joint.sumExpr (last right : Expr) (joint : Joint) : List Int → Expr
  | [] => .binary joint.operator last right
  | first :: terms =>
    joint.close (terms.foldl (fun left term => .binary .add left (printedExpr term))
      (printedExpr first)) last right

/-- A summand is read up to the operator that follows. -/
theorem readFactor_printed (value : Int) (joint : Joint) (others : List Token) :
    readFactor (fuel + 6) (printedTokens value ++ .symbol joint.symbol :: others) =
      some (printedExpr value, .symbol joint.symbol :: others) := by
  rw [printedTokens, List.append_assoc]
  exact readFactor_signed (Sign.of value) (Or.inr ⟨joint, others, rfl⟩)

theorem readBinary_summand (value : Int) (others : List Token) :
    readBinary (fuel + 7) 6 (printedTokens value ++ .symbol "+" :: others) =
      some (printedExpr value, .symbol "+" :: others) := by
  have hfactor := @readFactor_printed fuel value .sum others
  rw [readBinary]
  change (readFactor (fuel + 6) (printedTokens value ++ .symbol Joint.sum.symbol :: others)).bind _
    = _
  rw [hfactor]
  rfl

theorem readBinaryRest_close (left : Expr) (last : Int) (joint : Joint) (right : Sign) :
    readBinaryRest (fuel + 10) 1 left (.symbol "+" ::
        (printedTokens last ++ .symbol joint.symbol :: (right.tokens ++ [.constant (.int n)]))) =
      some (joint.close left (printedExpr last) (right.expr n), []) := by
  change (readBinary (fuel + 9) 6 (printedTokens last ++ .symbol joint.symbol ::
    (right.tokens ++ [.constant (.int n)]))).bind _ = _
  cases joint with
  | sum =>
      have hlast := @readBinary_summand (fuel + 2) last (right.tokens ++ [.constant (.int n)])
      change (readBinary (fuel + 9) 6 (printedTokens last ++ .symbol "+" :: _)).bind _ = _
      rw [hlast]
      exact readBinaryRest_joint _ .sum right (show 1 ≤ 5 by decide)
  | product =>
      have hlast : readBinary (fuel + 9) 6 (printedTokens last ++ .symbol Joint.product.symbol ::
          (right.tokens ++ [.constant (.int n)])) =
            some (.binary .mul (printedExpr last) (right.expr n), []) := by
        rw [readBinary, readFactor_printed]
        exact readBinaryRest_joint _ .product right (show 6 ≤ 6 by decide)
      rw [hlast]
      rfl

theorem readBinaryRest_sum (left : Expr) (terms : List Int) (last : Int) (joint : Joint)
    (right : Sign) :
    readBinaryRest (fuel + terms.length + 10) 1 left (.symbol "+" :: sumTokens terms
        (printedTokens last ++ .symbol joint.symbol :: (right.tokens ++ [.constant (.int n)]))) =
      some (joint.close (terms.foldl (fun left term => .binary .add left (printedExpr term)) left)
        (printedExpr last) (right.expr n), []) := by
  induction terms generalizing left with
  | nil => exact readBinaryRest_close left last joint right
  | cons term terms ih =>
      change (readBinary (fuel + terms.length + 10) 6 (printedTokens term ++ .symbol "+" ::
        sumTokens terms _)).bind _ = _
      rw [readBinary_summand]
      exact ih (.binary .add left (printedExpr term))

theorem length_le_sumTokens (terms : List Int) (input : List Token) :
    terms.length ≤ (sumTokens terms input).length := by
  induction terms with
  | nil => exact Nat.zero_le _
  | cons term terms ih =>
      rw [sumTokens, List.foldr_cons, List.length_append, List.length_cons, List.length_cons]
      change _ ≤ _ + ((sumTokens terms input).length + 1)
      omega

theorem readBinary_sum (terms : List Int) (last : Int) (joint : Joint) (right : Sign) {input}
    (hinput : input = sumTokens terms
      (printedTokens last ++ .symbol joint.symbol :: (right.tokens ++ [.constant (.int n)]))) :
    readBinary (fuel + input.length + 9) 1 input =
      some (joint.sumExpr (printedExpr last) (right.expr n) terms, []) := by
  subst hinput
  cases terms with
  | nil =>
      rw [readBinary, sumTokens, List.foldr_nil, readFactor_printed]
      exact readBinaryRest_joint _ joint right joint.one_le_level
  | cons first terms =>
      have hlength := length_le_sumTokens terms (printedTokens last ++ .symbol joint.symbol ::
        (right.tokens ++ [.constant (.int n)]))
      generalize hothers : sumTokens terms (printedTokens last ++ .symbol joint.symbol ::
        (right.tokens ++ [.constant (.int n)])) = others at hlength
      have hcons : sumTokens (first :: terms) (printedTokens last ++ .symbol joint.symbol ::
          (right.tokens ++ [.constant (.int n)])) =
            printedTokens first ++ .symbol Joint.sum.symbol :: others := by
        rw [← hothers]
        rfl
      -- the fuel lasts for this level and for a round of each term
      obtain ⟨spare, hspare⟩ : ∃ spare, fuel +
          (printedTokens first ++ .symbol Joint.sum.symbol :: others).length + 9 =
            (spare + terms.length + 10) + 1 := by
        have hpos : 0 < (printedTokens first).length := by simp [printedTokens]
        simp only [List.length_append, List.length_cons]
        exact ⟨fuel + (printedTokens first).length + others.length - terms.length - 1, by omega⟩
      rw [hcons, hspare, readBinary, readFactor_printed, ← hothers]
      exact readBinaryRest_sum (printedExpr first) terms last joint right

theorem head?_sumTokens (terms : List Int) (last : Int) (others : List Token) (word : String) :
    (sumTokens terms (printedTokens last ++ others)).head? ≠ some (.keyword word) := by
  cases terms with
  | nil =>
      rw [sumTokens, List.foldr_nil, printedTokens, List.append_assoc]
      exact (Sign.of last).head?_tokens word
  | cons term terms =>
      rw [sumTokens, List.foldr_cons, printedTokens, List.append_assoc]
      exact (Sign.of term).head?_tokens word

theorem fieldsIn_printedTokens (value : Int) (others : List Token) :
    fieldsIn (printedTokens value ++ others) = fieldsIn others := by
  rw [printedTokens, List.append_assoc]
  exact (Sign.of value).fieldsIn_tokens

theorem fieldsIn_sumTokens (terms : List Int) (others : List Token) :
    fieldsIn (sumTokens terms others) = fieldsIn others := by
  induction terms with
  | nil => rfl
  | cons term terms ih => exact (fieldsIn_printedTokens term _).trans ih

theorem ofString_sum (joint : Joint) (right : Sign) {text : String} {terms : List Int} {last : Int}
    (htext : text.toList = sumChars terms ((toString last).toList ++
      ' ' :: joint.char :: ' ' :: (right.chars ++ chars)))
    (hterms : ∀ term ∈ terms, Number.Printable term) (hlast : Number.Printable last)
    (hdigits : Magnitude chars n) :
    ofString text = some (joint.sumExpr (printedExpr last) (right.expr n) terms) := by
  rw [ofString, htext]
  apply ofChars_of_readBinary (tokens_sum joint right hterms hlast hdigits)
  · rw [fieldsIn_sumTokens, fieldsIn_printedTokens]
    exact right.fieldsIn_tokens
  · exact head?_sumTokens terms last _
  · exact fun fuel => readBinary_sum terms last joint right rfl

/-! ### Values -/

theorem eval_printed (scope : Scope) (heap : Heap) (value : Int) :
    (printedExpr value).eval scope heap = .ok (.int value, heap) := by
  rw [printedExpr, eval_signed, Sign.value_of]

theorem eval_binary {scope : Scope} {heap : Heap} {left right : Expr} {x y : Int} (joint : Joint)
    (hleft : left.eval scope heap = .ok (.int x, heap))
    (hright : right.eval scope heap = .ok (.int y, heap)) :
    (Expr.binary joint.operator left right).eval scope heap =
      .ok (.int (joint.value x y), heap) := by
  rw [eval, hleft]
  change (right.eval scope heap >>= _) = _
  rw [hright]
  exact operate_joint heap joint x y

theorem eval_terms {scope : Scope} {heap : Heap} (terms : List Int) {left : Expr} {x : Int}
    (hleft : left.eval scope heap = .ok (.int x, heap)) :
    (terms.foldl (fun left term => .binary .add left (printedExpr term)) left).eval scope heap =
      .ok (.int (x + terms.sum), heap) := by
  induction terms generalizing left x with
  | nil => simpa using hleft
  | cons term terms ih =>
      have hnext := eval_binary .sum hleft (eval_printed scope heap term)
      have hrest := ih hnext
      rw [List.sum_cons, ← Int.add_assoc]
      exact hrest

/-- The value of a sum, whose last summand may belong to a product instead. -/
theorem eval_sumExpr (scope : Scope) (heap : Heap) (joint : Joint) (terms : List Int) (last : Int)
    {right : Expr} {y : Int} (hright : right.eval scope heap = .ok (.int y, heap)) :
    (joint.sumExpr (printedExpr last) right terms).eval scope heap =
      .ok (.int (terms.sum + joint.value last y), heap) := by
  have hlast := eval_printed scope heap last
  cases terms with
  | nil =>
      rw [List.sum_nil, Int.zero_add]
      exact eval_binary joint hlast hright
  | cons first terms =>
      have hterms := eval_terms terms (eval_printed scope heap first)
      rw [List.sum_cons]
      cases joint with
      | sum =>
          rw [Joint.value, ← Int.add_assoc]
          exact eval_binary .sum (eval_binary .sum hterms hlast) hright
      | product => exact eval_binary .sum hterms (eval_binary .product hlast hright)

/-- The text of a sum, every summand in decimal. -/
def sumText (terms : List Int) (last : Int) : String :=
  terms.foldr (fun term text => toString term ++ " + " ++ text) (toString last)

theorem toList_sumText_append (terms : List Int) (last : Int) (more : String) :
    (sumText terms last ++ more).toList =
      sumChars terms ((toString last).toList ++ more.toList) := by
  induction terms with
  | nil => exact String.toList_append
  | cons term terms ih =>
      rw [String.toList_append] at ih
      rw [sumText, List.foldr_cons, ← sumText, sumChars, List.foldr_cons, ← sumChars, ← ih]
      simp only [String.toList_append]
      simp

theorem ofString_sumText (joint : Joint) (mark : Sign) {terms : List Int} {last : Int}
    {text : String} (hterms : ∀ term ∈ terms, Number.Printable term)
    (hlast : Number.Printable last) (hchars : text.toList = mark.chars ++ chars)
    (hdigits : Magnitude chars n) :
    ofString (sumText terms last ++ " " ++ joint.symbol ++ " " ++ text) =
      some (joint.sumExpr (printedExpr last) (mark.expr n) terms) := by
  refine ofString_sum joint mark ?_ hterms hlast hdigits
  rw [String.append_assoc, String.append_assoc, String.append_assoc, toList_sumText_append]
  simp only [String.toList_append, hchars, Joint.symbol, String.toList_singleton]
  simp

/-- A sum of integers in decimal, an operator and a written integer evaluate to what they stand for,
where a product binds closer than the sum. -/
theorem evaluate_sum (scope : Scope) (heap : Heap) (joint : Joint) {terms : List Int}
    {last value : Int} {text : String} (hterms : ∀ term ∈ terms, Number.Printable term)
    (hlast : Number.Printable last) (htext : integer? text = some value) :
    evaluate scope heap (sumText terms last ++ " " ++ joint.symbol ++ " " ++ text) =
      .ok (.int (terms.sum + joint.value last value), heap) := by
  obtain ⟨mark, digits, n, hchars, hdigits, rfl⟩ := integer?_eq_some_iff.mp htext
  rw [evaluate, ofString_sumText joint mark hterms hlast hchars hdigits]
  exact eval_sumExpr scope heap joint terms last (eval_signed scope heap mark)

/-- An integer in decimal, an operator and a written integer evaluate to what the operator makes of
the two. -/
theorem evaluate_joined (scope : Scope) (heap : Heap) (joint : Joint) {left right : Int}
    {text : String} (hlength : (Nat.toDigits 10 left.natAbs).length ≤ Number.maxDigits)
    (htext : integer? text = some right) :
    evaluate scope heap (toString left ++ " " ++ joint.symbol ++ " " ++ text) =
      .ok (.int (joint.value left right), heap) := by
  have hsum := evaluate_sum scope heap joint (List.forall_mem_nil _) hlength htext
  rwa [List.sum_nil, Int.zero_add] at hsum

end Dalvik.Expr
