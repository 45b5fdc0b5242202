import Dalvik.Proofs.Blocks
import Dalvik.Proofs.WrittenWords

/-!
# Single characters before an operator

A character that is no letter makes an expression with the operator and the integer after it in few
cases only: a digit is a number, a blank leaves the operator as a sign, and a sign is put before
that. Every other character begins nothing that could be read to its end.
-/

namespace Dalvik.Expr

variable {fuel n : Nat} {c : Char} {digits text : List Char} (joint : Joint) (mark : Sign)

/-! ### Single characters before an operator -/

/-- Characters that are symbols of their own before a blank. -/
def singleSymbols : List Char :=
  ['+', '-', '*', '/', '%', '@', '&', '|', '^', '~', '<', '>', '(', ')', '[', ']', '\x7b', '\x7d',
    ',', ':', '.', ';', '=']

/-- No longer symbol is cut short by a blank. -/
theorem startsWith_blank {symbol : String} (hsymbol : symbol ∈ symbols) :
    startsWith symbol (c :: ' ' :: text) = (symbol.toList == [c]) := by
  have hshape : ∀ symbol ∈ symbols, symbol.toList ≠ [] ∧ symbol.toList.tail.head? ≠ some ' ' := by
    decide +kernel
  obtain ⟨hne, hblank⟩ := hshape symbol hsymbol
  rw [startsWith, Bool.eq_iff_iff, List.isPrefixOf_iff_prefix, beq_iff_eq]
  cases hchars : symbol.toList with
  | nil => exact absurd hchars hne
  | cons first rest =>
      cases rest with
      | nil => simp [List.cons_prefix_cons]
      | cons second rest =>
          have hsecond : second ≠ ' ' := by
            rintro rfl
            rw [hchars] at hblank
            exact hblank rfl
          simp [List.cons_prefix_cons, hsecond]

theorem find?_symbols_blank :
    symbols.find? (startsWith · (c :: ' ' :: text)) = symbols.find? (·.toList == [c]) := by
  rw [← List.head?_filter, ← List.head?_filter,
    List.filter_congr fun _ hsymbol => startsWith_blank hsymbol]

theorem symbolOf_single (hc : c ∈ singleSymbols) :
    symbolOf (c :: ' ' :: text) = some (String.singleton c, ' ' :: text) := by
  have hfound : ∀ d ∈ singleSymbols, symbols.find? (·.toList == [d]) = some (String.singleton d) :=
    Text.forall_mem_of_all (by decide +kernel)
  rw [symbolOf, find?_symbols_blank, hfound c hc]
  simp [String.length_singleton]

theorem symbolOf_eq_none (hc : c ∉ singleSymbols) : symbolOf (c :: ' ' :: text) = none := by
  have hsingle : ∀ symbol ∈ symbols, symbol.toList.tail = [] → symbol.toList ⊆ singleSymbols := by
    decide +kernel
  have hnone : symbols.find? (·.toList == [c]) = none := by
    rw [List.find?_eq_none]
    intro symbol hsymbol hchars
    have hlist : symbol.toList = [c] := eq_of_beq hchars
    have hmem := hsingle symbol hsymbol
    rw [hlist] at hmem
    exact hc (hmem rfl List.mem_cons_self)
  rw [symbolOf, find?_symbols_blank, hnone]
  rfl

theorem markOf_blank {marks : TextMark} (hc : c ≠ '"' ∧ c ≠ '\'') :
    markOf marks (c :: ' ' :: text) = none := by
  simp [markOf, hc]

theorem nextToken_single (hc : c ∈ singleSymbols) :
    nextToken (c :: ' ' :: text) = some (.symbol (String.singleton c), ' ' :: text) := by
  have hplain : ∀ d ∈ singleSymbols, (d ≠ '"' ∧ d ≠ '\'') ∧ Text.isAsciiDigit d = false ∧
      Text.isNameStart d = false := Text.forall_mem_of_all (by decide +kernel)
  obtain ⟨hquote, hdigit, hname⟩ := hplain c hc
  have hblank : Text.isAsciiDigit ' ' = false := rfl
  simp [nextToken, markOf_blank hquote, hdigit, hname, hblank, symbolOf_single hc]

theorem untilQuote_eq_none {quote : Char} (htext : quote ∉ text) :
    untilQuote quote text = none := by
  fun_induction untilQuote quote text with
  | case1 => rfl
  | case2 d rest ih =>
      rw [ih fun hmem => htext (List.mem_cons_of_mem _ (List.mem_cons_of_mem _ hmem))]
      rfl
  | case3 rest hnone => exact absurd List.mem_cons_self htext
  | case4 rest hne => rfl
  | case5 d rest hshape hquote hline ih =>
      rw [ih fun hmem => htext (List.mem_cons_of_mem _ hmem)]
      rfl

theorem notMem_tail (hdigits : Magnitude digits n) {d : Char}
    (hd : d = '"' ∨ d = '\'' ∨ d = '\n') :
    d ∉ ' ' :: joint.char :: ' ' :: (mark.chars ++ digits) := by
  intro hmem
  simp only [List.mem_cons, List.mem_append] at hmem
  rcases hmem with rfl | rfl | rfl | hmem | hmem
  · simp at hd
  · cases joint <;> simp [Joint.char] at hd
  · simp at hd
  · cases mark <;> simp [Sign.chars] at hmem <;> subst hmem <;> simp at hd
  · have hnumeral := List.all_eq_true.mp hdigits.plain d hmem
    rcases hd with rfl | rfl | rfl <;> cases hnumeral

/-- A quote that is not closed begins no token. -/
theorem nextToken_quote (hdigits : Magnitude digits n) (hc : c = '"' ∨ c = '\'') :
    nextToken (c :: ' ' :: joint.char :: ' ' :: (mark.chars ++ digits)) = none := by
  have hbody : bodyOf (c :: ' ' :: joint.char :: ' ' :: (mark.chars ++ digits)) = none := by
    have hopen : ¬(' ' :: joint.char :: ' ' :: (mark.chars ++ digits)).take 2 = [c, c] := by
      rcases hc with rfl | rfl <;> simp
    rw [bodyOf, if_neg hopen]
    exact untilQuote_eq_none (notMem_tail joint mark hdigits (hc.imp_right .inl))
  have hmark : markOf {} (c :: ' ' :: joint.char :: ' ' :: (mark.chars ++ digits)) =
      some ({}, c :: ' ' :: joint.char :: ' ' :: (mark.chars ++ digits)) := by
    rcases hc with rfl | rfl <;> rfl
  rw [nextToken, hmark]
  simp [textOf, hbody]

/-- Before a blank, other characters than quotes, digits, letters and symbols begin no token. -/
theorem nextToken_other (hquote : c ≠ '"' ∧ c ≠ '\'') (hdigit : Text.isAsciiDigit c = false)
    (hname : Text.isNameStart c = false) (hsymbol : c ∉ singleSymbols) :
    nextToken (c :: ' ' :: text) = none := by
  have hblank : Text.isAsciiDigit ' ' = false := rfl
  simp [nextToken, markOf_blank hquote, hdigit, hname, hblank, symbolOf_eq_none hsymbol]

theorem tokensFrom_indented :
    tokensFrom (fuel + 2) 0 false false (' ' :: joint.char :: text) = none := by
  cases joint <;> rfl

section Characters

variable (hdigits : Magnitude digits n)

include hdigits

theorem tokens_character (hc : isOrdinary c = true) (hblank : c ≠ ' ' ∧ c ≠ '\t') :
    tokens (c :: ' ' :: joint.char :: ' ' :: (mark.chars ++ digits)) =
      tokensFrom ((mark.chars ++ digits).length + 5) 0 false false
        (c :: ' ' :: joint.char :: ' ' :: (mark.chars ++ digits)) := by
  apply tokens_of_ordinary
  · rintro d ⟨⟩
    exact hblank
  · exact List.forall_mem_cons.mpr ⟨hc, isOrdinary_tail joint mark hdigits⟩

/-- Line ends, form feeds and backslashes cannot stand before the blank. -/
theorem tokens_gap (hc : c = '\n' ∨ c = '\r' ∨ c = Char.ofNat 12 ∨ c = '\\' ∨ c = Char.ofNat 0) :
    tokens (c :: ' ' :: joint.char :: ' ' :: (mark.chars ++ digits)) = none := by
  have hline : tokens ('\n' :: ' ' :: joint.char :: ' ' :: (mark.chars ++ digits)) = none := by
    rw [tokens_character joint mark hdigits rfl (by decide)]
    exact tokensFrom_indented joint
  rcases hc with rfl | rfl | rfl | rfl | rfl
  · exact hline
  · exact hline
  · rw [tokens_character joint mark hdigits rfl (by decide)]
    exact tokensFrom_indented joint
  · rw [tokens_character joint mark hdigits rfl (by decide)]
    rfl
  · simp [tokens, unifyLineEnds]

/-- A comment hides the operator. -/
theorem tokens_comment :
    tokens ('#' :: ' ' :: joint.char :: ' ' :: (mark.chars ++ digits)) = some [] := by
  have hline : (' ' :: joint.char :: ' ' :: (mark.chars ++ digits)).dropWhile (· != '\n') = [] := by
    have hall : ∀ d ∈ ' ' :: joint.char :: ' ' :: (mark.chars ++ digits),
        (d != '\n') = true := by
      intro d hd
      rw [bne_iff_ne]
      rintro rfl
      exact notMem_tail joint mark hdigits (.inr (.inr rfl)) hd
    have hdropped := @List.dropWhile_append_of_pos _ (· != '\n') _ [] hall
    rwa [List.append_nil] at hdropped
  rw [tokens_character joint mark hdigits rfl (by decide)]
  change tokensFrom ((mark.chars ++ digits).length + 4) 0 false false (List.dropWhile _ _) = _
  rw [hline]
  rfl

/-- A blank changes nothing. -/
theorem tokens_blank (hc : c = ' ' ∨ c = '\t') :
    tokens (c :: ' ' :: joint.char :: ' ' :: (mark.chars ++ digits)) =
      some (.symbol joint.symbol :: (mark.tokens ++ [.constant (.int n)])) := by
  have hsame : tokens (c :: ' ' :: joint.char :: ' ' :: (mark.chars ++ digits)) =
      tokens (joint.char :: ' ' :: (mark.chars ++ digits)) := by
    rcases hc with rfl | rfl <;> rfl
  have hjoint : joint.char ∈ singleSymbols := by cases joint <;> decide
  rw [hsame, tokens_of_plain]
  · refine tokensFrom_token (by cases joint <;> rfl) (by cases joint <;> decide)
      (nextToken_single hjoint) ?_
    have hrest := @tokensFrom_integer ((mark.chars ++ digits).length + 1) 0 n true digits mark
      (Nat.zero_le _) hdigits (Nat.lt_succ_self _)
    cases joint <;> exact hrest
  · rintro d ⟨⟩
    cases joint <;> rfl
  · exact (List.forall_mem_cons.mp (isOrdinary_tail joint mark hdigits)).2

theorem tokens_single (hc : c ∈ singleSymbols) :
    tokens (c :: ' ' :: joint.char :: ' ' :: (mark.chars ++ digits)) =
      some (.symbol (String.singleton c) :: .symbol joint.symbol ::
        (mark.tokens ++ [.constant (.int n)])) := by
  have hplain : ∀ d ∈ singleSymbols, isOrdinary d = true ∧ isGap d = false ∧
      (Token.symbol (String.singleton d)).nesting 0 ≤ maxNesting ∧ d ≠ ' ' ∧ d ≠ '\t' :=
    Text.forall_mem_of_all (by decide)
  obtain ⟨hordinary, hgap, hdepth, hblank⟩ := hplain c hc
  rw [tokens_character joint mark hdigits hordinary hblank]
  refine tokensFrom_token hgap hdepth (nextToken_single hc)
    (tokensFrom_tail joint mark hdepth hdigits ?_)
  simp only [List.length_cons]
  omega

end Characters

theorem readFactor_unary {symbol : String} {operator : Unary} {rest : List Token}
    (hsymbol : unaryOf symbol = some operator) :
    readFactor (fuel + 1) (.symbol symbol :: rest) =
      (readFactor fuel rest).map fun found => (.unary operator found.1, found.2) := by
  rw [readFactor]
  simp only [hsymbol]
  cases readFactor fuel rest <;> rfl

theorem readBinary_of_readFactor {input : List Token} {expr : Expr} {level : Nat}
    (hfactor : readFactor (fuel + 1) input = some (expr, [])) :
    readBinary (fuel + 2) level input = some (expr, []) := by
  rw [readBinary, hfactor]
  rfl

theorem readFactor_plus :
    readFactor (fuel + 7) (.symbol "+" :: (mark.tokens ++ [.constant (.int n)])) =
      some (.unary .plus (mark.expr n), []) := by
  rw [readFactor_unary rfl, readFactor_signed mark (Or.inl rfl)]
  rfl

/-- The operator and the integer as an item of a list. -/
def Joint.item (operand : Expr) : Joint → Expr
  | sum => .unary .plus operand
  | product => .spread operand

theorem readItem_joint :
    readItem (fuel + 20) (.symbol joint.symbol :: (mark.tokens ++ [.constant (.int n)])) =
      some (joint.item (mark.expr n), []) := by
  cases joint with
  | sum =>
      have hexpression : readExpression (fuel + 18)
          (.symbol "+" :: (mark.tokens ++ [.constant (.int n)])) = _ :=
        readExpression_of_readBinary (by simp)
          (readBinary_of_readFactor (readFactor_plus mark))
      exact hexpression
  | product =>
      change (readBinary (fuel + 19) 1 (mark.tokens ++ [.constant (.int n)])).bind _ = _
      rw [readBinary_integer]
      rfl

/-- A bracket that is not closed begins no operand. -/
theorem readFactor_bracket {symbol : String} (hsymbol : symbol ∈ ["(", "[", "\x7b"]) :
    readFactor (fuel + 59) (.symbol symbol :: .symbol joint.symbol ::
      (mark.tokens ++ [.constant (.int n)])) = none := by
  have hitem : readItem (fuel + 53) (.symbol joint.symbol ::
      (mark.tokens ++ [.constant (.int n)])) = some (joint.item (mark.expr n), []) :=
    readItem_joint joint mark
  have hunary : ∀ bracket ∈ ["(", "[", "\x7b"], unaryOf bracket = none := by decide
  apply readFactor_of_readAtom (hunary symbol hsymbol)
  simp only [List.mem_cons, List.not_mem_nil, or_false] at hsymbol
  rcases hsymbol with rfl | rfl | rfl <;> cases joint
  all_goals
    change (readItem (fuel + 53) _).bind _ = none
    rw [hitem]
    cases mark <;> rfl

/-! ### What a character makes of the integer that follows -/

/-- The value of an ASCII digit. -/
def digit (c : Char) : Int :=
  c.toNat - 48

/-- What a character other than a letter makes of an operator and an integer that follow it. A digit
is a number, a blank leaves the operator as a sign, and a sign is put before it. -/
def characterValue (c : Char) (t : Int) : Joint → Option Int
  | .sum =>
    if Text.isAsciiDigit c then some (digit c + t)
    else if c = ' ' ∨ c = '\t' ∨ c = '+' then some t
    else if c = '-' then some (-t)
    else if c = '~' then some (-t - 1)
    else none
  | .product => if Text.isAsciiDigit c then some (digit c * t) else none

/-- The value of the expression that such a character begins, or the fault. -/
def characterResult (heap : Heap) (c : Char) (t : Int) (joint : Joint) :
    Except Fault (Value × Heap) :=
  match characterValue c t joint with
  | some result => .ok (.int result, heap)
  | none => .error .notAnExpression

section Characters

variable (scope : Scope) (heap : Heap) {value : Int} {literal : String}

theorem toList_character (hchars : literal.toList = mark.chars ++ digits) :
    (String.singleton c ++ " " ++ joint.symbol ++ " " ++ literal).toList =
      c :: ' ' :: joint.char :: ' ' :: (mark.chars ++ digits) := by
  simp only [String.toList_append, hchars, Joint.symbol, String.toList_singleton]
  simp

/-- Where the tokens make an expression with two signs at most, it has their value. -/
theorem evaluate_of_readFactor {text : String} {input : List Token} {expr : Expr}
    (htokens : tokens text.toList = some input) (hfields : fieldsIn input = [])
    (hkeyword : ∀ word, input.head? ≠ some (.keyword word))
    (hfactor : ∀ fuel, readFactor (fuel + 8) input = some (expr, [])) :
    evaluate scope heap text = expr.eval scope heap := by
  have hread : ofString text = some expr :=
    ofChars_of_readBinary htokens hfields hkeyword fun fuel =>
      readBinary_of_readFactor (hfactor (fuel + input.length))
  rw [evaluate, hread]

theorem evaluate_of_tokens {text : String} (htokens : tokens text.toList = none) :
    evaluate scope heap text = .error .notAnExpression := by
  have hread : ofString text = none := by
    rw [ofString, ofChars, htokens]
    rfl
  rw [evaluate, hread]

theorem evaluate_of_readFactor_none {text : String} {input : List Token}
    (htokens : tokens text.toList = some input)
    (hkeyword : ∀ word, input.head? ≠ some (.keyword word))
    (hfactor : ∀ fuel, readFactor (fuel + 59) input = none) :
    evaluate scope heap text = .error .notAnExpression := by
  have hread : ofString text = none := ofChars_eq_none htokens hkeyword hfactor
  rw [evaluate, hread]

theorem unaryOf_singleton (hc : c ≠ '+' ∧ c ≠ '-' ∧ c ≠ '~') :
    unaryOf (String.singleton c) = none := by
  have hne : ∀ d, c ≠ d → String.singleton c ≠ String.singleton d := by
    intro d hd heq
    have hchars := congrArg String.toList heq
    rw [String.toList_singleton, String.toList_singleton] at hchars
    exact hd (List.cons.inj hchars).1
  unfold unaryOf
  split
  case h_1 heq => exact absurd heq (hne '+' hc.1)
  case h_2 heq => exact absurd heq (hne '-' hc.2.1)
  case h_3 heq => exact absurd heq (hne '~' hc.2.2)
  case h_4 => rfl

theorem evaluate_plus (hdigits : Magnitude digits n) {text : String} {operator : Unary}
    (hunary : unaryOf (String.singleton c) = some operator) (hc : c ∈ singleSymbols)
    (htext : text.toList = c :: ' ' :: Joint.sum.char :: ' ' :: (mark.chars ++ digits)) :
    evaluate scope heap text = applyUnary heap operator (.int (mark.value n)) := by
  have htokens : tokens text.toList = _ := htext ▸ tokens_single .sum mark hdigits hc
  rw [evaluate_of_readFactor scope heap htokens mark.fieldsIn_tokens (by simp) fun fuel =>
    (readFactor_unary hunary).trans (congrArg _ (readFactor_plus mark))]
  simp only [eval, eval_signed]
  rfl

/-- Where no operand begins with the character, there is no value. -/
theorem evaluate_refused (hdigits : Magnitude digits n) {text : String}
    (htext : text.toList = c :: ' ' :: joint.char :: ' ' :: (mark.chars ++ digits))
    (hname : Text.isNameStart c = false) (hdigit : Text.isAsciiDigit c = false)
    (hblank : c ≠ ' ' ∧ c ≠ '\t') (hsign : joint = .sum → unaryOf (String.singleton c) = none) :
    evaluate scope heap text = .error .notAnExpression := by
  by_cases hgap : c = '\n' ∨ c = '\r' ∨ c = Char.ofNat 12 ∨ c = '\\' ∨ c = Char.ofNat 0
  · exact evaluate_of_tokens scope heap (htext ▸ tokens_gap joint mark hdigits hgap)
  by_cases hcomment : c = '#'
  · subst hcomment
    refine evaluate_of_readFactor_none scope heap (htext ▸ tokens_comment joint mark hdigits) ?_ ?_
    · simp
    · exact fun fuel => rfl
  have hordinary : isOrdinary c = true ∧ isGap c = false := by
    simp only [not_or] at hgap
    simp [isOrdinary, isGap, hgap, hcomment, hblank]
  have hnext : nextToken (c :: ' ' :: joint.char :: ' ' :: (mark.chars ++ digits)) = none →
      evaluate scope heap text = .error .notAnExpression := by
    intro hnone
    apply evaluate_of_tokens
    rw [htext, tokens_character joint mark hdigits hordinary.1 hblank, tokensFrom_cons hordinary.2,
      hnone]
    rfl
  by_cases hquote : c = '"' ∨ c = '\''
  · exact hnext (nextToken_quote joint mark hdigits hquote)
  by_cases hsymbol : c ∈ singleSymbols
  · refine evaluate_of_readFactor_none scope heap (htext ▸ tokens_single joint mark hdigits hsymbol)
      (by simp) fun fuel => ?_
    by_cases hopening : String.singleton c ∈ openingSymbols
    · have hkinds : ∀ d ∈ singleSymbols, String.singleton d ∈ openingSymbols →
          String.singleton d ∈ ["(", "[", "\x7b"] ∨ unaryOf (String.singleton d) ≠ none :=
        Text.forall_mem_of_all (by decide)
      rcases hkinds c hsymbol hopening with hbracket | hunary
      · exact readFactor_bracket joint mark hbracket
      · obtain ⟨operator, hoperator⟩ := Option.ne_none_iff_exists'.mp hunary
        cases joint with
        | sum => exact absurd (hsign rfl) hunary
        | product =>
            have hrest : readFactor (fuel + 58) (.symbol Joint.product.symbol ::
                (mark.tokens ++ [.constant (.int n)])) = none := readFactor_symbol (by decide)
            rw [readFactor_unary hoperator, hrest]
            rfl
    · exact readFactor_symbol hopening
  · exact hnext (nextToken_other (not_or.mp hquote) hdigit hname hsymbol)

/-- After a blank the operator is a sign, if it can be one. -/
theorem evaluate_blank (hdigits : Magnitude digits n) {text : String} (hc : c = ' ' ∨ c = '\t')
    (htext : text.toList = c :: ' ' :: joint.char :: ' ' :: (mark.chars ++ digits)) :
    evaluate scope heap text =
      match joint with
      | .sum => .ok (.int (mark.value n), heap)
      | .product => .error .notAnExpression := by
  have htokens : tokens text.toList = _ := htext ▸ tokens_blank joint mark hdigits hc
  cases joint with
  | sum =>
      rw [evaluate_of_readFactor scope heap htokens mark.fieldsIn_tokens (by simp) fun fuel =>
        readFactor_plus mark]
      simp only [eval, eval_signed]
      rfl
  | product =>
      exact evaluate_of_readFactor_none scope heap htokens (by simp) fun fuel =>
        readFactor_symbol (by decide)

theorem evaluate_digit (hdigit : Text.isAsciiDigit c = true)
    (hliteral : integer? literal = some value) :
    evaluate scope heap (String.singleton c ++ " " ++ joint.symbol ++ " " ++ literal) =
      .ok (.int (joint.value (digit c) value), heap) := by
  have hprinted : String.singleton c = toString (digit c) ∧ Number.Printable (digit c) :=
    @of_isAsciiDigit (fun d => String.singleton d = toString (digit d) ∧
      Number.Printable (digit d)) _ (by decide) c hdigit
  rw [hprinted.1]
  exact evaluate_joined scope heap joint hprinted.2 hliteral

/-- A character that is no letter, before an operator and an integer, has the value that its kind
gives it, or none. -/
theorem evaluate_character (hname : Text.isNameStart c = false)
    (hliteral : integer? literal = some value) :
    evaluate scope heap (String.singleton c ++ " " ++ joint.symbol ++ " " ++ literal) =
      characterResult heap c value joint := by
  unfold characterResult
  cases hdigit : Text.isAsciiDigit c with
  | true =>
      rw [evaluate_digit joint scope heap hdigit hliteral]
      cases joint <;> simp [characterValue, hdigit, Joint.value]
  | false =>
      obtain ⟨mark, digits, n, hchars, hdigits, rfl⟩ := integer?_eq_some_iff.mp hliteral
      have htext := @toList_character c digits joint mark literal hchars
      by_cases hblank : c = ' ' ∨ c = '\t'
      · rw [evaluate_blank joint mark scope heap hdigits hblank htext]
        rcases hblank with rfl | rfl <;> cases joint <;> rfl
      by_cases hsign : joint = .sum ∧ (c = '+' ∨ c = '-' ∨ c = '~')
      · obtain ⟨rfl, rfl | rfl | rfl⟩ := hsign
        · exact evaluate_plus mark scope heap hdigits rfl (by decide) htext
        · exact evaluate_plus mark scope heap hdigits rfl (by decide) htext
        · exact evaluate_plus mark scope heap hdigits rfl (by decide) htext
      · have hnone : characterValue c (mark.value n) joint = none := by
          cases joint with
          | sum => simp_all [characterValue]
          | product => simp [characterValue, hdigit]
        rw [hnone]
        apply evaluate_refused joint mark scope heap hdigits htext hname hdigit (not_or.mp hblank)
        rintro rfl
        simp only [true_and, not_or] at hsign
        exact unaryOf_singleton hsign

end Characters

end Dalvik.Expr
