import Dalvik.Expr.Literal

/-!
# What no expression begins with

An expression begins with a symbol only if that is a sign, a bracket or three dots. So a line that
begins with a colon is no literal, unless the colon is part of a longer symbol.
-/

namespace Dalvik.Expr

variable {fuel : Nat} {symbol : String} {rest : List Token}

/-! ### From atoms up to expressions -/

/-- Symbols that a value in brackets, or a signed one, begins with. -/
def openingSymbols : List String :=
  ["+", "-", "~", "...", "(", "[", "\x7b"]

theorem readAtom_symbol (hsymbol : symbol ∉ openingSymbols) :
    readAtom fuel (.symbol symbol :: rest) = none := by
  simp only [openingSymbols, List.mem_cons, List.not_mem_nil, or_false, not_or] at hsymbol
  obtain ⟨-, -, -, hdots, hparen, hbracket, hbrace⟩ := hsymbol
  cases fuel with
  | zero => rfl
  | succ fuel =>
      rw [readAtom] <;> simp [hdots, hparen, hbracket, hbrace]

theorem readFactor_of_readAtom (hunary : unaryOf symbol = none)
    (hatom : readAtom fuel (.symbol symbol :: rest) = none) :
    readFactor (fuel + 4) (.symbol symbol :: rest) = none := by
  have hprimary : readAwaited (fuel + 2) (.symbol symbol :: rest) = none := by
    change readPrimary (fuel + 1) (.symbol symbol :: rest) = none
    rw [readPrimary, hatom]
    rfl
  have hpower : readPower (fuel + 3) (.symbol symbol :: rest) = none := by
    rw [readPower, hprimary]
    rfl
  simp [readFactor, hunary, hpower]

theorem readFactor_symbol (hsymbol : symbol ∉ openingSymbols) :
    readFactor (fuel + 4) (.symbol symbol :: rest) = none := by
  have hunary : unaryOf symbol = none := by
    simp only [openingSymbols, List.mem_cons, List.not_mem_nil, or_false, not_or] at hsymbol
    simp [unaryOf, hsymbol]
  exact readFactor_of_readAtom hunary (readAtom_symbol hsymbol)

/-- There is no expression where there is no operand at its head. -/
theorem readExpressions_of_readFactor {count : Nat} {input : List Token}
    (hkeyword : ∀ word, input.head? ≠ some (.keyword word))
    (hfactor : readFactor fuel input = none) : readExpressions count (fuel + 5) input = none := by
  have hbinary : readBinary (fuel + 1) 1 input = none := by
    rw [readBinary, hfactor]
    rfl
  have hinversion : readInversion (fuel + 2) input = none := by
    rw [readInversion]
    · rw [hbinary]
      rfl
    · rintro rest rfl
      exact hkeyword "not" rfl
  have hdisjunction : readDisjunction (fuel + 4) input = none := by
    rw [readDisjunction, readConjunction, hinversion]
    rfl
  have hexpression : readExpression (fuel + 5) input = none := by
    rw [readExpression]
    · rw [hdisjunction]
      rfl
    · rintro rest rfl
      exact hkeyword "lambda" rfl
  cases count with
  | zero => rfl
  | succ count =>
      rw [readExpressions, hexpression]
      rfl

theorem ofChars_eq_none {depth : Nat} {text : List Char} {input : List Token}
    (htokens : tokens text = some input)
    (hkeyword : ∀ word, input.head? ≠ some (.keyword word))
    (hfactor : ∀ fuel, readFactor (fuel + 59) input = none) : ofChars depth text = none := by
  cases depth with
  | zero => rfl
  | succ depth =>
      obtain ⟨fuel, hfuel⟩ : ∃ fuel, 32 * (input.length + 2) = fuel + 59 + 5 :=
        ⟨32 * input.length, by omega⟩
      have hexpressions := @readExpressions_of_readFactor (fuel + 59) (fuel + 59 + 5) input hkeyword
        (hfactor fuel)
      rw [ofChars, htokens]
      simp [hfuel, hexpressions]

/-! ### Texts that begin with a colon -/

theorem tokensFrom_colon (fuel : Nat) (text : List Char) :
    tokensFrom (fuel + 1) 0 false false (':' :: 't' :: text) =
      (tokensFrom fuel 0 true false ('t' :: text)).bind fun others =>
        some (.symbol ":" :: others) := by
  rfl

theorem tokens_colon {text : List Char} {input : List Token}
    (htokens : tokens (':' :: 't' :: text) = some input) :
    ∃ others, input = .symbol ":" :: others := by
  have hchars : unifyLineEnds ((':' :: 't' :: text).dropWhile fun c => c = ' ' || c = '\t') =
      ':' :: 't' :: unifyLineEnds text := by
    simp [unifyLineEnds]
  rw [tokens, hchars] at htokens
  split at htokens
  · cases htokens
  · rw [List.length_cons, tokensFrom_colon] at htokens
    obtain ⟨others, -, hinput⟩ := Option.bind_eq_some_iff.mp htokens
    exact ⟨others, (Option.some.inj hinput).symm⟩

/-- No literal begins with a colon and a small t, as the lines do that open guarded blocks. -/
theorem readLiteral_colon {text : String} {chars : List Char} (heap : Heap)
    (htext : text.toList = ':' :: 't' :: chars) :
    readLiteral heap text = .error .notAnExpression := by
  have hnone : ofString text = none := by
    rw [ofString, htext]
    cases htokens : tokens (':' :: 't' :: chars) with
    | none =>
        rw [ofChars, htokens]
        rfl
    | some input =>
        obtain ⟨others, rfl⟩ := tokens_colon htokens
        apply ofChars_eq_none htokens
        · simp
        · exact fun fuel => readFactor_symbol (by decide)
  rw [readLiteral, hnone]

end Dalvik.Expr
