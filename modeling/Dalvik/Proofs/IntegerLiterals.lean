import Dalvik.Expr.Eval
import Dalvik.Proofs.Numerals

/-!
# Expressions of integers

A text that writes an integer is a literal of that value. An operator between blanks and an integer
that follow an operand make one expression with it, whatever the sign of the integer: a sign binds
closer than any operator that stands between blanks.
-/

namespace Dalvik.Expr

variable {fuel depth n : Nat} {content : Bool} {chars text others : List Char} {input : List Token}

/-! ### Tokens -/

/-- How many brackets are open after a token. -/
def Token.nesting (depth : Nat) : Token → Nat
  | .symbol mark => nestingAfter depth mark
  | _ => depth

namespace Sign

def tokens : Sign → List Token
  | none => []
  | plus => [.symbol "+"]
  | minus => [.symbol "-"]

end Sign

theorem mem_digits_of_isAsciiDigit {c : Char} (hc : Text.isAsciiDigit c = true) :
    c ∈ ['0', '1', '2', '3', '4', '5', '6', '7', '8', '9'] := by
  have hdigits : ∀ n < 10, Char.ofNat (48 + n) ∈
      ['0', '1', '2', '3', '4', '5', '6', '7', '8', '9'] := by decide
  rw [Text.isAsciiDigit, Bool.and_eq_true, decide_eq_true_iff, decide_eq_true_iff] at hc
  have hlow : 48 ≤ c.toNat := hc.1
  have hhigh : c.toNat ≤ 57 := hc.2
  have hmem := hdigits (c.toNat - 48) (by omega)
  rwa [Nat.add_sub_cancel' hlow, Char.ofNat_toNat] at hmem

/-- What is decided digit by digit. -/
theorem of_isAsciiDigit {property : Char → Prop} [DecidablePred property]
    (hall : ['0', '1', '2', '3', '4', '5', '6', '7', '8', '9'].all (property ·) = true) {c : Char}
    (hc : Text.isAsciiDigit c = true) : property c :=
  of_decide_eq_true (List.all_eq_true.mp hall c (mem_digits_of_isAsciiDigit hc))

theorem ne_of_isAsciiDigit {c d : Char} (hc : Text.isAsciiDigit c = true)
    (hd : Text.isAsciiDigit d = false) : c ≠ d := by
  rintro rfl
  rw [hc] at hd
  cases hd

/-- Characters that neither begin a token nor belong to one. -/
def isGap (c : Char) : Bool :=
  c = ' ' || c = '\t' || c = Char.ofNat 12 || c = '#' || c = '\n' || c = '\\'

theorem isGap_of_isAsciiDigit {c : Char} (hc : Text.isAsciiDigit c = true) : isGap c = false := by
  have hne : ∀ d, Text.isAsciiDigit d = false → c ≠ d := fun d => ne_of_isAsciiDigit hc
  simp [isGap, hne ' ' rfl, hne '\t' rfl, hne (Char.ofNat 12) rfl, hne '#' rfl, hne '\n' rfl,
    hne '\\' rfl]

theorem tokensFrom_cons {c : Char} (hc : isGap c = false) :
    tokensFrom (fuel + 1) depth content false (c :: text) =
      (nextToken (c :: text)).bind fun found =>
        if found.1.nesting depth > maxNesting then none
        else (tokensFrom fuel (found.1.nesting depth) true false found.2).map (found.1 :: ·) := by
  simp only [isGap, Bool.or_eq_false_iff, decide_eq_false_iff_not] at hc
  obtain ⟨⟨⟨⟨⟨hspace, htab⟩, hfeed⟩, hcomment⟩, hline⟩, hslash⟩ := hc
  conv => lhs; unfold tokensFrom
  rw [if_neg (by simp [hspace, htab]), if_neg hfeed, if_neg hcomment, if_neg hline,
    if_neg hslash, if_neg (by simp)]
  cases nextToken (c :: text) with
  | none => rfl
  | some found =>
      obtain ⟨token, rest⟩ := found
      change (if token.nesting depth > maxNesting then none
        else (tokensFrom fuel (token.nesting depth) true false rest).bind fun others =>
          some (token :: others)) = _
      rw [Option.bind_some]
      cases tokensFrom fuel (token.nesting depth) true false rest <;> rfl

theorem tokensFrom_token {c : Char} {token : Token} (hc : isGap c = false)
    (hdepth : token.nesting depth ≤ maxNesting)
    (htoken : nextToken (c :: text) = some (token, others))
    (hothers : tokensFrom fuel (token.nesting depth) true false others = some input) :
    tokensFrom (fuel + 1) depth content false (c :: text) = some (token :: input) := by
  rw [tokensFrom_cons hc, htoken, Option.bind_some, if_neg (Nat.not_lt.mpr hdepth), hothers]
  rfl

theorem markOf_digit {c : Char} (hc : Text.isAsciiDigit c = true) :
    markOf {} (c :: text) = none := by
  have hne : ∀ d, Text.isAsciiDigit d = false → c ≠ d := fun d => ne_of_isAsciiDigit hc
  simp [markOf, hne '"' rfl, hne '\'' rfl, hne 'b' rfl, hne 'B' rfl, hne 'u' rfl, hne 'U' rfl,
    hne 'r' rfl, hne 'R' rfl, hne 'f' rfl, hne 'F' rfl]

theorem tokensFrom_number (hdepth : depth ≤ maxNesting)
    (hhead : chars.head?.any Text.isAsciiDigit = true)
    (hread : numberOf chars = some (.int n, others))
    (hothers : tokensFrom fuel depth true false others = some input) :
    tokensFrom (fuel + 1) depth content false chars = some (.constant (.int n) :: input) := by
  cases chars with
  | nil => cases hhead
  | cons c chars =>
      have hc : Text.isAsciiDigit c = true := hhead
      exact tokensFrom_token (isGap_of_isAsciiDigit hc) hdepth
        (by simp [nextToken, markOf_digit hc, hc, hread]) hothers

/-- A sign that stands before a digit is a symbol of its own. -/
theorem nextToken_sign {c : Char} (hc : Text.isAsciiDigit c = true) :
    nextToken ('+' :: c :: chars) = some (.symbol "+", c :: chars) ∧
      nextToken ('-' :: c :: chars) = some (.symbol "-", c :: chars) := by
  have hmem := mem_digits_of_isAsciiDigit hc
  simp only [List.mem_cons, List.not_mem_nil, or_false] at hmem
  rcases hmem with rfl | rfl | rfl | rfl | rfl | rfl | rfl | rfl | rfl | rfl <;>
    exact ⟨rfl, rfl⟩

/-- A number with its sign, before whatever follows it. -/
theorem tokensFrom_signed (sign : Sign) (hdepth : depth ≤ maxNesting)
    (hhead : chars.head?.any Text.isAsciiDigit = true)
    (hread : numberOf chars = some (.int n, others))
    (hothers : tokensFrom fuel depth true false others = some input) :
    tokensFrom (fuel + sign.chars.length + 1) depth content false (sign.chars ++ chars) =
      some (sign.tokens ++ .constant (.int n) :: input) := by
  cases chars with
  | nil => cases hhead
  | cons c chars =>
      have hnumber : tokensFrom (fuel + 1) depth true false (c :: chars) = _ :=
        tokensFrom_number hdepth hhead hread hothers
      cases sign with
      | none => exact tokensFrom_number hdepth hhead hread hothers
      | plus => exact tokensFrom_token rfl hdepth (nextToken_sign hhead).1 hnumber
      | minus => exact tokensFrom_token rfl hdepth (nextToken_sign hhead).2 hnumber

/-- The operators that are written between two integers. -/
inductive Joint where
  | sum
  | product

namespace Joint

def char : Joint → Char
  | sum => '+'
  | product => '*'

def symbol (joint : Joint) : String :=
  String.singleton joint.char

def operator : Joint → Operator
  | sum => .add
  | product => .mul

/-- How close the operator binds. -/
def level : Joint → Nat
  | sum => 5
  | product => 6

theorem one_le_level (joint : Joint) : 1 ≤ joint.level := by
  cases joint <;> decide

def value (left right : Int) : Joint → Int
  | sum => left + right
  | product => left * right

end Joint

theorem tokensFrom_joint (joint : Joint) (hdepth : depth ≤ maxNesting)
    (hothers : tokensFrom fuel depth true false others = some input) :
    tokensFrom (fuel + 3) depth true false (' ' :: joint.char :: ' ' :: others) =
      some (.symbol joint.symbol :: input) := by
  have hblank : tokensFrom (fuel + 1) depth true false (' ' :: others) = some input := hothers
  change tokensFrom (fuel + 2) depth true false (joint.char :: ' ' :: others) = _
  cases joint with
  | sum => exact tokensFrom_token rfl hdepth rfl hblank
  | product => exact tokensFrom_token rfl hdepth rfl hblank

/-! ### Whole texts -/

theorem unifyLineEnds_of_forall (htext : ∀ c ∈ text, c ≠ '\r') : unifyLineEnds text = text := by
  fun_induction unifyLineEnds text with
  | case1 => rfl
  | case2 rest => exact absurd rfl (htext '\r' List.mem_cons_self)
  | case3 rest => exact absurd rfl (htext '\r' List.mem_cons_self)
  | case4 c rest hfirst hsecond ih =>
      rw [ih fun d hd => htext d (List.mem_cons_of_mem c hd)]

/-- What may stand in a text that is taken as it stands. -/
def isOrdinary (c : Char) : Bool :=
  c != '\r' && c != Char.ofNat 0

theorem tokens_of_ordinary (hhead : ∀ c, text.head? = some c → c ≠ ' ' ∧ c ≠ '\t')
    (hplain : ∀ c ∈ text, isOrdinary c = true) :
    tokens text = tokensFrom (text.length + 1) 0 false false text := by
  have hkept : text.dropWhile (fun c => c = ' ' || c = '\t') = text := by
    cases text with
    | nil => rfl
    | cons c text =>
        rw [List.dropWhile_cons_of_neg]
        simp [hhead c rfl]
  have hlines : ∀ c ∈ text, c ≠ '\r' := by
    rintro c hc rfl
    exact absurd (hplain '\r' hc) (by decide)
  have hnul : text.contains (Char.ofNat 0) = false := by
    rw [List.contains_eq_mem, decide_eq_false_iff_not]
    intro hmem
    exact absurd (hplain _ hmem) (by decide)
  rw [tokens, hkept, unifyLineEnds_of_forall hlines, hnul]
  rfl

theorem tokens_of_plain (hhead : ∀ c, text.head? = some c → isGap c = false)
    (hplain : ∀ c ∈ text, isOrdinary c = true) :
    tokens text = tokensFrom (text.length + 1) 0 false false text := by
  refine tokens_of_ordinary (fun c hc => ?_) hplain
  have hgap := hhead c hc
  simp only [isGap, Bool.or_eq_false_iff, decide_eq_false_iff_not] at hgap
  exact hgap.1.1.1.1

theorem isOrdinary_of_isNumeralChar {c : Char} (hc : isNumeralChar c = true) :
    isOrdinary c = true := by
  rw [isOrdinary, Bool.and_eq_true, bne_iff_ne, bne_iff_ne]
  constructor
  · rintro rfl
    cases hc
  · rintro rfl
    cases hc

theorem Sign.isOrdinary_chars (sign : Sign) : ∀ c ∈ sign.chars, isOrdinary c = true := by
  rw [← List.all_eq_true]
  cases sign <;> rfl

theorem Joint.isOrdinary_char (joint : Joint) : isOrdinary joint.char = true := by
  cases joint <;> rfl

namespace Magnitude

variable {digits rest : List Char}

theorem isOrdinary (hdigits : Magnitude digits n) : ∀ c ∈ digits, isOrdinary c = true :=
  fun c hc => isOrdinary_of_isNumeralChar (List.all_eq_true.mp hdigits.plain c hc)

theorem length_pos (hdigits : Magnitude digits n) : 0 < digits.length := by
  have hhead := hdigits.head
  cases digits with
  | nil => cases hhead
  | cons c digits => exact Nat.succ_pos _

theorem head_append (hdigits : Magnitude digits n) (rest : List Char) :
    (digits ++ rest).head?.any Text.isAsciiDigit = true := by
  have hhead := hdigits.head
  cases digits with
  | nil => cases hhead
  | cons c digits => exact hhead

theorem isGap_head (hdigits : Magnitude digits n) (sign : Sign) (rest : List Char) :
    ∀ c, (sign.chars ++ digits ++ rest).head? = some c → isGap c = false := by
  intro c hc
  have hhead := hdigits.head
  cases sign with
  | plus => rw [← Option.some.inj hc]; rfl
  | minus => rw [← Option.some.inj hc]; rfl
  | none =>
      cases digits with
      | nil => cases hhead
      | cons d digits =>
          rw [← Option.some.inj hc]
          exact isGap_of_isAsciiDigit hhead

end Magnitude

theorem magnitude_toDigits (hlength : (Nat.toDigits 10 n).length ≤ Number.maxDigits) :
    Magnitude (Nat.toDigits 10 n) n := by
  have hdigit : ∀ c ∈ Nat.toDigits 10 n, Text.isAsciiDigit c = true := by
    intro c hc
    have hc := Nat.isDigit_of_mem_toDigits (by decide) (by decide) hc
    exact hc
  have hread := numberOf_toDigits n hlength (Or.inl rfl)
  rw [List.append_nil] at hread
  refine ⟨?_, ?_, hread⟩
  · cases hchars : Nat.toDigits 10 n with
    | nil => exact absurd hchars Nat.toDigits_ne_nil
    | cons c chars => exact hdigit c (by rw [hchars]; exact List.mem_cons_self)
  · rw [List.all_eq_true]
    intro c hc
    rw [isNumeralChar, hdigit c hc, Bool.or_true, Bool.true_or]

theorem tokensFrom_integer (sign : Sign) (hdepth : depth ≤ maxNesting)
    (hdigits : Magnitude chars n) (hfuel : (sign.chars ++ chars).length < fuel) :
    tokensFrom fuel depth content false (sign.chars ++ chars) =
      some (sign.tokens ++ [.constant (.int n)]) := by
  obtain ⟨spare, rfl⟩ : ∃ spare, fuel = (spare + 1) + sign.chars.length + 1 := by
    have hpos := hdigits.length_pos
    rw [List.length_append] at hfuel
    exact ⟨fuel - sign.chars.length - 2, by omega⟩
  exact tokensFrom_signed sign hdepth hdigits.head hdigits.read rfl

theorem tokens_integer (sign : Sign) (hdigits : Magnitude chars n) :
    tokens (sign.chars ++ chars) = some (sign.tokens ++ [.constant (.int n)]) := by
  have hplain : ∀ c ∈ sign.chars ++ chars, isOrdinary c = true := by
    intro c hc
    rcases List.mem_append.mp hc with hc | hc
    · exact sign.isOrdinary_chars c hc
    · exact hdigits.isOrdinary c hc
  have hhead := hdigits.isGap_head sign []
  rw [List.append_nil] at hhead
  rw [tokens_of_plain hhead hplain]
  exact tokensFrom_integer sign (Nat.zero_le _) hdigits (Nat.lt_succ_self _)

theorem isOrdinary_tail (joint : Joint) (mark : Sign) (hdigits : Magnitude chars n) :
    ∀ c ∈ ' ' :: joint.char :: ' ' :: (mark.chars ++ chars), isOrdinary c = true := by
  intro c hc
  simp only [List.mem_cons, List.mem_append] at hc
  rcases hc with rfl | rfl | rfl | hc | hc
  · rfl
  · exact joint.isOrdinary_char
  · rfl
  · exact mark.isOrdinary_chars c hc
  · exact hdigits.isOrdinary c hc

/-- An operator between blanks and an integer, after an operand. -/
theorem tokensFrom_tail (joint : Joint) (mark : Sign) (hdepth : depth ≤ maxNesting)
    (hdigits : Magnitude chars n)
    (hfuel : (' ' :: joint.char :: ' ' :: (mark.chars ++ chars)).length < fuel) :
    tokensFrom fuel depth true false (' ' :: joint.char :: ' ' :: (mark.chars ++ chars)) =
      some (.symbol joint.symbol :: (mark.tokens ++ [.constant (.int n)])) := by
  simp only [List.length_cons] at hfuel
  obtain ⟨spare, rfl⟩ : ∃ spare, fuel = spare + 3 := ⟨fuel - 3, by omega⟩
  exact tokensFrom_joint joint hdepth (tokensFrom_integer mark hdepth hdigits (by omega))

/-! ### From numbers up to expressions -/

variable {rest : List Token}

/-- Tokens that follow an operand without being part of it. -/
def EndsOperand (rest : List Token) : Prop :=
  rest = [] ∨ ∃ (joint : Joint) (others : List Token), rest = .symbol joint.symbol :: others

def Sign.expr (n : Nat) : Sign → Expr
  | none => .constant (.int n)
  | plus => .unary .plus (.constant (.int n))
  | minus => .unary .minus (.constant (.int n))

theorem readPrimary_number (hrest : EndsOperand rest) :
    readPrimary (fuel + 2) (.constant (.int n) :: rest) = some (.constant (.int n), rest) := by
  rcases hrest with rfl | ⟨joint, others, rfl⟩
  · rfl
  · cases joint <;> rfl

theorem readPower_number (hrest : EndsOperand rest) :
    readPower (fuel + 4) (.constant (.int n) :: rest) = some (.constant (.int n), rest) := by
  have hprimary : readAwaited (fuel + 3) (.constant (.int n) :: rest) = _ :=
    readPrimary_number hrest
  rw [readPower, hprimary]
  rcases hrest with rfl | ⟨joint, others, rfl⟩
  · rfl
  · cases joint <;> rfl

theorem readFactor_signed (sign : Sign) (hrest : EndsOperand rest) :
    readFactor (fuel + 6) (sign.tokens ++ .constant (.int n) :: rest) =
      some (sign.expr n, rest) := by
  have hnumber : ∀ fuel, readFactor (fuel + 5) (.constant (.int n) :: rest) =
      some (.constant (.int n), rest) := fun fuel => readPower_number hrest
  cases sign with
  | none => exact hnumber (fuel + 1)
  | plus =>
      change (readFactor (fuel + 5) (.constant (.int n) :: rest)).bind _ = _
      rw [hnumber fuel]
      rfl
  | minus =>
      change (readFactor (fuel + 5) (.constant (.int n) :: rest)).bind _ = _
      rw [hnumber fuel]
      rfl

theorem readBinary_integer (sign : Sign) (level : Nat) :
    readBinary (fuel + 7) level (sign.tokens ++ [.constant (.int n)]) = some (sign.expr n, []) := by
  rw [readBinary, readFactor_signed sign (Or.inl rfl)]
  rfl

/-- An operator and an integer after an operand make one expression of the two, where the operator
binds close enough. -/
theorem readBinaryRest_joint (left : Expr) (joint : Joint) (right : Sign) {level : Nat}
    (hlevel : level ≤ joint.level) :
    readBinaryRest (fuel + 8) level left
        (.symbol joint.symbol :: (right.tokens ++ [.constant (.int n)])) =
      some (.binary joint.operator left (right.expr n), []) := by
  have hright : ∀ level, readBinary (fuel + 7) level (right.tokens ++ [.constant (.int n)]) =
      some (right.expr n, []) := readBinary_integer right
  cases joint with
  | sum =>
      change (if level ≤ 5 then
        (readBinary (fuel + 7) 6 (right.tokens ++ [.constant (.int n)])).bind _ else _) = _
      rw [if_pos (show level ≤ 5 from hlevel), hright 6]
      rfl
  | product =>
      change (if level ≤ 6 then
        (readBinary (fuel + 7) 7 (right.tokens ++ [.constant (.int n)])).bind _ else _) = _
      rw [if_pos (show level ≤ 6 from hlevel), hright 7]
      rfl

/-- What the operators join up to the last token is an expression, unless a keyword leads. -/
theorem readExpression_of_readBinary {expr : Expr}
    (hkeyword : ∀ word, input.head? ≠ some (.keyword word))
    (hbinary : readBinary (fuel + 1) 1 input = some (expr, [])) :
    readExpression (fuel + 5) input = some (expr, []) := by
  have hinversion : readInversion (fuel + 2) input = some (expr, []) := by
    rw [readInversion]
    · rw [hbinary]
      rfl
    · rintro rest rfl
      exact hkeyword "not" rfl
  have hdisjunction : readDisjunction (fuel + 4) input = some (expr, []) := by
    rw [readDisjunction, readConjunction, hinversion]
    rfl
  rw [readExpression]
  · rw [hdisjunction]
    rfl
  · rintro rest rfl
    exact hkeyword "lambda" rfl

theorem ofChars_of_readBinary {depth : Nat} {expr : Expr} (htokens : tokens text = some input)
    (hfields : fieldsIn input = []) (hkeyword : ∀ word, input.head? ≠ some (.keyword word))
    (hbinary : ∀ fuel, readBinary (fuel + input.length + 9) 1 input = some (expr, [])) :
    ofChars (depth + 1) text = some expr := by
  obtain ⟨fuel, hfuel⟩ : ∃ fuel, 32 * (input.length + 2) = fuel + input.length + 13 :=
    ⟨31 * input.length + 51, by omega⟩
  have hexpression : readExpression (fuel + input.length + 13) input = some (expr, []) :=
    readExpression_of_readBinary hkeyword (hbinary fuel)
  rw [ofChars, htokens]
  simp only [Option.bind_eq_bind, Option.bind_some, Option.pure_def, hfields, List.any_nil,
    Bool.false_eq_true, if_false, hfuel, readExpressions, hexpression, onlyLineEnds, if_true]

theorem Sign.head?_tokens (sign : Sign) (word : String) :
    (sign.tokens ++ .constant (.int n) :: rest).head? ≠ some (.keyword word) := by
  cases sign <;> simp [Sign.tokens]

theorem Sign.fieldsIn_tokens (sign : Sign) :
    fieldsIn (sign.tokens ++ .constant (.int n) :: rest) = fieldsIn rest := by
  cases sign <;> rfl

theorem ofString_integer (sign : Sign) {text : String} (htext : text.toList = sign.chars ++ chars)
    (hdigits : Magnitude chars n) : ofString text = some (sign.expr n) := by
  rw [ofString, htext]
  apply ofChars_of_readBinary (tokens_integer sign hdigits)
  · rw [sign.fieldsIn_tokens]
    rfl
  · exact sign.head?_tokens
  · exact fun fuel => readBinary_integer sign 1

/-! ### Values -/

theorem literal_signed (heap : Heap) (sign : Sign) :
    (sign.expr n).literal heap = .ok (.int (sign.value n), heap) := by
  cases sign <;> rfl

/-- A text that writes an integer is a literal of that integer. -/
theorem readLiteral_integer (heap : Heap) {text : String} {value : Int}
    (htext : integer? text = some value) : readLiteral heap text = .ok (.int value, heap) := by
  obtain ⟨sign, digits, n, hchars, hdigits, rfl⟩ := integer?_eq_some_iff.mp htext
  rw [readLiteral, ofString_integer sign hchars hdigits]
  exact literal_signed heap sign

theorem eval_signed (scope : Scope) (heap : Heap) (sign : Sign) :
    (sign.expr n).eval scope heap = .ok (.int (sign.value n), heap) := by
  cases sign <;> rfl

theorem operate_joint (heap : Heap) (joint : Joint) (left right : Int) :
    (Value.int left).operate heap joint.operator (.int right) =
      .ok (.int (joint.value left right), heap) := by
  cases joint <;> rfl

theorem intText_eq {value : Int}
    (hlength : (Nat.toDigits 10 value.natAbs).length ≤ Number.maxDigits) :
    Value.intText value = .ok (toString value) := by
  have hbound := (Nat.length_toDigits_le_iff (by decide) (by decide)).mp hlength
  rw [Value.intText, Nat.pow_eq, if_pos hbound]

end Dalvik.Expr
