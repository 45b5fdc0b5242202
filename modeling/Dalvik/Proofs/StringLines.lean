import Dalvik.Emulator.Run
import Dalvik.Proofs.Captures
import Dalvik.Proofs.Statements

/-!
# Lines with a quoted text

The pattern of a line that loads a quoted text finds its quotes whatever stands between them. Among
the forms that are tried before it, those that match at the beginning of a line only have other
heads. The two loose forms are found anywhere in a line, and so also between the quotes: a text with
one of their words, an operand and a comma in it is executed instead of being loaded.
-/

namespace Dalvik

namespace Pattern

variable {set : CharSet} {next : Place → Option Place} {captures : Captures}
  {before chars : List Char} {pattern : Pattern}

/-! ### Whether a pattern matches -/

theorem isSome_text {fixed : String} :
    (run (text fixed) ⟨before, chars, captures⟩ next).isSome ↔
      ∃ rest, chars = fixed.toList ++ rest ∧
        (next ⟨fixed.toList.reverse ++ before, rest, captures⟩).isSome := by
  simp only [Option.isSome_iff_exists, run_text_eq_some]
  constructor
  · rintro ⟨place, rest, hrest, hplace⟩
    exact ⟨rest, hrest, place, hplace⟩
  · rintro ⟨rest, hrest, place, hplace⟩
    exact ⟨place, rest, hrest, hplace⟩

theorem isSome_orTry {first : Option Place} {second : Unit → Option Place} :
    (orTry first second).isSome ↔ first.isSome ∨ (second ()).isSome := by
  cases first <;> simp [orTry]

theorem isSome_optional {place : Place} :
    (run (optional pattern) place next).isSome ↔
      (run pattern place next).isSome ∨ (next place).isSome := by
  change (orTry (run pattern place next) fun _ => next place).isSome ↔ _
  exact isSome_orTry

/-- A repetition matches if the rest of the pattern matches behind some run of characters. -/
theorem isSome_many {least : Nat} :
    (run (.many set least) ⟨before, chars, captures⟩ next).isSome ↔
      ∃ taken rest, chars = taken ++ rest ∧ (∀ c ∈ taken, set.accepts c = true) ∧
        least ≤ taken.length ∧ (next ⟨taken.reverse ++ before, rest, captures⟩).isSome := by
  change (manyFrom set captures next least before chars).isSome ↔ _
  induction chars generalizing least before with
  | nil =>
      simp only [manyFrom, List.nil_eq, List.append_eq_nil_iff]
      constructor
      · intro hsome
        split at hsome
        · rename_i hleast
          exact ⟨[], [], ⟨rfl, rfl⟩, by simp, by omega, hsome⟩
        · cases hsome
      · rintro ⟨taken, rest, ⟨rfl, rfl⟩, -, hleast, hsome⟩
        rw [if_pos (Nat.le_zero.mp hleast)]
        exact hsome
  | cons c chars ih =>
      rw [manyFrom]
      constructor
      · intro hsome
        -- the repetition may stop here if it has taken enough
        have hstop : (if least = 0 then next ⟨before, c :: chars, captures⟩ else none).isSome →
            ∃ taken rest, c :: chars = taken ++ rest ∧ (∀ d ∈ taken, set.accepts d = true) ∧
              least ≤ taken.length ∧
              (next ⟨taken.reverse ++ before, rest, captures⟩).isSome := by
          intro hnow
          split at hnow
          · rename_i hleast
            exact ⟨[], c :: chars, rfl, by simp, by omega, hnow⟩
          · cases hnow
        split at hsome
        · rename_i haccepts
          rcases isSome_orTry.mp hsome with hmore | hnow
          · obtain ⟨taken, rest, rfl, htaken, hleast, hnext⟩ := ih.mp hmore
            refine ⟨c :: taken, rest, rfl, ?_, ?_, by simpa using hnext⟩
            · intro d hmem
              rcases List.mem_cons.mp hmem with rfl | hmem
              · exact haccepts
              · exact htaken d hmem
            · rw [List.length_cons]
              omega
          · exact hstop hnow
        · exact hstop hsome
      · rintro ⟨taken, rest, hchars, htaken, hleast, hnext⟩
        cases taken with
        | nil =>
            have hnow :
                (if least = 0 then next ⟨before, c :: chars, captures⟩ else none).isSome := by
              rw [if_pos (Nat.le_zero.mp hleast)]
              exact hchars ▸ hnext
            split
            · exact isSome_orTry.mpr (Or.inr hnow)
            · exact hnow
        | cons d taken =>
            obtain ⟨rfl, rfl⟩ := List.cons.inj hchars
            rw [if_pos (htaken c List.mem_cons_self)]
            refine isSome_orTry.mpr (Or.inl ?_)
            refine ih.mpr ⟨taken, rest, rfl, ?_, ?_, by simpa using hnext⟩
            · exact fun d hmem => htaken d (List.mem_cons_of_mem c hmem)
            · rw [List.length_cons] at hleast
              omega

/-- A search succeeds if the pattern matches somewhere. -/
theorem isSome_searchFrom :
    (searchFrom pattern before chars).isSome ↔
      ∃ left rest, chars = left ++ rest ∧
        (run pattern ⟨left.reverse ++ before, rest, []⟩ some).isSome := by
  induction chars generalizing before with
  | nil =>
      constructor
      · intro hsome
        exact ⟨[], [], rfl, hsome⟩
      · rintro ⟨left, rest, hchars, hsome⟩
        obtain ⟨rfl, rfl⟩ := List.append_eq_nil_iff.mp hchars.symm
        exact hsome
  | cons c chars ih =>
      rw [searchFrom, isSome_orTry, ih]
      constructor
      · rintro (hhere | ⟨left, rest, rfl, hsome⟩)
        · exact ⟨[], c :: chars, rfl, hhere⟩
        · exact ⟨c :: left, rest, rfl, by simpa using hsome⟩
      · rintro ⟨left, rest, hchars, hsome⟩
        cases left with
        | nil => exact Or.inl (hchars ▸ hsome)
        | cons d left =>
            obtain ⟨rfl, rfl⟩ := List.cons.inj hchars
            exact Or.inr ⟨left, rest, rfl, by simpa using hsome⟩

end Pattern

namespace Form

open Pattern

/-! ### The loose forms -/

theorem inLine_of_ne {chars : List Char} (hline : '\n' ∉ chars) :
    ∀ c ∈ chars, CharSet.inLine.accepts c = true := by
  intro c hmem
  have hne : c ≠ '\n' := fun hbreak => hline (hbreak ▸ hmem)
  simp [CharSet.inLine, CharSet.accepts, hne]

/-- Two operands are found if there is a comma with something before and behind it. -/
theorem isSome_divided {before chars : List Char} {captures : Captures} (hline : '\n' ∉ chars) :
    (run (divided [operand 1, operand 2]) ⟨before, chars, captures⟩ some).isSome ↔
      ∃ first second, chars = first ++ ',' :: second ∧ first ≠ [] ∧ second ≠ [] := by
  change (run (.many .inLine 1) ⟨before, chars, captures⟩ fun after =>
    run (separated [operand 2])
      ⟨after.before, after.rest, (1, ⟨chars, after.rest⟩) :: after.captures⟩ some).isSome ↔ _
  rw [isSome_many]
  constructor
  · rintro ⟨first, rest, rfl, -, hfirst, hsome⟩
    cases rest with
    | nil => cases hsome
    | cons c second =>
        by_cases hcomma : c = ','
        · subst hcomma
          obtain ⟨blanks, left, rfl, -, -, hoperand⟩ := isSome_many.mp hsome
          obtain ⟨taken, rest, rfl, -, htaken, -⟩ := isSome_many.mp hoperand
          refine ⟨first, _, rfl, List.length_pos_iff.mp hfirst, ?_⟩
          have hne : taken ≠ [] := List.length_pos_iff.mp htaken
          simp [hne]
        · simp [separated, run, CharSet.accepts, hcomma] at hsome
  · rintro ⟨first, second, rfl, hfirst, hsecond⟩
    have hchars := inLine_of_ne hline
    refine ⟨first, ',' :: second, rfl, fun c hmem => hchars c (List.mem_append_left _ hmem),
      List.length_pos_iff.mpr hfirst, ?_⟩
    refine isSome_many.mpr ⟨[], second, rfl, by simp, Nat.zero_le _, ?_⟩
    refine isSome_many.mpr ⟨second, [], by simp, fun c hmem => hchars c (by simp [hmem]),
      List.length_pos_iff.mpr hsecond, rfl⟩

/-- A loose form is found where its word stands before something, a comma and something. -/
theorem isSome_loose {form : Form} {word line : String}
    (hpattern : form.pattern = .both (text word) (divided [operand 1, operand 2]))
    (hanchored : form.pattern.anchored = false) (hline : '\n' ∉ line.toList) :
    (form.groups? line).isSome ↔
      ∃ left first second, line.toList = left ++ (word.toList ++ (first ++ ',' :: second)) ∧
        first ≠ [] ∧ second ≠ [] := by
  rw [groups?, groupsIn, Option.isSome_map, search, hanchored, if_neg Bool.false_ne_true,
    hpattern, isSome_searchFrom]
  constructor
  · rintro ⟨left, rest, hrest, hsome⟩
    obtain ⟨behind, rfl, hoperands⟩ := isSome_text.mp hsome
    have hbehind : '\n' ∉ behind := fun hmem => hline (by simp [hrest, hmem])
    obtain ⟨first, second, rfl, hfirst, hsecond⟩ := (isSome_divided hbehind).mp hoperands
    exact ⟨left, first, second, hrest, hfirst, hsecond⟩
  · rintro ⟨left, first, second, hchars, hfirst, hsecond⟩
    have hbehind : '\n' ∉ first ++ ',' :: second := by
      intro hmem
      rw [hchars] at hline
      exact hline (List.mem_append_right _ (List.mem_append_right _ hmem))
    refine ⟨left, _, hchars, isSome_text.mpr ⟨_, rfl, ?_⟩⟩
    exact (isSome_divided hbehind).mpr ⟨first, second, rfl, hfirst, hsecond⟩

end Form

/-! ### Words between the quotes -/

/-- The word, a space, an operand and a comma stand in the text. -/
def Quotes (word text : String) : Prop :=
  ∃ left operand right,
    text.toList = left ++ (word.toList ++ ' ' :: (operand ++ ',' :: right)) ∧ operand ≠ []

namespace Quotes

/-- Whether the word, a space, an operand and a comma stand among characters. -/
def check (word : List Char) : List Char → Bool
  | [] => false
  | c :: chars =>
    (word ++ [' ']).isPrefixOf (c :: chars) && ((c :: chars).drop (word.length + 2)).contains ',' ||
      check word chars

theorem check_iff {word chars : List Char} :
    check word chars = true ↔ ∃ left operand right,
      chars = left ++ (word ++ ' ' :: (operand ++ ',' :: right)) ∧ operand ≠ [] := by
  induction chars with
  | nil => simp [check]
  | cons c chars ih =>
      rw [check, Bool.or_eq_true, ih, Bool.and_eq_true, List.isPrefixOf_iff_prefix,
        List.contains_iff_mem]
      constructor
      · rintro (⟨⟨behind, hhere⟩, hcomma⟩ | ⟨left, operand, right, rfl, hne⟩)
        · have hdrop : (c :: chars).drop (word.length + 2) = behind.drop 1 := by
            rw [← hhere, List.append_assoc, ← List.drop_drop, List.drop_left]
            rfl
          rw [hdrop] at hcomma
          cases behind with
          | nil => cases hcomma
          | cons d behind =>
              obtain ⟨operand, right, rfl⟩ := List.append_of_mem hcomma
              exact ⟨[], d :: operand, right, by simp [← hhere], by simp⟩
        · exact ⟨c :: left, operand, right, rfl, hne⟩
      · rintro ⟨left, operand, right, hchars, hne⟩
        cases left with
        | nil =>
            left
            constructor
            · exact ⟨operand ++ ',' :: right, by simp [hchars]⟩
            · obtain ⟨d, operand, rfl⟩ := List.exists_cons_of_ne_nil hne
              rw [hchars, List.nil_append, ← List.drop_drop, List.drop_left]
              simp
        | cons d left =>
            obtain ⟨rfl, rfl⟩ := List.cons.inj hchars
            exact Or.inr ⟨left, operand, right, rfl, hne⟩

instance (word text : String) : Decidable (Quotes word text) :=
  decidable_of_iff (check word.toList text.toList = true) check_iff

end Quotes

/-! ### Which form a quoted text has -/

/-- The line that loads a text into a register. -/
def stringLine (target : Token) (text : String) : String :=
  "const-string" ++ " " ++ target.text ++ ", \"" ++ text ++ "\""

/-- The form by which the line of a text is executed. -/
def stringForm (text : String) : Form :=
  if Quotes "fill-array-data" text then .fillArray
  else if Quotes "array-length" text then .arrayLength
  else .constString

variable {target : Token} {word text : String}

theorem stringForm_eq_constString_iff :
    stringForm text = .constString ↔
      ¬Quotes "fill-array-data" text ∧ ¬Quotes "array-length" text := by
  rw [stringForm]
  by_cases hfill : Quotes "fill-array-data" text
  · simp [hfill]
  · by_cases hlength : Quotes "array-length" text <;> simp [hfill, hlength]

theorem toList_stringLine :
    (stringLine target text).toList =
      "const-string".toList ++ ' ' :: (target.text.toList ++ [',', ' ']) ++
        '"' :: (text.toList ++ ['"']) := by
  unfold stringLine
  -- The characters of the mnemonic play no part here.
  generalize "const-string" = mnemonic
  simp

theorem newline_notMem_stringLine (htext : '\n' ∉ text.toList) :
    '\n' ∉ (stringLine target text).toList := by
  have htarget : '\n' ∉ target.text.toList :=
    fun hmem => absurd (target.not_blank hmem) (by decide)
  simp [toList_stringLine, htext, htarget]

/-- Neither word stands before the opening quotes. -/
theorem not_infix_before_quotes (hword : word = "array-length" ∨ word = "fill-array-data") :
    ¬word.toList ++ [' '] <:+:
      "const-string".toList ++ ' ' :: (target.text.toList ++ [',', ' ']) := by
  have hspaced : Spaced (' ' :: (target.text.toList ++ [',', ' '])) := by
    have hoperand : Spaced (target.text.toList ++ [',', ' ']) :=
      target.spaced.append (by decide) (by decide)
    have hhead : (target.text.toList ++ [',', ' ']).head? ≠ some ' ' := by
      intro hspace
      rw [List.head?_append_of_ne_nil _ target.toList_ne_nil] at hspace
      exact absurd (target.not_blank (List.mem_of_head? hspace)) (by decide)
    exact Spaced.append (.singleton ' ') hoperand hhead
  obtain ⟨last, hlast, hsolid, hmnemonic⟩ : ∃ last, word.toList.getLast? = some last ∧
      ¬(last = ',' ∨ last = ' ' ∨ last = '\t') ∧ ¬word.toList <:+: "const-string".toList := by
    rcases hword with rfl | rfl
    · exact ⟨'h', by decide, by decide, by decide⟩
    · exact ⟨'a', by decide, by decide, by decide⟩
  exact not_infix_of_spaced hlast hsolid hmnemonic hspaced

/-- A part without a mark that does not stand before the mark stands behind it. -/
theorem exists_behind_mark {mark : Char} {front rest part left tail : List Char}
    (hne : part ≠ []) (hmark : mark ∉ part) (hfront : ¬part <:+: front)
    (hchars : front ++ mark :: rest = left ++ (part ++ tail)) :
    ∃ more, rest = more ++ (part ++ tail) := by
  rcases List.append_eq_append_iff.mp hchars with ⟨more, -, hbehind⟩ | ⟨more, rfl, hbehind⟩
  · cases more with
    | nil =>
        obtain ⟨c, part, rfl⟩ := List.exists_cons_of_ne_nil hne
        obtain ⟨rfl, -⟩ := List.cons.inj hbehind
        exact absurd List.mem_cons_self hmark
    | cons c more => exact ⟨more, (List.cons.inj hbehind).2⟩
  · exfalso
    rcases List.append_eq_append_iff.mp hbehind with ⟨inner, rfl, -⟩ | ⟨inner, rfl, hrest⟩
    · exact hfront ⟨left, inner, List.append_assoc left part inner⟩
    · cases inner with
      | nil =>
          rw [List.append_nil] at hfront
          exact hfront (List.suffix_append left more).isInfix
      | cons c inner =>
          obtain ⟨rfl, -⟩ := List.cons.inj hrest
          exact hmark (List.mem_append_right more List.mem_cons_self)

/-- What a loose form takes for its own line stands between the quotes. -/
theorem exists_loose_iff (hword : word = "array-length" ∨ word = "fill-array-data") :
    (∃ left first second, (stringLine target text).toList =
        left ++ ((word ++ " ").toList ++ (first ++ ',' :: second)) ∧ first ≠ [] ∧ second ≠ []) ↔
      Quotes word text := by
  have hspace : (word ++ " ").toList = word.toList ++ [' '] := String.toList_append
  rw [toList_stringLine, hspace]
  constructor
  · rintro ⟨left, first, second, hline, hfirst, hsecond⟩
    have hquote : '"' ∉ word.toList ++ [' '] := by rcases hword with rfl | rfl <;> decide
    obtain ⟨more, hinner⟩ :=
      exists_behind_mark (by simp) hquote (not_infix_before_quotes hword) hline
    -- The last character behind the comma is the closing quote.
    rw [← List.dropLast_concat_getLast hsecond] at hinner
    have hsame : text.toList ++ ['"'] =
        (more ++ (word.toList ++ ' ' :: (first ++ ',' :: second.dropLast))) ++
          [second.getLast hsecond] := by
      rw [hinner]
      simp
    exact ⟨more, first, second.dropLast, List.append_inj_left' hsame rfl, hfirst⟩
  · rintro ⟨left, operand, right, htext, hne⟩
    refine ⟨"const-string".toList ++ ' ' :: (target.text.toList ++ [',', ' ']) ++ '"' :: left,
      operand, right ++ ['"'], ?_, hne, by simp⟩
    simp [htext]

/-- The pattern of the line itself matches whatever stands between the quotes. -/
theorem isSome_constString (htext : '\n' ∉ text.toList) :
    (Form.constString.groups? (stringLine target text)).isSome := by
  rw [Form.groups?, Pattern.groupsIn, Option.isSome_map, Pattern.search,
    if_pos (Form.anchored_pattern rfl), Pattern.matchStart, toList_stringLine, List.append_assoc]
  simp only [Form.pattern, Pattern.sequence, List.foldr_cons, Form.operand, Pattern.run,
    List.isEmpty_nil, if_true]
  refine Pattern.isSome_text.mpr ⟨_, rfl, Pattern.isSome_optional.mpr (Or.inr ?_)⟩
  refine Pattern.isSome_text.mpr ⟨target.text.toList ++ ',' :: ' ' :: '"' :: (text.toList ++ ['"']),
    by simp, ?_⟩
  refine Pattern.isSome_many.mpr ⟨_, _, rfl, fun c hmem => target.inLine hmem,
    List.length_pos_iff.mpr target.toList_ne_nil, ?_⟩
  refine Pattern.isSome_text.mpr ⟨' ' :: '"' :: (text.toList ++ ['"']), by simp, ?_⟩
  have hspace : ∀ c ∈ [' '], CharSet.blank.accepts c = true := Text.forall_mem_of_all (by decide)
  refine Pattern.isSome_many.mpr ⟨[' '], '"' :: (text.toList ++ ['"']), rfl, hspace,
    Nat.zero_le _, ?_⟩
  refine Pattern.isSome_text.mpr ⟨text.toList ++ ['"'], by simp, ?_⟩
  refine Pattern.isSome_many.mpr ⟨text.toList, ['"'], rfl, Form.inLine_of_ne htext,
    Nat.zero_le _, ?_⟩
  exact Pattern.isSome_text.mpr ⟨[], by simp, rfl⟩

/-- The forms that are found in the line of a text. -/
theorem isSome_groups?_stringLine (htext : '\n' ∉ text.toList) (form : Form) :
    (form.groups? (stringLine target text)).isSome ↔
      form = .constString ∨ form = .fillArray ∧ Quotes "fill-array-data" text ∨
        form = .arrayLength ∧ Quotes "array-length" text := by
  have hline : '\n' ∉ (stringLine target text).toList := newline_notMem_stringLine htext
  have hlength : (Form.arrayLength.groups? (stringLine target text)).isSome ↔
      Quotes "array-length" text := by
    have hword : "array-length " = "array-length" ++ " " := by decide
    rw [← exists_loose_iff (Or.inl rfl), ← hword]
    exact Form.isSome_loose rfl rfl hline
  have hfill : (Form.fillArray.groups? (stringLine target text)).isSome ↔
      Quotes "fill-array-data" text := by
    have hword : "fill-array-data " = "fill-array-data" ++ " " := by decide
    rw [← exists_loose_iff (Or.inr rfl), ← hword]
    exact Form.isSome_loose rfl rfl hline
  constructor
  · intro hsome
    cases hloose : form.isLoose with
    | false =>
        -- The head of a form that is not loose begins the line, as "const-string" does.
        obtain ⟨head, hmem, rest, -, hhead, hrest⟩ := Form.exists_head hsome
        rw [hrest hloose, toList_stringLine, List.append_assoc] at hhead
        exact Or.inl (Form.eq_of_heads hmem (List.mem_singleton_self "const-string") hhead
          (List.prefix_append _ _))
    | true =>
        cases form with
        | fillArray => exact Or.inr (Or.inl ⟨rfl, hfill.mp hsome⟩)
        | arrayLength => exact Or.inr (Or.inr ⟨rfl, hlength.mp hsome⟩)
        | _ => cases hloose
  · rintro (rfl | ⟨rfl, hquotes⟩ | ⟨rfl, hquotes⟩)
    · exact isSome_constString htext
    · exact hfill.mpr hquotes
    · exact hlength.mpr hquotes

/-- The first of the forms that are found. -/
theorem ofLine?_stringLine (htext : '\n' ∉ text.toList) :
    ∃ instruction, (stringForm text).read? (stringLine target text) = some instruction ∧
      Instruction.ofLine? (stringLine target text) = some instruction := by
  have hfound := @isSome_groups?_stringLine target text htext
  by_cases hfill : Quotes "fill-array-data" text
  · have hall : Form.all = Form.all.take 6 ++ .fillArray :: Form.all.drop 7 := by decide
    rw [stringForm, if_pos hfill]
    apply Instruction.ofLine?_of_tried hall ((hfound _).mpr (Or.inr (Or.inl ⟨rfl, hfill⟩)))
    intro other hother
    rw [hfound]
    rintro (rfl | ⟨rfl, -⟩ | ⟨rfl, -⟩) <;> revert hother <;> decide
  · by_cases hlength : Quotes "array-length" text
    · have hall : Form.all = Form.all.take 7 ++ .arrayLength :: Form.all.drop 8 := by decide
      rw [stringForm, if_neg hfill, if_pos hlength]
      apply Instruction.ofLine?_of_tried hall ((hfound _).mpr (Or.inr (Or.inr ⟨rfl, hlength⟩)))
      intro other hother
      rw [hfound]
      rintro (rfl | ⟨rfl, hquotes⟩ | ⟨rfl, -⟩)
      · revert hother
        decide
      · exact hfill hquotes
      · revert hother
        decide
    · have hall : Form.all = Form.all.take 9 ++ .constString :: Form.all.drop 10 := by decide
      rw [stringForm, if_neg hfill, if_neg hlength]
      apply Instruction.ofLine?_of_tried hall ((hfound _).mpr (Or.inl rfl))
      intro other hother
      rw [hfound]
      rintro (rfl | ⟨rfl, hquotes⟩ | ⟨rfl, hquotes⟩)
      · revert hother
        decide
      · exact hfill hquotes
      · exact hlength hquotes

theorem toList_stringLine_eq_cons : ∃ rest, (stringLine target text).toList = 'c' :: rest := by
  have hmnemonic : "const-string".toList = 'c' :: "onst-string".toList := by decide
  rw [toList_stringLine, hmnemonic]
  exact ⟨_, rfl⟩

theorem strip_stringLine : Text.strip (stringLine target text) = stringLine target text := by
  apply Text.strip_eq_self
  · intro c hfirst
    obtain ⟨rest, hline⟩ := @toList_stringLine_eq_cons target text
    rw [hline] at hfirst
    cases hfirst
    decide
  · intro c hlast
    have hne : '"' :: (text.toList ++ ['"']) ≠ [] := List.cons_ne_nil _ _
    rw [toList_stringLine, List.getLast?_append_of_ne_nil _ hne, ← List.cons_append,
      List.getLast?_concat] at hlast
    cases hlast
    decide

theorem isPassive_stringLine : Listing.isPassive (stringLine target text) = false := by
  obtain ⟨rest, hline⟩ := @toList_stringLine_eq_cons target text
  rw [Listing.isPassive, hline]
  rfl

/-- **What is executed for a quoted text.** The line stands in a listing as it is, and its own form
is found in it whatever the text is. Of the others only the loose ones can be found, each exactly if
its word, an operand and a comma stand between the quotes; they come first, so that such a text is
executed as if it were a line of its own. -/
theorem stringLine_executed_exactly (target : Token) (text : String) (htext : '\n' ∉ text.toList) :
    let line := stringLine target text
    (Text.strip line = line ∧ Listing.isPassive line = false) ∧
    (∀ form : Form, (form.groups? line).isSome ↔
      form = .constString ∨ form = .fillArray ∧ Quotes "fill-array-data" text ∨
        form = .arrayLength ∧ Quotes "array-length" text) ∧
    (stringForm text = .constString ↔
      ¬Quotes "fill-array-data" text ∧ ¬Quotes "array-length" text) ∧
    ∃ instruction, (stringForm text).read? line = some instruction ∧
      Instruction.ofLine? line = some instruction ∧
      ∀ emulator : Emulator,
        emulator.executeLine line = emulator.executeForm (stringForm text) line ∧
        emulator.step line =
          Emulator.andThen ((emulator.advance.trace line).execute instruction)
            fun emulator _ => (emulator, .done ()) := by
  intro line
  obtain ⟨instruction, hread, hline⟩ := @ofLine?_stringLine target text htext
  refine ⟨⟨strip_stringLine, isPassive_stringLine⟩, isSome_groups?_stringLine htext,
    stringForm_eq_constString_iff, instruction, hread, hline, fun emulator => ⟨?_, ?_⟩⟩
  · rw [Emulator.executeLine, Emulator.executeForm, hline, hread]
  · rw [Emulator.step, isPassive_stringLine, Emulator.executeLine, hline]
    simp only [Emulator.attempt]
    obtain ⟨after, ending⟩ := (emulator.advance.trace line).execute instruction
    cases ending <;> rfl

/-- A text with one operand behind the word is loaded, a text with two of them is executed. -/
theorem stringLine_executed_exactly_words :
    ('\n' ∉ "array-length v1".toList ∧ ∀ emulator : Emulator,
      emulator.executeLine "const-string v0, \"array-length v1\"" =
        emulator.executeForm .constString "const-string v0, \"array-length v1\"") ∧
    ('\n' ∉ "array-length v1, v2".toList ∧ ∀ emulator : Emulator,
      emulator.executeLine "const-string v0, \"array-length v1, v2\"" =
        emulator.executeForm .arrayLength "const-string v0, \"array-length v1, v2\"") := by
  have hforms : stringForm "array-length v1" = .constString ∧
      stringForm "array-length v1, v2" = .arrayLength := by
    decide +kernel
  obtain ⟨-, -, -, first, -, -, hfirst⟩ :=
    stringLine_executed_exactly ⟨"v0", by decide, by decide⟩ "array-length v1" (by decide)
  obtain ⟨-, -, -, second, -, -, hsecond⟩ :=
    stringLine_executed_exactly ⟨"v0", by decide, by decide⟩ "array-length v1, v2" (by decide)
  rw [hforms.1] at hfirst
  rw [hforms.2] at hsecond
  exact ⟨⟨by decide, fun emulator => (hfirst emulator).1⟩,
    by decide, fun emulator => (hsecond emulator).1⟩

/-- The text of a string names the array that is filled. -/
theorem stringLine_fills_array :
    Instruction.ofLine? "const-string v0, \"fill-array-data v1, :array_0\"" =
      some (.fillArray "v1" ":array_0\"") := by
  decide +kernel

end Dalvik
