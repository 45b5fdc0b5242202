import Dalvik.Instruction.Form
import Dalvik.Proofs.Matching

/-!
# How patterns divide operands

A pattern takes a text if it is content with it whenever the rest of the whole pattern matches
behind it. Fixed texts, runs of characters and optional parts of a mnemonic do so whatever that rest
is. The group of an operand would take the rest of the line; it stops at its own comma because behind
a later one there are too few commas left for the operands that follow.
-/

namespace Dalvik.Pattern

variable {set : CharSet} {next : Place → Option Place} {captures caught : Captures} {place : Place}
  {before chars taken rest : List Char} {pattern body : Pattern}

/-! ### Fixed texts and repetitions -/

theorem run_text_eq_some {fixed : String} :
    run (text fixed) ⟨before, chars, captures⟩ next = some place ↔
      ∃ rest, chars = fixed.toList ++ rest ∧
        next ⟨fixed.toList.reverse ++ before, rest, captures⟩ = some place := by
  unfold text
  induction fixed.toList generalizing before chars with
  | nil => simp [ofText, run]
  | cons c fixed ih =>
      change run (.both (.one (.only c)) (ofText fixed .empty)) ⟨before, chars, captures⟩ next =
        some place ↔ _
      cases chars with
      | nil => simp [run]
      | cons d chars =>
          by_cases hsame : d = c
          · subst hsame
            simpa [run, CharSet.accepts] using ih
          · simp [run, CharSet.accepts, hsame]

/-- A repetition takes some of the characters that stand there. -/
theorem exists_of_manyFrom {least : Nat}
    (hsome : manyFrom set captures next least before chars = some place) :
    ∃ taken rest, chars = taken ++ rest ∧ next ⟨taken.reverse ++ before, rest, captures⟩ =
      some place := by
  induction chars generalizing least before with
  | nil =>
      rw [manyFrom] at hsome
      split at hsome
      · exact ⟨[], [], rfl, hsome⟩
      · cases hsome
  | cons c chars ih =>
      have hstop : (if least = 0 then next ⟨before, c :: chars, captures⟩ else none) = some place →
          ∃ taken rest, c :: chars = taken ++ rest ∧
            next ⟨taken.reverse ++ before, rest, captures⟩ = some place := by
        intro hnow
        split at hnow
        · exact ⟨[], c :: chars, rfl, hnow⟩
        · cases hnow
      rw [manyFrom] at hsome
      split at hsome
      · cases hmore : manyFrom set captures next (least - 1) (c :: before) chars with
        | none =>
            rw [hmore] at hsome
            exact hstop hsome
        | some found =>
            rw [hmore] at hsome
            cases hsome
            obtain ⟨taken, rest, rfl, hnext⟩ := ih hmore
            exact ⟨c :: taken, rest, rfl, by simpa using hnext⟩
      · exact hstop hsome

/-- A repetition takes a run of characters if the rest of the pattern matches behind it and nowhere
further on. -/
theorem manyFrom_of_longest {least : Nat} (htaken : ∀ c ∈ taken, set.accepts c = true)
    (hleast : least ≤ taken.length)
    (hnext : next ⟨taken.reverse ++ before, rest, captures⟩ = some place)
    (hlonger : ∀ c more left, rest = c :: (more ++ left) → set.accepts c = true →
      ∀ middle, next ⟨middle, left, captures⟩ = none) :
    manyFrom set captures next least before (taken ++ rest) = some place := by
  induction taken generalizing least before with
  | nil =>
      have hzero : least = 0 := Nat.le_zero.mp hleast
      cases rest with
      | nil => simpa [manyFrom, hzero] using hnext
      | cons c chars =>
          simp only [List.nil_append, manyFrom, hzero, if_true]
          split
          · rename_i haccepts
            cases hmore : manyFrom set captures next (0 - 1) (c :: before) chars with
            | none => exact hnext
            | some found =>
                -- a longer run cannot be followed by the rest of the pattern
                obtain ⟨more, left, rfl, hfound⟩ := exists_of_manyFrom hmore
                rw [hlonger c more left rfl haccepts] at hfound
                cases hfound
          · exact hnext
  | cons c taken ih =>
      have hfirst : set.accepts c = true := htaken c List.mem_cons_self
      have hmore : manyFrom set captures next (least - 1) (c :: before) (taken ++ rest) =
          some place := by
        refine ih (fun d hd => htaken d (List.mem_cons_of_mem c hd)) ?_ (by simpa using hnext)
        rw [List.length_cons] at hleast
        omega
      rw [List.cons_append, manyFrom, if_pos hfirst, hmore]
      rfl

/-! ### Patterns that take a text -/

theorem Capture.text_append (taken rest : List Char) :
    Capture.text ⟨taken ++ rest, rest⟩ = taken := by
  simp [Capture.text]

/-- The pattern takes a text, whatever stands before it, and catches what is given; it is content
with that if the rest of the whole pattern matches behind it. -/
def Takes (pattern : Pattern) (taken rest : List Char) (caught : Captures) : Prop :=
  ∀ before captures next place,
    next ⟨taken.reverse ++ before, rest, caught ++ captures⟩ = some place →
      run pattern ⟨before, taken ++ rest, captures⟩ next = some place

/-- The pattern does not match here, whatever follows it. -/
def Fails (pattern : Pattern) (rest : List Char) : Prop :=
  ∀ before captures next, run pattern ⟨before, rest, captures⟩ next = none

theorem fails_text {fixed : String} (hother : ¬fixed.toList <+: rest) :
    Fails (text fixed) rest := by
  intro before captures next
  refine Option.eq_none_iff_forall_not_mem.mpr fun place hsome => hother ?_
  obtain ⟨left, hleft, -⟩ := run_text_eq_some.mp hsome
  exact ⟨left, hleft.symm⟩

theorem Fails.both {second : Pattern} (hfails : Fails pattern rest) :
    Fails (.both pattern second) rest :=
  fun before captures _ => hfails before captures _

theorem Fails.group {number : Nat} (hfails : Fails body rest) : Fails (.group number body) rest :=
  fun before captures _ => hfails before captures _

theorem fails_many_nil {least : Nat} : Fails (.many set (least + 1)) [] :=
  fun _ _ _ => rfl

theorem takes_text (fixed : String) (rest : List Char) : Takes (text fixed) fixed.toList rest [] :=
  fun _ _ _ _ hnext => run_text_eq_some.mpr ⟨rest, rfl, hnext⟩

theorem Takes.both {second : Pattern} {more : List Char} {later : Captures}
    (hfirst : Takes pattern taken (more ++ rest) caught) (hsecond : Takes second more rest later) :
    Takes (.both pattern second) (taken ++ more) rest (later ++ caught) := by
  intro before captures next place hnext
  rw [List.append_assoc]
  refine hfirst before captures _ place (hsecond _ _ next place ?_)
  simpa using hnext

theorem Takes.group {number : Nat} (htakes : Takes body taken rest caught) :
    Takes (.group number body) taken rest ((number, ⟨taken ++ rest, rest⟩) :: caught) :=
  fun before captures _ place hnext => htakes before captures _ place hnext

theorem takes_many {least : Nat} (htaken : ∀ c ∈ taken, set.accepts c = true)
    (hleast : least ≤ taken.length) (hstop : ∀ c, rest.head? = some c → set.accepts c = false) :
    Takes (.many set least) taken rest [] := by
  intro before captures next place hnext
  refine manyFrom_of_longest htaken hleast hnext ?_
  rintro c more left rfl haccepts
  rw [hstop c rfl] at haccepts
  cases haccepts

theorem Takes.optional (htakes : Takes body taken rest caught) :
    Takes (optional body) taken rest caught := by
  intro before captures next place hnext
  simp only [Pattern.optional, run, htakes before captures next place hnext, orTry]

theorem Fails.optional (hfails : Fails body rest) : Takes (optional body) [] rest [] := by
  intro before captures next place hnext
  simp only [Pattern.optional, run, List.nil_append, hfails before captures next, orTry]
  exact hnext

/-- A round of a repetition that may have any number of them. -/
theorem repeatFrom_greedy {matcher : Matcher} {fuel count : Nat} {previous : Option Nat}
    (hprevious : previous ≠ some place.rest.length) :
    repeatFrom matcher 0 none false next (fuel + 1) count previous place =
      orTry (matcher place
        (repeatFrom matcher 0 none false next fuel (count + 1) (some place.rest.length)))
        fun _ => next place := by
  simp [repeatFrom, hprevious]

theorem run_repeated_greedy :
    run (.repeated body 0 none false) place next =
      orTry (run body place (repeatFrom (run body) 0 none false next (place.rest.length + 1) 1
        (some place.rest.length))) fun _ => next place := by
  have hnone : none ≠ some place.rest.length := nofun
  simpa only [run, Nat.zero_add] using repeatFrom_greedy hnone

theorem Fails.repeated (hfails : Fails body rest) :
    Takes (.repeated body 0 none false) [] rest [] := by
  intro before captures next place hnext
  rw [run_repeated_greedy, List.nil_append, hfails]
  exact hnext

/-- One round of a repetition, behind which there is no other one. -/
theorem Takes.repeated (htakes : Takes body taken rest caught) (hne : taken ≠ [])
    (hfails : Fails body rest) : Takes (.repeated body 0 none false) taken rest caught := by
  intro before captures next place hnext
  have hlast (fuel : Nat) : repeatFrom (run body) 0 none false next (fuel + 1) 1
      (some (taken ++ rest).length) ⟨taken.reverse ++ before, rest, caught ++ captures⟩ =
      some place := by
    rw [repeatFrom_greedy, hfails]
    · exact hnext
    · simpa using hne
  rw [run_repeated_greedy, htakes before captures _ place (hlast (taken ++ rest).length)]
  rfl

end Dalvik.Pattern

namespace Dalvik

/-! ### Printed operands -/

/-- Characters that stand in operands. -/
def Text.isSolid (c : Char) : Bool :=
  !isBlank c && c != ',' && c != '\x7b' && c != '\x7d'

/-- An operand as it is printed. -/
structure Token where
  text : String
  ne_empty : text ≠ ""
  solid : text.toList.all Text.isSolid = true

/-- The operand of a jump is a colon and a name. -/
structure JumpLabel extends Token where
  colon : ∃ name, text.toList = ':' :: name ∧ name ≠ []

/-- What stands behind a comma. -/
structure Gap where
  text : String
  blank : text.toList.all (fun c => c = ' ' ∨ c = '\t') = true

/-- Operands with commas between them, each of which is followed by a gap. -/
def joined (gaps : Nat → Gap) : Nat → List Token → String
  | _, [] => ""
  | _, [token] => token.text
  | index, token :: rest =>
    token.text ++ "," ++ (gaps index).text ++ joined gaps (index + 1) rest

namespace Token

variable {token : Token} {c : Char}

theorem toList_ne_nil (token : Token) : token.text.toList ≠ [] := by
  simpa using token.ne_empty

theorem isSolid (token : Token) (hmem : c ∈ token.text.toList) : Text.isSolid c = true :=
  List.all_eq_true.mp token.solid c hmem

theorem not_blank (token : Token) (hmem : c ∈ token.text.toList) : Text.isBlank c = false := by
  have hsolid := token.isSolid hmem
  simp only [Text.isSolid, Bool.and_eq_true, Bool.not_eq_true'] at hsolid
  exact hsolid.1.1.1

theorem not_comma (token : Token) : ',' ∉ token.text.toList := by
  intro hmem
  have hsolid := token.isSolid hmem
  revert hsolid
  decide

theorem not_closing (token : Token) : '\x7d' ∉ token.text.toList := by
  intro hmem
  have hsolid := token.isSolid hmem
  revert hsolid
  decide

theorem inLine (token : Token) (hmem : c ∈ token.text.toList) :
    CharSet.inLine.accepts c = true := by
  have hblank := token.not_blank hmem
  simp only [CharSet.inLine, CharSet.accepts, Bool.not_eq_true', beq_eq_false_iff_ne]
  rintro rfl
  revert hblank
  decide

end Token

theorem Gap.space_or_tab (gap : Gap) {c : Char} (hmem : c ∈ gap.text.toList) :
    c = ' ' ∨ c = '\t' := by
  simpa using List.all_eq_true.mp gap.blank c hmem

theorem Gap.not_comma (gap : Gap) : ',' ∉ gap.text.toList := by
  intro hmem
  rcases gap.space_or_tab hmem with hspace | htab
  · revert hspace
    decide
  · revert htab
    decide

theorem Gap.isBlank (gap : Gap) {c : Char} (hmem : c ∈ gap.text.toList) :
    Text.isBlank c = true := by
  rcases gap.space_or_tab hmem with rfl | rfl <;> decide

section Joined

variable {gaps : Nat → Gap} {index : Nat} {token other : Token} {tokens : List Token}

theorem toList_joined_cons :
    (joined gaps index (token :: other :: tokens)).toList =
      token.text.toList ++ ',' :: ((gaps index).text.toList ++
        (joined gaps (index + 1) (other :: tokens)).toList) := by
  simp [joined]

theorem count_comma_joined :
    (joined gaps index (token :: tokens)).toList.count ',' = tokens.length := by
  induction tokens generalizing index token with
  | nil => exact List.count_eq_zero.mpr token.not_comma
  | cons other tokens ih =>
      rw [toList_joined_cons, List.count_append, List.count_cons_self, List.count_append, ih,
        List.count_eq_zero.mpr token.not_comma, List.count_eq_zero.mpr (gaps index).not_comma,
        List.length_cons]
      omega

/-- Joined operands begin with the first of them. -/
theorem joined_begins (gaps : Nat → Gap) (index : Nat) (token : Token) (tokens : List Token) :
    ∃ rest, (joined gaps index (token :: tokens)).toList = token.text.toList ++ rest := by
  cases tokens with
  | nil => exact ⟨[], by simp [joined]⟩
  | cons other tokens => exact ⟨_, toList_joined_cons⟩

theorem not_blank_of_head?_joined {c : Char}
    (hhead : (joined gaps index (token :: tokens)).toList.head? = some c) :
    Text.isBlank c = false := by
  obtain ⟨rest, hrest⟩ := joined_begins gaps index token tokens
  obtain ⟨first, chars, hchars⟩ := List.exists_cons_of_ne_nil token.toList_ne_nil
  rw [hrest, hchars] at hhead
  cases hhead
  exact token.not_blank (by rw [hchars]; exact List.mem_cons_self)

end Joined

namespace Form

open Pattern

/-- Patterns of operands, whose groups are numbered from the given number on, and operands that
they take. -/
inductive Fits : Nat → List Pattern → List Token → Prop where
  | nil {number : Nat} : Fits number [] []
  | operand {number : Nat} {parts : List Pattern} {tokens : List Token} (token : Token)
      (hrest : Fits (number + 1) parts tokens) :
      Fits number (operand number :: parts) (token :: tokens)
  | label {number : Nat} {parts : List Pattern} {tokens : List Token} (token : JumpLabel)
      (hrest : Fits (number + 1) parts tokens) :
      Fits number (label number :: parts) (token.toToken :: tokens)

/-- The first operand, its pattern, which has the given number, and those behind them. -/
theorem Fits.exists_cons {number : Nat} {parts : List Pattern} {token : Token} {tokens : List Token}
    (hfits : Fits number parts (token :: tokens)) :
    ∃ part rest, parts = part :: rest ∧ part.groupCount = number ∧
      Fits (number + 1) rest tokens := by
  cases hfits with
  | operand _ hrest | label _ hrest =>
      exact ⟨_, _, rfl, Nat.max_eq_left (Nat.zero_le _), hrest⟩

theorem Fits.length_eq {number : Nat} {parts : List Pattern} {tokens : List Token}
    (hfits : Fits number parts tokens) : parts.length = tokens.length := by
  induction hfits with
  | nil => rfl
  | operand _ _ ih | label _ _ ih => rw [List.length_cons, List.length_cons, ih]

/-- A comma, any blanks, and operands. -/
def separated (parts : List Pattern) : Pattern :=
  .both (.one (.only ',')) (.both (.many .blank 0) (divided parts))

variable {number : Nat} {part : Pattern} {parts : List Pattern} {token : Token}
  {tokens : List Token} {before chars rest : List Char} {captures : Captures}
  {next : Place → Option Place} {place : Place}

/-- What follows an operand stands behind it in the line. -/
theorem exists_of_run_part (hfits : Fits number (part :: parts) (token :: tokens))
    (hsome : run part ⟨before, chars, captures⟩ next = some place) :
    ∃ middle, middle.rest <:+ chars ∧ next middle = some place := by
  cases hfits with
  | operand =>
      obtain ⟨taken, rest, rfl, hnext⟩ := exists_of_manyFrom hsome
      exact ⟨_, List.suffix_append taken rest, hnext⟩
  | label =>
      cases chars with
      | nil => cases hsome
      | cons c chars =>
          simp only [label, run] at hsome
          split at hsome
          · obtain ⟨taken, rest, rfl, hnext⟩ := exists_of_manyFrom hsome
            exact ⟨_, List.suffix_append (c :: taken) rest, hnext⟩
          · cases hsome

theorem exists_of_run_separated
    (hsome : run (separated parts) ⟨before, chars, captures⟩ next = some place) :
    ∃ middle left, left.count ',' < chars.count ',' ∧
      run (divided parts) ⟨middle, left, captures⟩ next = some place := by
  cases chars with
  | nil => cases hsome
  | cons c chars =>
      by_cases hcomma : c = ','
      · subst hcomma
        obtain ⟨taken, left, rfl, hnext⟩ := exists_of_manyFrom hsome
        refine ⟨_, left, ?_, hnext⟩
        rw [List.count_cons_self, List.count_append]
        omega
      · simp [separated, run, CharSet.accepts, hcomma] at hsome

/-- Operands are not found where there are too few commas. -/
theorem run_divided_eq_none (hfits : Fits number parts tokens)
    (hfew : chars.count ',' + 1 < parts.length) :
    run (divided parts) ⟨before, chars, captures⟩ next = none := by
  induction parts generalizing number tokens before chars captures next with
  | nil => simp at hfew
  | cons part parts ih =>
      obtain ⟨token, tokens, rfl⟩ : ∃ token rest, tokens = token :: rest := by
        cases hfits <;> exact ⟨_, _, rfl⟩
      cases parts with
      | nil => simp at hfew
      | cons second parts =>
          refine Option.eq_none_iff_forall_ne_some.mpr fun place hsome => ?_
          obtain ⟨middle, hmiddle, hsome⟩ := exists_of_run_part hfits hsome
          obtain ⟨middle', left, hleft, hsome⟩ := exists_of_run_separated hsome
          have hrest : Fits (number + 1) (second :: parts) tokens := by
            cases hfits <;> assumption
          have hcount := hmiddle.sublist.count_le ','
          rw [ih hrest (by simp only [List.length_cons] at hfew ⊢; omega)] at hsome
          cases hsome

theorem run_separated_eq_none (hfits : Fits number parts tokens)
    (hfew : chars.count ',' < parts.length) :
    run (separated parts) ⟨before, chars, captures⟩ next = none := by
  refine Option.eq_none_iff_forall_ne_some.mpr fun place hsome => ?_
  obtain ⟨middle, left, hleft, hsome⟩ := exists_of_run_separated hsome
  rw [run_divided_eq_none hfits (by omega)] at hsome
  cases hsome

/-- An operand is taken as a whole if what follows is not found further on. -/
theorem run_part (hfits : Fits number (part :: parts) (token :: tokens))
    (hnext : next ⟨token.text.toList.reverse ++ before, rest,
      (number, ⟨token.text.toList ++ rest, rest⟩) :: captures⟩ = some place)
    (hlonger : ∀ c more left, rest = c :: (more ++ left) → ∀ middle captures,
      next ⟨middle, left, captures⟩ = none) :
    run part ⟨before, token.text.toList ++ rest, captures⟩ next = some place := by
  have hleast : 1 ≤ token.text.toList.length :=
    List.length_pos_iff.mpr token.toList_ne_nil
  cases hfits with
  | operand =>
      exact manyFrom_of_longest (fun c hmem => token.inLine hmem) hleast hnext
        fun c more left hrest _ middle => hlonger c more left hrest middle _
  | label label =>
      obtain ⟨name, hname, hne⟩ := label.colon
      have hline : ∀ c ∈ name, CharSet.inLine.accepts c = true := by
        intro c hmem
        refine label.inLine ?_
        rw [hname]
        exact List.mem_cons_of_mem _ hmem
      rw [hname] at hnext ⊢
      refine manyFrom_of_longest hline (List.length_pos_iff.mpr hne) ?_
        fun c more left hrest _ middle => hlonger c more left hrest middle _
      simpa using hnext

/-- A place at which the operands are caught by the groups from the given number on, and what groups
of smaller numbers caught before is kept. -/
structure Holds (place : Place) (number : Nat) (tokens : List Token) (captures : Captures) :
    Prop where
  groups : ∀ offset token, tokens[offset]? = some token →
    place.group? (number + offset) = some token.text
  kept : ∀ other < number, place.captures.lookup other = captures.lookup other

theorem holds_nil : Holds ⟨before, rest, captures⟩ number [] captures :=
  ⟨fun _ _ hnone => (nomatch hnone), fun _ _ => rfl⟩

/-- The group of an operand is kept by those behind it. -/
theorem Holds.cons (hholds : Holds place (number + 1) tokens
      ((number, ⟨token.text.toList ++ rest, rest⟩) :: captures)) :
    Holds place number (token :: tokens) captures := by
  have hown : place.group? number = some token.text := by
    rw [Place.group?, hholds.kept number (Nat.lt_succ_self number), List.lookup_cons_self,
      Option.map_some, Capture.text_append, String.ofList_toList]
  refine ⟨?_, ?_⟩
  · intro offset later hlater
    cases offset with
    | zero =>
        cases hlater
        exact hown
    | succ offset =>
        rw [show number + (offset + 1) = number + 1 + offset by omega]
        exact hholds.groups offset later hlater
  · intro other hother
    have hne : (other == number) = false := beq_eq_false_iff_ne.mpr (Nat.ne_of_lt hother)
    rw [hholds.kept other (by omega), List.lookup_cons, hne]

theorem Holds.groups_eq (hholds : Holds place 1 tokens captures) :
    place.groups tokens.length = tokens.map fun token => some token.text := by
  refine List.ext_getElem? fun offset => ?_
  rw [Place.groups, List.getElem?_map, List.getElem?_map]
  by_cases hlt : offset < tokens.length
  · rw [List.getElem?_range hlt, List.getElem?_eq_getElem hlt, Option.map_some, Option.map_some,
      Nat.add_comm, hholds.groups offset _ (List.getElem?_eq_getElem hlt)]
  · rw [List.getElem?_eq_none (by simpa using hlt), List.getElem?_eq_none (by simpa using hlt)]
    rfl

/-- Joined operands are divided where they were joined. -/
theorem run_divided (gaps : Nat → Gap) (index : Nat) (before : List Char) (captures : Captures)
    (hfits : Fits number parts (token :: tokens)) :
    ∃ place, run (divided parts)
        ⟨before, (joined gaps index (token :: tokens)).toList, captures⟩ some = some place ∧
      Holds place number (token :: tokens) captures := by
  induction tokens generalizing number parts token index before captures with
  | nil =>
      obtain ⟨part, _, rfl, -, ⟨⟩⟩ := hfits.exists_cons
      refine ⟨⟨token.text.toList.reverse ++ before, [],
        (number, ⟨token.text.toList ++ [], []⟩) :: captures⟩, ?_, Holds.cons holds_nil⟩
      have hlast : run part ⟨before, token.text.toList ++ [], captures⟩ some =
          some ⟨token.text.toList.reverse ++ before, [],
            (number, ⟨token.text.toList ++ [], []⟩) :: captures⟩ :=
        run_part hfits rfl fun _ _ _ hnil => nomatch hnil
      rwa [List.append_nil] at hlast ⊢
  | cons other tokens ih =>
      obtain ⟨part, _, rfl, -, hrest⟩ := hfits.exists_cons
      obtain ⟨second, parts, rfl, -, hlater⟩ := hrest.exists_cons
      rw [toList_joined_cons]
      generalize hleft : (joined gaps (index + 1) (other :: tokens)).toList = left
      obtain ⟨place, hplace, hholds⟩ := ih (index + 1)
        ((gaps index).text.toList.reverse ++ ',' :: (token.text.toList.reverse ++ before))
        ((number, ⟨token.text.toList ++ ',' :: ((gaps index).text.toList ++ left),
          ',' :: ((gaps index).text.toList ++ left)⟩) :: captures) hrest
      rw [hleft] at hplace
      have hgap : Takes (.many .blank 0) (gaps index).text.toList left [] :=
        takes_many (fun c hmem => (gaps index).isBlank hmem) (Nat.zero_le _) fun c hhead =>
          not_blank_of_head?_joined (hleft ▸ hhead)
      refine ⟨place, ?_, hholds.cons⟩
      change run part _ (fun middle => run (separated (second :: parts)) middle some) = some place
      refine run_part hfits ?_ ?_
      · exact hgap _ _ (fun middle => run (divided (second :: parts)) middle some) place hplace
      · intro c more rest hmore middle captures
        -- The comma that was passed is missing now.
        have hbehind : (gaps index).text.toList ++ left = more ++ rest := (List.cons.inj hmore).2
        have hcount : (more ++ rest).count ',' = parts.length := by
          rw [← hbehind, List.count_append, List.count_eq_zero.mpr (gaps index).not_comma, ← hleft,
            count_comma_joined, hlater.length_eq]
          omega
        rw [List.count_append] at hcount
        exact run_separated_eq_none hrest (by rw [List.length_cons]; omega)

end Form

end Dalvik
