import Dalvik.Emulator.Run
import Dalvik.Proofs.Mnemonics
import Dalvik.Proofs.Statements

/-!
# Printed instructions are read back

The pattern of a statement's form takes the printed mnemonic, and divides the operands where they
were joined. No other form is found in the line: those that match only at its beginning have other
heads, and the loose ones need a word with a space behind it, which stands nowhere but at the end of
a mnemonic.
-/

namespace Dalvik

namespace Form

open Pattern

variable {gaps : Nat → Gap} {token : Token} {tokens : List Token} {parts : List Pattern}
  {mnemonic : Pattern} {base ending written : String} {rest : List Char} {number index : Nat}

/-! ### Mnemonics are taken -/

theorem takes_withEnding (base ending : String) (present : Bool) (rest : List Char)
    (hending : ¬ending.toList <+: ' ' :: rest) :
    Takes (.both (text base) (optional (text ending)))
      (Statement.withEnding base ending present).toList (' ' :: rest) [] := by
  cases present with
  | false =>
      have htakes := (takes_text base (' ' :: rest)).both (fails_text hending).optional
      rwa [List.append_nil] at htakes
  | true =>
      have htakes := (takes_text base _).both (takes_text ending (' ' :: rest)).optional
      rwa [← String.toList_append] at htakes

theorem takes_marked {mark : String} {set : CharSet} {suffix : Option String}
    (hmark : ¬mark.toList <+: ' ' :: rest) (hspace : set.accepts ' ' = false)
    (hsuffix : ∀ ending, suffix = some ending →
      ending ≠ "" ∧ ∀ c ∈ ending.toList, set.accepts c = true) :
    Takes (.both (text base) (optional (.both (text mark) (.many set 1))))
      (Statement.marked base mark suffix).toList (' ' :: rest) [] := by
  cases suffix with
  | none =>
      have hnone : Takes (optional (.both (text mark) (.many set 1))) [] (' ' :: rest) [] :=
        (fails_text hmark).both.optional
      have htakes := (takes_text base (' ' :: rest)).both hnone
      rwa [List.append_nil] at htakes
  | some ending =>
      obtain ⟨hne, haccepts⟩ := hsuffix ending rfl
      have hrun : Takes (.many set 1) ending.toList (' ' :: rest) [] := by
        refine takes_many haccepts (List.length_pos_iff.mpr (by simpa using hne)) ?_
        rintro c ⟨⟩
        exact hspace
      have htakes := (takes_text base _).both ((takes_text mark _).both hrun).optional
      rwa [← String.toList_append, ← String.toList_append, ← String.append_assoc] at htakes

theorem takes_withWidth (width : Option Digits) :
    Takes (withWidth base) (Statement.marked base "/" (width.map (·.text))).toList
      (' ' :: rest) [] := by
  refine takes_marked (by simp) (by decide) fun ending hending => ?_
  obtain ⟨digits, -, rfl⟩ := Option.map_eq_some_iff.mp hending
  exact ⟨digits.ne_empty, fun _ => digits.isDigit⟩

theorem takes_withKind (kind : Option ItemKind) :
    Takes (withKind base) (Statement.marked base "-" (kind.map (·.letters.text))).toList
      (' ' :: rest) [] := by
  refine takes_marked (by simp) (by decide) fun ending hending => ?_
  obtain ⟨kind, -, rfl⟩ := Option.map_eq_some_iff.mp hending
  exact ⟨kind.letters.ne_empty, fun _ => kind.letters.lower⟩

/-- A mnemonic that ends in a run of characters. -/
theorem takes_run (base ending : String) (rest : List Char) {set : CharSet} {least : Nat}
    (hspace : set.accepts ' ' = false)
    (hleast : least ≤ ending.toList.length) (hending : ∀ c ∈ ending.toList, set.accepts c = true) :
    Takes (.both (text base) (.many set least)) (base ++ ending).toList (' ' :: rest) [] := by
  have hrun : Takes (.many set least) ending.toList (' ' :: rest) [] := by
    refine takes_many hending hleast ?_
    rintro c ⟨⟩
    exact hspace
  have htakes := (takes_text base _).both hrun
  rwa [← String.toList_append] at htakes

theorem takes_arrayGet (kind : Option ItemKind) :
    Takes (.both (text "aget") (.many (.either (.only '-') .lowerLetter) 0))
      (Statement.marked "aget" "-" (kind.map (·.letters.text))).toList (' ' :: rest) [] := by
  cases kind with
  | none => exact takes_run "aget" "" rest (by decide) (Nat.zero_le _) nofun
  | some kind =>
      have hletters : ∀ c ∈ ("-" ++ kind.letters.text).toList,
          (CharSet.either (.only '-') .lowerLetter).accepts c = true := by
        cases kind <;> exact Text.forall_mem_of_all (by decide)
      have htakes := takes_run "aget" _ rest (by decide) (Nat.zero_le _) hletters
      rwa [← String.append_assoc] at htakes

/-! ### Operands are caught -/

theorem search_of_run {pattern : Pattern} {line : String} {place : Place}
    (hrun : run pattern ⟨[], line.toList, []⟩ some = some place) :
    pattern.search line = some place := by
  rw [search]
  split
  · exact hrun
  · cases hchars : line.toList with
    | nil => rwa [hchars] at hrun
    | cons c chars =>
        rw [hchars] at hrun
        rw [searchFrom, hrun]
        rfl

/-- A mnemonic, a space, and what the operands are found in. -/
theorem search_spaced {space operands : Pattern} {body : String} {caught : Captures} {place : Place}
    (hmnemonic : Takes mnemonic written.toList (' ' :: body.toList) caught)
    (hspace : Takes space [' '] body.toList [])
    (hrun : run operands ⟨' ' :: written.toList.reverse, body.toList, caught⟩ some = some place) :
    (sequence [.atStart, mnemonic, space, operands]).search (written ++ " " ++ body) =
      some place := by
  refine search_of_run ?_
  have hwritten : (written ++ " " ++ body).toList = written.toList ++ ' ' :: body.toList := by
    simp
  rw [hwritten]
  exact hmnemonic [] [] (fun middle => run (.both space operands) middle some) place
    (hspace _ _ (fun middle => run operands middle some) place (by simpa using hrun))

@[simp]
theorem groupCount_text (fixed : String) : (text fixed).groupCount = 0 := by
  unfold text
  induction fixed.toList with
  | nil => rfl
  | cons c fixed ih =>
      change max 0 (ofText fixed .empty).groupCount = 0
      rw [ih, Nat.max_self]

theorem groupCount_optional (body : Pattern) : (optional body).groupCount = body.groupCount :=
  Nat.max_zero _

theorem Fits.groupCount (hfits : Fits (number + 1) parts (token :: tokens)) :
    (divided parts).groupCount = number + (token :: tokens).length := by
  induction tokens generalizing number token parts with
  | nil =>
      obtain ⟨part, _, rfl, hpart, ⟨⟩⟩ := hfits.exists_cons
      exact hpart
  | cons other tokens ih =>
      obtain ⟨part, _, rfl, hpart, hrest⟩ := hfits.exists_cons
      obtain ⟨second, parts, rfl, -, -⟩ := hrest.exists_cons
      simp only [divided, Pattern.groupCount, ih hrest, hpart, List.length_cons]
      omega

theorem groupsIn_line {space : Pattern} (hcount : mnemonic.groupCount = 0)
    (hnone : space.groupCount = 0)
    (hmnemonic : Takes mnemonic written.toList
      (' ' :: (joined gaps 0 (token :: tokens)).toList) [])
    (hspace : Takes space [' '] (joined gaps 0 (token :: tokens)).toList [])
    (hfits : Fits 1 parts (token :: tokens)) :
    (sequence [.atStart, mnemonic, space, divided parts]).groupsIn
        (written ++ " " ++ joined gaps 0 (token :: tokens)) =
      some ((token :: tokens).map fun token => some token.text) := by
  obtain ⟨place, hplace, hholds⟩ := run_divided gaps 0 (' ' :: written.toList.reverse) [] hfits
  have hgroups : (sequence [.atStart, mnemonic, space, divided parts]).groupCount =
      (token :: tokens).length := by
    have hdivided : (divided parts).groupCount = 0 + (token :: tokens).length := hfits.groupCount
    simp [Pattern.sequence, groupCount, hcount, hnone, hdivided]
  rw [groupsIn, search_spaced hmnemonic hspace hplace, hgroups, Option.map_some, hholds.groups_eq]

theorem groups?_of_line {form : Form} (hpattern : form.pattern = line mnemonic parts)
    (hcount : mnemonic.groupCount = 0)
    (hmnemonic : Takes mnemonic written.toList
      (' ' :: (joined gaps 0 (token :: tokens)).toList) [])
    (hfits : Fits 1 parts (token :: tokens)) :
    form.groups? (written ++ " " ++ joined gaps 0 (token :: tokens)) =
      some ((token :: tokens).map fun token => some token.text) := by
  rw [groups?, hpattern]
  exact groupsIn_line hcount (groupCount_text " ") hmnemonic (takes_text " " _) hfits

theorem takes_blank_joined :
    Takes (.many .blank 1) [' '] (joined gaps 0 (token :: tokens)).toList [] :=
  takes_many (Text.forall_mem_of_all (by decide)) (by decide) fun _ hhead => not_blank_of_head?_joined hhead

theorem groups?_of_static {form : Form} {kind : Option ItemKind} {first second : Token}
    (hpattern : form.pattern = pattern.static base) :
    form.groups? (Statement.marked base "-" (kind.map (·.letters.text)) ++ " " ++
        joined gaps 0 [first, second]) = some [some first.text, some second.text] := by
  rw [groups?, hpattern]
  exact groupsIn_line (by simp [withKind, groupCount, groupCount_optional]) rfl
    (takes_withKind kind)
    takes_blank_joined (.operand first (.operand second .nil))

theorem groups?_of_loose {form : Form} {first second : Token}
    (hpattern : form.pattern = .both (text (written ++ " ")) (divided [operand 1, operand 2])) :
    form.groups? (written ++ " " ++ joined gaps 0 [first, second]) =
      some [some first.text, some second.text] := by
  have hfits : Fits 1 [operand 1, operand 2] [first, second] :=
    .operand first (.operand second .nil)
  obtain ⟨place, hplace, hholds⟩ :=
    run_divided gaps 0 ((written ++ " ").toList.reverse ++ []) [] hfits
  have hsearch : form.pattern.search (written ++ " " ++ joined gaps 0 [first, second]) =
      some place := by
    refine search_of_run ?_
    rw [hpattern, String.toList_append]
    exact takes_text _ _ _ _ (fun middle => run (divided _) middle some) place hplace
  have hcount : form.pattern.groupCount = [first, second].length := by
    simp [hpattern, groupCount, divided, operand]
  rw [groups?, groupsIn, hsearch, hcount, Option.map_some, hholds.groups_eq]
  rfl

theorem groups?_convert {kind : Letters} {first second : Token} :
    Form.convert.groups? ("int-to-" ++ kind.text ++ " " ++ joined gaps 0 [first, second]) =
      some [some kind.text, some first.text, some second.text] := by
  have hkind : Takes (.many .lowerLetter 1) kind.text.toList
      (' ' :: (joined gaps 0 [first, second]).toList) [] := by
    refine takes_many (fun _ => kind.lower) kind.length_pos ?_
    rintro c ⟨⟩
    decide
  have hcaught : Takes (.group 1 (.many .lowerLetter 1)) kind.text.toList
      (' ' :: (joined gaps 0 [first, second]).toList) _ := hkind.group
  have hmnemonic := (takes_text "int-to-" _).both hcaught
  rw [← String.toList_append] at hmnemonic
  have hfits : Fits 2 [operand 2, operand 3] [first, second] :=
    .operand first (.operand second .nil)
  obtain ⟨place, hplace, hholds⟩ := run_divided gaps 0
    (' ' :: ("int-to-" ++ kind.text).toList.reverse) _ hfits
  have hsearch := search_spaced hmnemonic (takes_text " " _) hplace
  have hcount : Form.convert.pattern.groupCount = 3 := by
    simp [pattern, line, Pattern.sequence, groupCount, divided, operand]
  have hfirst : place.group? 1 = some kind.text := by
    rw [Place.group?, hholds.kept 1 (by decide)]
    simp [Capture.text]
  have hgroups : place.groups 3 = [place.group? 1, place.group? 2, place.group? 3] := rfl
  rw [groups?, groupsIn, hcount]
  change ((line _ _).search _).map _ = _
  rw [line, hsearch, Option.map_some, hgroups, hfirst, hholds.groups 0 first rfl,
    hholds.groups 1 second rfl]

/-- Registers in braces and the callee. The group in the braces takes all up to the last of them. -/
theorem run_call (before : List Char) {inner : List Char} (gap : Gap) (callee : Token)
    (hinner : ∀ c ∈ inner, CharSet.inLine.accepts c = true) :
    ∃ place, run (divided
        [sequence [text "\x7b", .group 1 (.many .inLine 0), text "\x7d"], operand 2])
        ⟨before, '\x7b' :: (inner ++ '\x7d' :: ',' :: (gap.text.toList ++ callee.text.toList)), []⟩
        some = some place ∧
      place.groups 2 = [some (String.ofList inner), some callee.text] := by
  generalize hbehind : gap.text.toList ++ callee.text.toList = behind
  have hfits : Fits 2 [operand 2] [callee] := .operand callee .nil
  obtain ⟨place, hplace, hholds⟩ := run_divided (fun _ => gap) 0
    (gap.text.toList.reverse ++ ',' :: '\x7d' :: (inner.reverse ++ '\x7b' :: before))
    [(1, ⟨inner ++ '\x7d' :: ',' :: behind, '\x7d' :: ',' :: behind⟩)] hfits
  have hgap : Takes (.many .blank 0) gap.text.toList callee.text.toList [] :=
    takes_many (fun c hmem => gap.isBlank hmem) (Nat.zero_le _) fun c hhead =>
      callee.not_blank (List.mem_of_head? hhead)
  have hclosing : '\x7d' ∉ behind := by
    rw [← hbehind, List.mem_append, not_or]
    exact ⟨fun hmem => absurd (gap.isBlank hmem) (by decide), callee.not_closing⟩
  refine ⟨place, ?_, ?_⟩
  · change run (.both (.both (text "\x7b") (.both (.group 1 (.many .inLine 0))
      (.both (text "\x7d") .empty))) (separated [operand 2])) _ some = some place
    simp only [run]
    refine takes_text "\x7b" _ _ _ _ place (manyFrom_of_longest hinner (Nat.zero_le _) ?_ ?_)
    · refine takes_text "\x7d" _ _ _ _ place ?_
      have hcallee := hgap _ _ (fun middle => run (divided [operand 2]) middle some) place hplace
      rwa [hbehind] at hcallee
    · -- a longer group would end at a brace behind the one that closes
      intro c more left hmore _ middle
      have hleft : ¬"\x7d".toList <+: left := by
        rintro ⟨rest, rfl⟩
        have hmem : '\x7d' ∈ ',' :: behind := by
          rw [(List.cons.inj hmore).2]
          simp
        rcases List.mem_cons.mp hmem with hcomma | hmem
        · revert hcomma
          decide
        · exact hclosing hmem
      exact fails_text hleft _ _ _
  · have hfirst : place.group? 1 = some (String.ofList inner) := by
      rw [Place.group?, hholds.kept 1 (by decide)]
      simp [Capture.text]
    have hgroups : place.groups 2 = [place.group? 1, place.group? 2] := rfl
    rw [hgroups, hfirst, hholds.groups 0 callee rfl]

theorem joined_inLine {c : Char} (hmem : c ∈ (joined gaps index (token :: tokens)).toList) :
    CharSet.inLine.accepts c = true := by
  induction tokens generalizing index token with
  | nil => exact token.inLine hmem
  | cons other tokens ih =>
      rw [toList_joined_cons, List.mem_append, List.mem_cons, List.mem_append] at hmem
      rcases hmem with hmem | rfl | hmem | hmem
      · exact token.inLine hmem
      · decide
      · rcases (gaps index).space_or_tab hmem with rfl | rfl <;> decide
      · exact ih hmem

theorem groups?_invoke {kind : CallKind} {gap : Gap} {callee : Token} :
    Form.invoke.groups? ("invoke-" ++ kind.letters.text ++ " " ++ ("\x7b" ++
        joined gaps 0 (token :: tokens) ++ "\x7d," ++ gap.text ++ callee.text)) =
      some [some (joined gaps 0 (token :: tokens)), some callee.text] := by
  have hinner : ∀ c ∈ (joined gaps 0 (token :: tokens)).toList, CharSet.inLine.accepts c = true :=
    fun c hmem => joined_inLine hmem
  obtain ⟨place, hplace, hgroups⟩ := run_call
    (' ' :: ("invoke-" ++ kind.letters.text).toList.reverse) gap callee hinner
  have hbody : ("\x7b" ++ joined gaps 0 (token :: tokens) ++ "\x7d," ++ gap.text ++
      callee.text).toList = '\x7b' :: ((joined gaps 0 (token :: tokens)).toList ++
        '\x7d' :: ',' :: (gap.text.toList ++ callee.text.toList)) := by
    simp
  rw [← hbody] at hplace
  have hmnemonic (rest : List Char) := takes_run "invoke-" kind.letters.text rest (by decide)
    kind.letters.length_pos fun _ => kind.letters.lower
  have hsearch := search_spaced (hmnemonic _) (takes_text " " _) hplace
  have hcount : Form.invoke.pattern.groupCount = 2 := by
    simp [pattern, line, Pattern.sequence, groupCount, divided, operand]
  rw [groups?, groupsIn, hcount]
  change ((line _ _).search _).map _ = _
  rw [line, hsearch, Option.map_some, hgroups, String.ofList_toList]

/-- The kinds that may follow `return`. -/
def exitKinds : Pattern :=
  .repeated (.group 1 (.both (text "-") (.many .lowerLetter 0))) 0 none false

/-- The kinds, a space, and the source. -/
theorem groups?_exit_of_takes (kind : String) (source : Token) {caught : Captures}
    (hkind : Takes exitKinds kind.toList ([' '] ++ source.text.toList ++ []) caught) :
    Form.exit.groups? ("return" ++ kind ++ " " ++ source.text) =
      some [(caught.lookup 1).map fun capture => String.ofList capture.text,
        some source.text] := by
  have hblank : Takes (.many .blank 0) [' '] (source.text.toList ++ []) [] := by
    refine takes_many (Text.forall_mem_of_all (by decide)) (by decide) fun c hhead => ?_
    rw [List.append_nil] at hhead
    exact source.not_blank (List.mem_of_head? hhead)
  have hsource : Takes (operand 2) source.text.toList [] [(2, ⟨source.text.toList ++ [], []⟩)] := by
    refine (takes_many (fun c hmem => source.inLine hmem) ?_ ?_).group
    · exact List.length_pos_iff.mpr source.toList_ne_nil
    · rintro c ⟨⟩
  have hsources := hsource.repeated source.toList_ne_nil fails_many_nil.group
  have htakes := (takes_text "return" _).both (hkind.both (hblank.both hsources))
  have hrun := htakes [] [] some _ rfl
  have hline : ("return" ++ kind ++ " " ++ source.text).toList =
      "return".toList ++ (kind.toList ++ ([' '] ++ source.text.toList)) ++ [] := by
    simp
  rw [← hline] at hrun
  have hsearch : Form.exit.pattern.search ("return" ++ kind ++ " " ++ source.text) = some _ :=
    search_of_run hrun
  have hcount : Form.exit.pattern.groupCount = 2 := by
    simp [pattern, Pattern.sequence, groupCount, operand]
  rw [groups?, groupsIn, hsearch, hcount]
  simp [Place.groups, List.range_succ, Place.group?, Capture.text, List.lookup_cons]

theorem groups?_exit {kind : Option ResultKind} {source : Token} :
    Form.exit.groups? (Statement.marked "return" "-" (kind.map (·.letters.text)) ++ " " ++
        source.text) =
      some [kind.map fun kind => "-" ++ kind.letters.text, some source.text] := by
  have hother (rest : List Char) :
      Fails (.group 1 (.both (text "-") (.many .lowerLetter 0))) (' ' :: rest) := by
    have hdash : ¬"-".toList <+: ' ' :: rest := by simp
    exact (fails_text hdash).both.group
  cases kind with
  | none =>
      have hnone : Takes exitKinds "".toList ([' '] ++ source.text.toList ++ []) [] :=
        (hother _).repeated
      exact groups?_exit_of_takes "" source hnone
  | some kind =>
      have hround : Takes (.group 1 (.both (text "-") (.many .lowerLetter 0)))
          ("-" ++ kind.letters.text).toList (' ' :: (source.text.toList ++ [])) _ :=
        (takes_run _ _ _ (by decide) (Nat.zero_le _) fun _ => kind.letters.lower).group
      have hkind := hround.repeated (by simp) (hother _)
      have hgroups := groups?_exit_of_takes _ source hkind
      rwa [← String.append_assoc, List.append_nil, List.lookup_cons_self, Option.map_some,
        Capture.text_append, String.ofList_toList] at hgroups

end Form

open Form Pattern in
/-- What the pattern of a printed line catches. -/
theorem Statement.groups?_print (statement : Statement) (gaps : Nat → Gap) :
    statement.form.groups? (statement.print gaps) = some (statement.received gaps) := by
  cases statement with
  | const width target literal =>
      exact groups?_of_line rfl (by simp [Form.withWidth, groupCount, groupCount_optional])
        (takes_withWidth width) (.operand target (.operand literal .nil))
  | move ofObject target source =>
      exact groups?_of_line rfl (by simp [groupCount, groupCount_optional])
        (takes_withEnding _ _ ofObject _ (by simp)) (.operand target (.operand source .nil))
  | moveResult ofObject target =>
      exact groups?_of_line rfl (by simp [groupCount, groupCount_optional])
        (takes_withEnding _ _ ofObject _ (by simp)) (.operand target .nil)
  | moveException target =>
      exact groups?_of_line rfl (groupCount_text _) (takes_text _ _) (.operand target .nil)
  | branch test left right label =>
      exact groups?_of_line rfl (groupCount_text _) (takes_text _ _)
        (.operand left (.operand right (.label label .nil)))
  | branchZero test source label =>
      exact groups?_of_line rfl (groupCount_text _) (takes_text _ _)
        (.operand source (.label label .nil))
  | goto width label =>
      exact groups?_of_line rfl (by simp [Form.withWidth, groupCount, groupCount_optional])
        (takes_withWidth width) (.label label .nil)
  | packedSwitch source table =>
      exact groups?_of_line rfl (groupCount_text _) (takes_text _ _)
        (.operand source (.operand table .nil))
  | arrayLength target array => exact groups?_of_loose rfl
  | fillArray target label => exact groups?_of_loose rfl
  | newArray target size className =>
      exact groups?_of_line rfl (groupCount_text _) (takes_text _ _)
        (.operand target (.operand size (.operand className .nil)))
  | arrayGet kind target array index =>
      exact groups?_of_line rfl (by simp [groupCount]) (takes_arrayGet kind)
        (.operand target (.operand array (.operand index .nil)))
  | arrayPut kind source array index =>
      exact groups?_of_line rfl (by simp [Form.withKind, groupCount, groupCount_optional])
        (takes_withKind kind) (.operand source (.operand array (.operand index .nil)))
  | arithmetic operation target left right =>
      exact groups?_of_line rfl (groupCount_text _) (takes_text _ _)
        (.operand target (.operand left (.operand right .nil)))
  | literalArithmetic operation width target source literal =>
      exact groups?_of_line rfl (by simp [groupCount])
        (takes_run _ _ _ (by decide) width.digits.length_pos fun _ => width.digits.isDigit)
        (.operand target (.operand source (.operand literal .nil)))
  | xorInto twoAddresses target source =>
      exact groups?_of_line rfl (by simp [groupCount, groupCount_optional])
        (takes_withEnding _ _ twoAddresses _ (by simp)) (.operand target (.operand source .nil))
  | convert kind target source => exact groups?_convert
  | staticGet kind target field => exact groups?_of_static rfl
  | staticPut kind source field => exact groups?_of_static rfl
  | newInstance target className =>
      exact groups?_of_line rfl (groupCount_text _) (takes_text _ _)
        (.operand target (.operand className .nil))
  | invoke kind receiver registers callee => exact groups?_invoke
  | leave kind source => exact groups?_exit
  | leaveVoid =>
      change Form.exit.groups? "return-void" = some [some "-void", none]
      decide +kernel

namespace Statement

variable {statement : Statement} {gaps : Nat → Gap}

/-! ### Only one form is found -/

theorem print_cases (statement : Statement) (gaps : Nat → Gap) :
    statement = .leaveVoid ∨
      statement.print gaps = statement.mnemonic ++ " " ++ statement.body gaps := by
  cases statement with
  | leaveVoid => exact .inl rfl
  | _ => exact .inr rfl

/-- No hyphen stands behind a `y`, as it does in the mnemonics of loose forms. -/
def Apart (chars : List Char) : Prop :=
  chars.IsChain fun c d => ¬(c = 'y' ∧ d = '-')

instance (chars : List Char) : Decidable (Apart chars) :=
  inferInstanceAs (Decidable (chars.IsChain _))

theorem Apart.append {first second : List Char} (hfirst : Apart first)
    (hsecond : ∀ c ∈ second, c ≠ '-') : Apart (first ++ second) := by
  refine List.IsChain.append hfirst ?_ ?_
  · refine (List.pairwise_of_forall_mem_list fun c _ d hd => ?_).isChain
    exact fun hpair => hsecond d hd hpair.2
  · exact fun c _ d hd hpair => hsecond d (List.mem_of_head? hd) hpair.2

theorem apart_marked {base mark : String} {suffix : Option String} (hbase : Apart base.toList)
    (hmark : Apart (base ++ mark).toList)
    (hsuffix : ∀ ending, suffix = some ending → ∀ c ∈ ending.toList, c ≠ '-') :
    Apart (marked base mark suffix).toList := by
  cases suffix with
  | none => exact hbase
  | some ending =>
      rw [marked, String.toList_append]
      exact hmark.append (hsuffix ending rfl)

theorem Digits.ne_hyphen {width : Option Digits} {ending : String}
    (hending : width.map (·.text) = some ending) : ∀ c ∈ ending.toList, c ≠ '-' := by
  obtain ⟨digits, -, rfl⟩ := Option.map_eq_some_iff.mp hending
  rintro c hmem rfl
  exact absurd (digits.isDigit hmem) (by decide)

theorem Letters.ne_hyphen (letters : Letters) : ∀ c ∈ letters.text.toList, c ≠ '-' := by
  rintro c hmem rfl
  exact absurd (letters.lower hmem) (by decide)

theorem apart_withEnding {base ending : String} {present : Bool} (hbase : Apart base.toList)
    (hending : Apart (base ++ ending).toList) : Apart (withEnding base ending present).toList := by
  cases present with
  | false => exact hbase
  | true => exact hending

theorem apart_withKind {base : String} {kind : Option ItemKind} (hbase : Apart base.toList)
    (hmark : Apart (base ++ "-").toList) :
    Apart (marked base "-" (kind.map (·.letters.text))).toList := by
  refine apart_marked hbase hmark fun ending hending => ?_
  obtain ⟨kind, -, rfl⟩ := Option.map_eq_some_iff.mp hending
  exact Letters.ne_hyphen kind.letters

theorem apart_mnemonic (hform : statement.form.isLoose = false) :
    Apart statement.mnemonic.toList := by
  cases statement with
  | const width => exact apart_marked (by decide) (by decide) fun _ => Digits.ne_hyphen
  | goto width => exact apart_marked (by decide) (by decide) fun _ => Digits.ne_hyphen
  | move | moveResult | xorInto => exact apart_withEnding (by decide) (by decide)
  | arrayGet | arrayPut | staticGet | staticPut => exact apart_withKind (by decide) (by decide)
  | branch test | branchZero test =>
      rw [mnemonic]
      cases test <;> decide
  | arithmetic operation =>
      rw [mnemonic]
      cases operation <;> decide
  | literalArithmetic operation width =>
      rw [mnemonic]
      cases operation <;> cases width <;> decide
  | convert kind =>
      rw [mnemonic, String.toList_append]
      exact Apart.append (by decide) (Letters.ne_hyphen kind)
  | invoke kind =>
      rw [mnemonic]
      cases kind <;> decide
  | leave kind =>
      refine apart_marked (by decide) (by decide) fun ending hending => ?_
      obtain ⟨kind, -, rfl⟩ := Option.map_eq_some_iff.mp hending
      exact Letters.ne_hyphen kind.letters
  | arrayLength | fillArray => cases hform
  | moveException | packedSwitch | newArray | newInstance | leaveVoid =>
      rw [mnemonic]
      decide

theorem spaced_body (statement : Statement) (gaps : Nat → Gap) :
    Spaced (' ' :: (statement.body gaps).toList) := by
  have hjoined (token : Token) (tokens : List Token) :
      Spaced (' ' :: (joined gaps 0 (token :: tokens)).toList) :=
    Spaced.append (.singleton ' ') (spaced_joined gaps 0 token tokens) head?_joined_ne
  cases statement with
  | invoke kind receiver registers callee =>
      have hcallee : Spaced (',' :: (gaps (registers.length + 1)).text.toList ++
          callee.text.toList) :=
        (gaps _).spaced.append callee.spaced fun hspace =>
          absurd (callee.not_blank (List.mem_of_head? hspace)) (by decide)
      have hclosing : Spaced ('\x7d' :: (',' :: (gaps (registers.length + 1)).text.toList ++
          callee.text.toList)) :=
        Spaced.append (.singleton '\x7d') hcallee nofun
      have hopening : Spaced [' ', '\x7b'] := by decide
      have hregisters :=
        hopening.append (spaced_joined gaps 0 receiver registers) head?_joined_ne
      simpa [body] using hregisters.append hclosing nofun
  | leaveVoid => exact .singleton ' '
  | _ => exact hjoined _ _

theorem exists_head_print (statement : Statement) (gaps : Nat → Gap) :
    ∃ head ∈ statement.form.heads, head.toList <+: (statement.print gaps).toList := by
  have hgroups : (statement.form.groups? (statement.print gaps)).isSome := by
    rw [groups?_print]
    rfl
  obtain ⟨head, hmem, rest, -, hhead, hrest⟩ := Form.exists_head hgroups
  cases hloose : statement.form.isLoose with
  | false => exact ⟨head, hmem, hrest hloose ▸ hhead⟩
  | true =>
      have hmnemonic : statement.mnemonic ++ " " ∈ statement.form.heads := by
        cases statement with
        | arrayLength | fillArray => exact List.mem_singleton_self _
        | _ => cases hloose
      refine ⟨_, hmnemonic, ?_⟩
      rcases print_cases statement gaps with rfl | hprint
      · cases hloose
      · rw [hprint]
        exact ⟨_, String.toList_append.symm⟩

theorem loose_heads {form : Form} (hloose : form.isLoose = true) :
    ∃ word, form.heads = [word ++ " "] ∧ (word = "array-length" ∨ word = "fill-array-data") := by
  cases form with
  | arrayLength => exact ⟨"array-length", rfl, .inl rfl⟩
  | fillArray => exact ⟨"fill-array-data", rfl, .inr rfl⟩
  | _ => cases hloose

theorem not_infix_mnemonic {word : String}
    (hword : word = "array-length" ∨ word = "fill-array-data")
    (hne : statement.mnemonic ≠ word) : ¬word.toList <:+: statement.mnemonic.toList := by
  intro hpart
  cases hloose : statement.form.isLoose with
  | false =>
      have hapart : Apart word.toList := by
        obtain ⟨front, behind, hmnemonic⟩ := hpart
        have hwhole := apart_mnemonic hloose
        rw [← hmnemonic] at hwhole
        exact hwhole.left_of_append.right_of_append
      rcases hword with rfl | rfl <;> revert hapart <;> decide
  | true =>
      cases statement with
      | arrayLength | fillArray =>
          rw [mnemonic] at hne hpart
          rcases hword with rfl | rfl
          all_goals first
            | exact hne rfl
            | revert hpart; decide
      | _ => cases hloose

/-- No other form is found in a printed line. -/
theorem form_eq_of_groups? {other : Form}
    (hgroups : (other.groups? (statement.print gaps)).isSome) : other = statement.form := by
  obtain ⟨head, hmem, rest, hrest, hhead, hstart⟩ := Form.exists_head hgroups
  obtain ⟨own, hown, hbegins⟩ := exists_head_print statement gaps
  cases hloose : other.isLoose with
  | false =>
      rw [hstart hloose] at hhead
      exact Form.eq_of_heads hmem hown hhead hbegins
  | true =>
      obtain ⟨word, hheads, hword⟩ := loose_heads hloose
      rw [hheads, List.mem_singleton] at hmem
      subst hmem
      have hpart := hhead.isInfix.trans hrest.isInfix
      rcases print_cases statement gaps with rfl | hprint
      · rw [print] at hpart
        exfalso
        rcases hword with rfl | rfl <;> revert hpart <;> decide
      · by_contra hne
        have hother : statement.mnemonic ≠ word := by
          rintro rfl
          refine hne (Form.eq_of_heads (hheads ▸ List.mem_singleton_self _) hown ?_ hbegins)
          rw [hprint]
          exact ⟨_, String.toList_append.symm⟩
        obtain ⟨last, hlast, hsolid⟩ : ∃ last, word.toList.getLast? = some last ∧
            ¬(last = ',' ∨ last = ' ' ∨ last = '\t') := by
          rcases hword with rfl | rfl
          · exact ⟨'h', by decide, by decide⟩
          · exact ⟨'a', by decide, by decide⟩
        refine not_infix_of_spaced hlast hsolid (not_infix_mnemonic hword hother)
          (spaced_body statement gaps) ?_
        simpa [hprint] using hpart

/-! ### Operands are received as they were printed -/

theorem strip_received (statement : Statement) (gaps : Nat → Gap) :
    (statement.received gaps).map (·.map Text.strip) = statement.received gaps := by
  have hoperands (tokens : List Token) :
      (tokens.map fun token => some token.text).map (·.map Text.strip) =
        tokens.map fun token => some token.text := by
    rw [List.map_map]
    refine List.map_congr_left fun token _ => ?_
    exact congrArg some token.strip_text
  cases statement with
  | convert kind target source =>
      simp only [received, List.map_cons, List.map_nil, Option.map_some, kind.strip_text,
        Token.strip_text]
  | invoke kind receiver registers callee =>
      simp only [received, List.map_cons, List.map_nil, Option.map_some, strip_joined,
        Token.strip_text]
  | leave kind source =>
      have hkind : ∀ kind : ResultKind,
          Text.strip ("-" ++ kind.letters.text) = "-" ++ kind.letters.text := by
        intro kind
        cases kind <;> decide
      cases kind <;> simp only [received, List.map_cons, List.map_nil, Option.map_some,
        Option.map_none, hkind, Token.strip_text]
  | leaveVoid =>
      rw [received]
      decide
  | _ => exact hoperands _

theorem build_received (statement : Statement) (gaps : Nat → Gap) :
    statement.form.build (statement.received gaps) = some statement.instruction := by
  cases statement with
  | invoke kind receiver registers callee =>
      rw [instruction, ← registers_joined gaps]
      rfl
  | _ => rfl

theorem read?_print (statement : Statement) (gaps : Nat → Gap) :
    statement.form.read? (statement.print gaps) = some statement.instruction := by
  rw [Form.read?, groups?_print, Option.bind_eq_bind, Option.bind_some, strip_received,
    build_received]

/-- The first form that is found is the only one. -/
theorem ofLine?_print (statement : Statement) (gaps : Nat → Gap) :
    Instruction.ofLine? (statement.print gaps) = some statement.instruction := by
  obtain ⟨tried, later, hall, hnot⟩ := List.eq_append_cons_of_mem (Form.mem_all statement.form)
  refine List.findSome?_eq_some_iff.mpr
    ⟨tried, statement.form, later, hall, read?_print statement gaps, fun other hother => ?_⟩
  cases hgroups : other.groups? (statement.print gaps) with
  | none => rw [Form.read?, hgroups]; rfl
  | some groups =>
      have hsame : other = statement.form := form_eq_of_groups? (by rw [hgroups]; rfl)
      exact absurd (hsame ▸ hother) hnot

/-! ### Printed lines stand in a listing as they are -/

theorem heads_lower : ∀ form ∈ Form.all, ∀ head ∈ form.heads,
    head.toList.head?.any CharSet.lowerLetter.accepts = true := by
  decide +kernel

/-- A printed line begins with a small letter. -/
theorem print_eq_cons (statement : Statement) (gaps : Nat → Gap) :
    ∃ c rest, (statement.print gaps).toList = c :: rest ∧
      CharSet.lowerLetter.accepts c = true := by
  obtain ⟨head, hmem, rest, hrest⟩ := exists_head_print statement gaps
  have hlower := heads_lower _ (Form.mem_all statement.form) head hmem
  cases hchars : head.toList with
  | nil =>
      rw [hchars] at hlower
      cases hlower
  | cons c chars =>
      rw [hchars] at hlower hrest
      exact ⟨c, chars ++ rest, hrest.symm, hlower⟩

theorem isPassive_print (statement : Statement) (gaps : Nat → Gap) :
    Listing.isPassive (statement.print gaps) = false := by
  obtain ⟨c, rest, hline, hlower⟩ := print_eq_cons statement gaps
  have hother (mark : Char) (hmark : CharSet.lowerLetter.accepts mark = false) : c ≠ mark := by
    rintro rfl
    rw [hmark] at hlower
    cases hlower
  simp [Listing.isPassive, hline, hother '#' (by decide), hother ':' (by decide),
    hother '.' (by decide)]

/-- A printed line ends in an operand, unless there is none. -/
theorem getLast?_print (hne : statement ≠ .leaveVoid) :
    ∃ last : Token, (statement.print gaps).toList.getLast? = last.text.toList.getLast? := by
  have hbody : ∃ last : Token,
      (statement.body gaps).toList.getLast? = last.text.toList.getLast? := by
    cases statement with
    | invoke kind receiver registers callee =>
        refine ⟨callee.toToken, ?_⟩
        rw [body, String.toList_append]
        exact List.getLast?_append_of_ne_nil _ callee.toList_ne_nil
    | leaveVoid => exact absurd rfl hne
    | _ => exact getLast?_joined gaps 0 _ _
  obtain ⟨last, hlast⟩ := hbody
  refine ⟨last, ?_⟩
  have hnil : (statement.body gaps).toList ≠ [] := by
    intro hnil
    rw [hnil] at hlast
    exact last.toList_ne_nil (List.getLast?_eq_none_iff.mp hlast.symm)
  rw [(print_cases statement gaps).resolve_left hne, String.toList_append,
    List.getLast?_append_of_ne_nil _ hnil, hlast]

theorem strip_print (statement : Statement) (gaps : Nat → Gap) :
    Text.strip (statement.print gaps) = statement.print gaps := by
  by_cases hvoid : statement = .leaveVoid
  · rw [hvoid, print]
    decide
  refine Text.strip_eq_self (fun c hhead => ?_) fun c hend => ?_
  · obtain ⟨first, rest, hline, hlower⟩ := print_eq_cons statement gaps
    rw [hline] at hhead
    cases hhead
    exact not_blank_of_lowerLetter hlower
  · obtain ⟨last, hlast⟩ := getLast?_print hvoid
    rw [hlast] at hend
    exact last.not_blank (List.mem_of_getLast? hend)

/-- **Reading undoes printing.** A printed line stands in a listing as it is, its own form and no
other one is found in it, and the form receives the operands that were printed: the machine executes
exactly the instruction of the statement. The callee of a call is divided into its class and its
method. -/
theorem step_print (statement : Statement) (gaps : Nat → Gap) :
    let line := statement.print gaps
    (Text.strip line = line ∧ Listing.isPassive line = false) ∧
    (∀ form, (form.groups? line).isSome ↔ form = statement.form) ∧
    (statement.form.groups? line).map (·.map (·.map Text.strip)) = some (statement.received gaps) ∧
    Instruction.ofLine? line = some statement.instruction ∧
    (statement.callee?.map fun callee => Instruction.calleeParts callee.text) =
      statement.callee?.map (fun callee => .ok (callee.className, callee.method)) ∧
    ∀ emulator : Emulator,
      emulator.executeLine line = emulator.executeForm statement.form line ∧
      emulator.step line =
        Emulator.andThen ((emulator.advance.trace line).execute statement.instruction)
          fun emulator _ => (emulator, .done ()) := by
  intro line
  refine ⟨⟨strip_print statement gaps, isPassive_print statement gaps⟩, fun form => ⟨?_, ?_⟩, ?_,
    ofLine?_print statement gaps, ?_, fun emulator => ⟨?_, ?_⟩⟩
  · exact form_eq_of_groups?
  · rintro rfl
    rw [groups?_print]
    rfl
  · rw [groups?_print, Option.map_some, strip_received]
  · cases statement.callee? with
    | none => rfl
    | some callee => exact congrArg some callee.parts
  · rw [Emulator.executeLine, Emulator.executeForm, ofLine?_print, read?_print]
  · rw [Emulator.step, isPassive_print, Emulator.executeLine, ofLine?_print]
    simp only [Emulator.attempt]
    obtain ⟨after, ending⟩ := (emulator.advance.trace line).execute statement.instruction
    cases ending <;> rfl

example :
    (Statement.arrayGet (some .wide) ⟨"v0", by decide, by decide⟩ ⟨"p1", by decide, by decide⟩
      ⟨"v2", by decide, by decide⟩).print (fun _ => ⟨" ", by decide⟩) = "aget-wide v0, p1, v2" := by
  decide

end Statement

end Dalvik
