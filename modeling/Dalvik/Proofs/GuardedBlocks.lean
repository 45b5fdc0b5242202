import Dalvik.Proofs.CatchDirective
import Dalvik.Proofs.Expressions
import Dalvik.Proofs.Scan

/-!
# Guarded blocks of a listing

A guarded block extends from the line that opens it to the line of the first directive that names
its handler, which comes later in the listing. The line that opens it never lies among the cases of
a switch or in constant data, for it could be read as neither.
-/

namespace Dalvik.Text

variable {separator : Char} {first rest : List Char}

theorem splitAt_ne_nil (separator : Char) (chars : List Char) : splitAt separator chars ≠ [] := by
  cases chars with
  | nil => exact List.cons_ne_nil _ _
  | cons c rest =>
      rw [splitAt]
      split
      · exact List.cons_ne_nil _ _
      · split <;> exact List.cons_ne_nil _ _

theorem splitAt_of_not_mem (hnone : separator ∉ first) : splitAt separator first = [first] := by
  induction first with
  | nil => rfl
  | cons c rest ih =>
      rw [List.mem_cons, not_or] at hnone
      have hne : c ≠ separator := fun heq => hnone.1 heq.symm
      simp [splitAt, ih hnone.2, hne]

theorem splitAt_append (hnone : separator ∉ first) :
    splitAt separator (first ++ separator :: rest) = first :: splitAt separator rest := by
  induction first with
  | nil =>
      obtain ⟨piece, others, hpieces⟩ := List.exists_cons_of_ne_nil (splitAt_ne_nil separator rest)
      simp [splitAt, hpieces]
  | cons c rest ih =>
      rw [List.mem_cons, not_or] at hnone
      have hne : c ≠ separator := fun heq => hnone.1 heq.symm
      simp [splitAt, ih hnone.2, hne]

end Dalvik.Text

namespace Dalvik.Listing

variable {directive : Pattern} {index last : Nat} {handler : Option String} {line : String}
  {lines following : List String}

theorem findCatch_range (hfound : findCatch directive index lines = .ok (some (last, handler))) :
    index ≤ last ∧ last < index + lines.length := by
  induction lines generalizing index with
  | nil => cases hfound
  | cons line rest ih =>
      rw [findCatch] at hfound
      rw [List.length_cons]
      split at hfound
      · split at hfound
        · cases hfound
        · cases hfound
          omega
      · have hrange := ih hfound
        omega

/-- How the block that a line opens comes about. -/
theorem catchBlock?_eq_ok {block? : Option CatchBlock}
    (hblock : catchBlock? index line following = .ok block?) :
    block? = none ∨ ∃ mark directive found, markOf line = .ok mark ∧
      Pattern.ofString (catchDirective mark) = .ok directive ∧
      findCatch directive (index + 1) following = .ok found ∧
      block? = found.map fun (last, handler) => ⟨index, last, handler⟩ := by
  unfold catchBlock? at hblock
  obtain ⟨mark, hmark, hrest⟩ := bind_eq_ok.mp hblock
  split at hrest
  · cases hrest
    exact Or.inl rfl
  · obtain ⟨directive, hdirective, hrest⟩ := bind_eq_ok.mp hrest
    obtain ⟨found, hfound, hrest⟩ := bind_eq_ok.mp hrest
    cases hrest
    refine Or.inr ⟨mark, directive, found, hmark, ?_, hfound, rfl⟩
    cases hread : Pattern.ofString (catchDirective mark) with
    | ok pattern =>
        rw [hread] at hdirective
        cases hdirective
        rfl
    | error misprint =>
        rw [hread] at hdirective
        cases hdirective

theorem catchBlock?_range {block : CatchBlock}
    (hblock : catchBlock? index line following = .ok (some block)) :
    block.first = index ∧ block.first < block.last ∧
      block.last < index + 1 + following.length := by
  rcases catchBlock?_eq_ok hblock with hnone | ⟨mark, directive, found, -, -, hfound, hsome⟩
  · cases hnone
  · cases found with
    | none => cases hsome
    | some place =>
        obtain ⟨last, handler⟩ := place
        have hrange := findCatch_range hfound
        cases hsome
        refine ⟨rfl, ?_, ?_⟩ <;> simp only <;> omega

/-- Every guarded block lies within the listing and ends after its first line. -/
theorem scan_catchBlocks_range {machine after : Machine} (hnew : machine.catchBlocks = [])
    (hscan : scan machine lines = (after, none)) :
    ∀ block ∈ after.catchBlocks,
      0 ≤ block.first ∧ block.first < block.last ∧ block.last < lines.length := by
  refine scan_induction hscan (motive := fun _ current => ∀ block ∈ current.catchBlocks,
    0 ≤ block.first ∧ block.first < block.last ∧ block.last < lines.length) ?_
    (fun _ _ _ hcurrent => hcurrent) ?_
  · rw [hnew]
    exact fun block hmem => nomatch hmem
  · intro index line current next last hline _ hdeclares hcurrent
    cases hdeclares with
    | nothing | label | switch | array => exact hcurrent
    | guarded hheader block? hblock =>
        intro block hmem
        rcases List.mem_append.mp hmem with hold | hnew
        · exact hcurrent block hold
        · rw [Option.mem_toList] at hnew
          cases hnew
          have hrange := catchBlock?_range hblock
          have hlength := (List.getElem?_eq_some_iff.mp hline).1
          rw [List.length_drop] at hrange
          omega

/-! ### Lines that open guarded blocks -/

/-- Every line outside of blocks was declared on the way. -/
theorem scan_declares {machine after : Machine} (hscan : scan machine lines = (after, none))
    (hline : lines[index]? = some line) (hout : ¬InBlock lines index) :
    ∃ current next last, Declares current index line (lines.drop (index + 1)) next last := by
  have hlength : index < lines.length := (List.getElem?_eq_some_iff.mp hline).1
  refine scan_induction hscan (motive := fun bound _ => index < bound →
    ∃ current next last, Declares current index line (lines.drop (index + 1)) next last)
    (fun hlt => absurd hlt (Nat.not_lt_zero index)) ?_ ?_ hlength
  · intro bound _ hin hbefore hlt
    rcases Nat.lt_succ_iff_lt_or_eq.mp hlt with hearlier | rfl
    · exact hbefore hearlier
    · exact absurd hin hout
  · intro bound found current next last hfound _ hdeclares hbefore hlt
    rcases Nat.lt_succ_iff_lt_or_eq.mp hlt with hearlier | rfl
    · exact hbefore hearlier
    · cases hfound.symm.trans hline
      exact ⟨current, next, last, hdeclares⟩

theorem closing?_eq_some {start last : Nat} (hclosing : closing? lines start = some last) :
    ∃ opener header ending, lines[start]? = some opener ∧ header? opener = some header ∧
      header.ending = some ending ∧
      endIndex? ending (start + 1) (lines.drop (start + 1)) = some last := by
  simpa [closing?, Option.bind_eq_some_iff] using hclosing

/-- Lines inside of blocks are those of their body, or end them. -/
theorem mem_body_of_closing? {start last : Nat} {ending : String}
    (hlast : endIndex? ending (start + 1) (lines.drop (start + 1)) = some last)
    (hline : lines[index]? = some line) (hlt : start < index) (hle : index ≤ last) :
    line = ending ∨ line ∈ body ending (lines.drop (start + 1)) := by
  obtain ⟨⟨offset, hoffset, hend⟩, hbody⟩ := endIndex?_eq_some hlast
  rcases Nat.lt_or_eq_of_le hle with hbefore | rfl
  · right
    refine hbody (index - (start + 1)) line (by omega) ?_
    rw [List.getElem?_drop, Nat.add_sub_of_le hlt]
    exact hline
  · left
    rw [List.getElem?_drop, ← hoffset, hline] at hend
    exact Option.some.inj hend

/-- A line that opens a guarded block is no case of a switch and no literal. -/
theorem not_inBlock_of_opens {machine after : Machine} (hscan : scan machine lines = (after, none))
    (hline : lines[index]? = some line) (hopens : Header.guarded.opens line = true) :
    ¬InBlock lines index := by
  intro hin
  obtain ⟨start, hlt, hout, last, hclosing, hle⟩ := inBlock_iff.mp hin
  obtain ⟨opener, header, ending, hopener, hheader, hending, hlast⟩ := closing?_eq_some hclosing
  obtain ⟨current, next, reached, hdeclares⟩ := scan_declares hscan hopener hout
  have hother : ∀ part, Text.beginsWith Header.guarded.opening part = false →
      Text.beginsWith part Header.guarded.opening = false → Text.beginsWith part line = false :=
    fun part hfirst hsecond => Text.beginsWith_eq_false_of_beginsWith hopens hfirst hsecond
  have hbody : line ∈ body ending (lines.drop (start + 1)) := by
    rcases mem_body_of_closing? hlast hline hlt hle with rfl | hmem
    · cases header <;> cases hending <;> exact absurd hopens (by decide)
    · exact hmem
  cases hdeclares with
  | nothing hplain =>
      rw [beginsWith_colon_of_header? hheader] at hplain
      cases hplain
  | label _ hnone => cases hnone.symm.trans hheader
  | guarded hguarded =>
      cases hguarded.symm.trans hheader
      cases hending
  | switch hswitch _ _ _ hdeclared =>
      cases hswitch.symm.trans hheader
      cases hending
      rcases hdeclared.lines line hbody with hdirective | hcase
      · rw [hother _ (by decide) (by decide)] at hdirective
        cases hdirective
      · rw [hother _ (by decide) (by decide)] at hcase
        cases hcase
  | array harray heap _ _ hdeclared =>
      cases harray.symm.trans hheader
      cases hending
      obtain ⟨value, before, left, hread, -⟩ :=
        hdeclared.holdsLiteral hbody (hother _ (by decide) (by decide))
      obtain ⟨rest, hrest⟩ := Text.beginsWith_iff.mp hopens
      rw [Expr.readLiteral_colon before hrest.symm] at hread
      cases hread

/-! ### A block and its directive -/

/-- Letters and digits stand for themselves in a pattern, and do not end a mark. -/
theorem plain_of_isAlphanum {c : Char} (hletter : c.isAlphanum = true) :
    c ≠ '_' ∧ c ∉ Pattern.specials := by
  have hothers : ∀ d ∈ '_' :: Pattern.specials, d.isAlphanum = false :=
    Text.forall_mem_of_all (by decide)
  have hnot : c ∉ '_' :: Pattern.specials := by
    intro hmem
    rw [hothers c hmem] at hletter
    cases hletter
  rwa [List.mem_cons, not_or] at hnot

theorem markOf_opening {mark : String} (hmark : '_' ∉ mark.toList) :
    markOf (":try_start_" ++ mark) = .ok mark := by
  have hchars : (":try_start_" ++ mark).toList =
      ":try".toList ++ '_' :: ("start".toList ++ '_' :: mark.toList) := by
    rw [String.toList_append]
    rfl
  have hpieces : Text.split '_' (":try_start_" ++ mark) = [":try", "start", mark] := by
    rw [Text.split, hchars, Text.splitAt_append (by decide), Text.splitAt_append (by decide),
      Text.splitAt_of_not_mem hmark]
    simp only [List.map_cons, List.map_nil, String.ofList_toList]
  rw [markOf, hpieces]
  rfl

theorem opens_opening (mark : String) : Header.guarded.opens (":try_start_" ++ mark) = true :=
  Text.beginsWith_append (by decide) mark

theorem header?_opening (mark : String) : header? (":try_start_" ++ mark) = some .guarded := by
  simp only [header?, List.find?, opens_opening]

/-- A guarded block: the line that opens it, and the first line behind that one which spells the
directive for its mark. The mark stands for itself in a pattern and has no underscore. -/
structure GuardedBlock (lines : List String) where
  mark : String
  first : Nat
  last : Nat
  directive : String
  mark_plain : ∀ c ∈ mark.toList, c ≠ '_' ∧ c ∉ Pattern.specials
  opens : lines[first]? = some (":try_start_" ++ mark)
  first_lt : first < last
  directive_line : lines[last]? = some directive
  spelling : CatchSpelling mark directive
  foremost : ∀ index line, first < index → index < last → lines[index]? = some line →
    IsEmpty (CatchSpelling mark line)

namespace GuardedBlock

/-- The entry of a block in the table. -/
def catchBlock (block : GuardedBlock lines) : CatchBlock :=
  ⟨block.first, block.last, some block.spelling.handler⟩

theorem catchBlock?_eq (block : GuardedBlock lines) :
    catchBlock? block.first (":try_start_" ++ block.mark) (lines.drop (block.first + 1)) =
      .ok (some block.catchBlock) := by
  have hindex : block.first + 1 + (block.last - (block.first + 1)) = block.last :=
    Nat.add_sub_of_le block.first_lt
  have hdirective : (lines.drop (block.first + 1))[block.last - (block.first + 1)]? =
      some block.directive := by
    rw [List.getElem?_drop, hindex, block.directive_line]
  have hearlier : ∀ earlier < block.last - (block.first + 1), ∀ other,
      (lines.drop (block.first + 1))[earlier]? = some other →
      IsEmpty (CatchSpelling block.mark other) := by
    intro earlier hearlier other hother
    rw [List.getElem?_drop] at hother
    exact block.foremost _ other (by omega) (by omega) hother
  have hfollowing : (lines.drop (block.first + 1)).isEmpty = false := by
    cases hdrop : lines.drop (block.first + 1) with
    | nil =>
        rw [hdrop] at hdirective
        cases hdirective
    | cons => rfl
  have hunderscore : '_' ∉ block.mark.toList := fun hmem => (block.mark_plain _ hmem).1 rfl
  have hread : Pattern.ofString (catchDirective block.mark) =
      .ok (Pattern.catchPattern block.mark.toList) :=
    Pattern.ofString_catchDirective fun c hc => (block.mark_plain c hc).2
  have hfound : findCatch (Pattern.catchPattern block.mark.toList) (block.first + 1)
      (lines.drop (block.first + 1)) = .ok (some (block.last, some block.spelling.handler)) := by
    rw [findCatch_of_spelling block.spelling hdirective hearlier, hindex]
  unfold catchBlock?
  rw [markOf_opening hunderscore]
  simp only [hfollowing, hread, Except.mapError, bind, Except.bind, hfound]
  rfl

end GuardedBlock

/-! ### All blocks of a listing -/

/-- The guarded blocks of a listing, in the order of the lines that open them. -/
structure BlockList (lines : List String) where
  blocks : List (GuardedBlock lines)
  ordered : blocks.Pairwise fun block other => block.first < other.first
  complete : ∀ index line, lines[index]? = some line → Header.guarded.opens line = true →
    ¬InBlock lines index → ∃ block ∈ blocks, block.first = index

namespace BlockList

/-- The blocks that open before a line. -/
def before (list : BlockList lines) (bound : Nat) : List (GuardedBlock lines) :=
  list.blocks.filter (·.first < bound)

theorem before_succ_of_mem (list : BlockList lines) {block : GuardedBlock lines}
    (hmem : block ∈ list.blocks) :
    list.before (block.first + 1) = list.before block.first ++ [block] := by
  have hordered := list.ordered
  unfold before
  generalize list.blocks = blocks at hmem hordered
  induction blocks with
  | nil => cases hmem
  | cons head rest ih =>
      rw [List.pairwise_cons] at hordered
      rcases List.mem_cons.mp hmem with rfl | hrest
      · -- no block opens between this one and those behind it
        have hnone : ∀ bound ≤ block.first + 1, rest.filter (·.first < bound) = [] := by
          intro bound hbound
          rw [List.filter_eq_nil_iff]
          intro other hother
          have hlater := hordered.1 other hother
          simp only [decide_eq_true_eq]
          omega
        rw [List.filter_cons_of_pos (by simp), List.filter_cons_of_neg (by simp),
          hnone _ le_rfl, hnone _ (Nat.le_succ _)]
        rfl
      · have hlt := hordered.1 block hrest
        rw [List.filter_cons_of_pos (by simp only [decide_eq_true_eq]; omega),
          List.filter_cons_of_pos (by simp only [decide_eq_true_eq]; omega),
          ih hrest hordered.2, List.cons_append]

theorem before_succ_of_forall_ne (list : BlockList lines) {bound : Nat}
    (hnone : ∀ block ∈ list.blocks, block.first ≠ bound) :
    list.before (bound + 1) = list.before bound := by
  refine List.filter_congr fun block hmem => ?_
  have hne := hnone block hmem
  rw [decide_eq_decide]
  omega

/-- The scan finds all blocks, each with its own directive. -/
theorem scan_catchBlocks {machine after : Machine} (list : BlockList lines)
    (hnew : machine.catchBlocks = []) (hscan : scan machine lines = (after, none)) :
    after.catchBlocks = list.blocks.map (·.catchBlock) := by
  have hall : list.before lines.length = list.blocks := by
    refine List.filter_eq_self.mpr fun block _ => ?_
    exact decide_eq_true (List.getElem?_eq_some_iff.mp block.opens).1
  rw [← hall]
  refine scan_induction hscan
    (motive := fun bound current => current.catchBlocks = (list.before bound).map (·.catchBlock))
    ?_ ?_ ?_
  · have hnone : list.before 0 = [] := List.filter_eq_nil_iff.mpr (by simp)
    rw [hnew, hnone]
    rfl
  · intro index current hin hcurrent
    rw [hcurrent, before_succ_of_forall_ne]
    rintro block - rfl
    exact not_inBlock_of_opens hscan block.opens (opens_opening block.mark) hin
  · intro index line current next reached hline hout hdeclares hcurrent
    have hother : header? line ≠ some .guarded →
        current.catchBlocks = (list.before (index + 1)).map (·.catchBlock) := by
      intro hheader
      rw [hcurrent, before_succ_of_forall_ne]
      rintro block - rfl
      cases hline.symm.trans block.opens
      exact hheader (header?_opening block.mark)
    cases hdeclares with
    | nothing hplain =>
        refine hother fun hheader => ?_
        rw [beginsWith_colon_of_header? hheader] at hplain
        cases hplain
    | label _ hheader => exact hother (by simp [hheader])
    | switch hheader => exact hother (by simp [hheader])
    | array hheader => exact hother (by simp [hheader])
    | guarded hheader block? hblock =>
        obtain ⟨block, hmem, rfl⟩ := list.complete index line hline (opens_of_header? hheader) hout
        cases hline.symm.trans block.opens
        cases hblock.symm.trans block.catchBlock?_eq
        rw [hcurrent, list.before_succ_of_mem hmem, List.map_append]
        rfl

end BlockList

/-! ### A listing with one guarded block -/

/-- The only guarded block of a listing, with the directive that names its handler on the line
behind it. -/
structure SoleBlock (lines : List String) (mark : String) (first last : Nat) where
  mark_letters : ∀ c ∈ mark.toList, c.isAlphanum = true
  opens : lines[first]? = some (":try_start_" ++ mark)
  closes : lines[last]? = some (":try_end_" ++ mark)
  first_lt : first < last
  directive : String
  directive_line : lines[last + 1]? = some directive
  spelling : CatchSpelling mark directive
  only_directive : ∀ index line, lines[index]? = some line → index ≠ last + 1 →
    IsEmpty (CatchSpelling mark line)
  only_block : ∀ index line, lines[index]? = some line → Header.guarded.opens line = true →
    index = first

namespace SoleBlock

variable {mark : String} {first : Nat}

def catchBlock (sole : SoleBlock lines mark first last) : CatchBlock :=
  ⟨first, (last + 1 : Nat), some sole.spelling.handler⟩

def block (sole : SoleBlock lines mark first last) : GuardedBlock lines where
  mark := mark
  first := first
  last := last + 1
  directive := sole.directive
  mark_plain c hc := plain_of_isAlphanum (sole.mark_letters c hc)
  opens := sole.opens
  first_lt := Nat.lt_succ_of_lt sole.first_lt
  directive_line := sole.directive_line
  spelling := sole.spelling
  foremost index line _ hlt hline := sole.only_directive index line hline (Nat.ne_of_lt hlt)

/-- The block is the only one that the scan finds. -/
theorem scan_catchBlocks {machine after : Machine} (sole : SoleBlock lines mark first last)
    (hnew : machine.catchBlocks = []) (hscan : scan machine lines = (after, none)) :
    after.catchBlocks = [sole.catchBlock] :=
  let list : BlockList lines := {
    blocks := [sole.block]
    ordered := List.pairwise_singleton _ _
    complete := fun index line hline hopens _ =>
      ⟨sole.block, List.mem_singleton_self _, (sole.only_block index line hline hopens).symm⟩ }
  list.scan_catchBlocks hnew hscan

end SoleBlock

end Dalvik.Listing
