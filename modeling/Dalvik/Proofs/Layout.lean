import Dalvik.Proofs.GuardedBlocks
import Dalvik.Proofs.Table

/-!
# Listings with lines inserted

Blank lines and comments may be inserted anywhere outside of cases and data. Each line of the
listing then has a new place, and the tables that the listing declares are those it declared before,
with every line number moved to that place.
-/

namespace Dalvik

/-! ### Places -/

namespace Listing

variable {gaps : Nat → List String} {lines rest : List String} {index : Nat}

/-- The lines from `index` on, with lines inserted before each of them and behind the last one. -/
def weave (gaps : Nat → List String) : Nat → List String → List String
  | index, [] => gaps index
  | index, line :: rest => gaps index ++ line :: weave gaps (index + 1) rest

/-- Where the lines begin that are inserted before a line. -/
def gapStart (gaps : Nat → List String) : Nat → Nat
  | 0 => 0
  | index + 1 => gapStart gaps index + (gaps index).length + 1

/-- Where a line of the listing has moved to. -/
def place (gaps : Nat → List String) (index : Nat) : Nat :=
  gapStart gaps index + (gaps index).length

theorem gapStart_succ (gaps : Nat → List String) (index : Nat) :
    gapStart gaps (index + 1) = place gaps index + 1 := rfl

theorem gapStart_le_place (gaps : Nat → List String) (index : Nat) :
    gapStart gaps index ≤ place gaps index :=
  Nat.le_add_right _ _

theorem place_eq_gapStart (hempty : gaps index = []) : place gaps index = gapStart gaps index := by
  simp [place, hempty]

theorem gapStart_mono (gaps : Nat → List String) {first second : Nat} (hle : first ≤ second) :
    gapStart gaps first ≤ gapStart gaps second := by
  induction hle with
  | refl => exact le_rfl
  | step _ ih =>
      rw [gapStart_succ]
      exact ih.trans ((gapStart_le_place _ _).trans (Nat.le_succ _))

theorem place_lt_gapStart {first second : Nat} (hlt : first < second) :
    place gaps first < gapStart gaps second := by
  have hmono := gapStart_mono gaps (Nat.succ_le_of_lt hlt)
  rw [Nat.succ_eq_add_one, gapStart_succ] at hmono
  omega

theorem place_lt_place {first second : Nat} (hlt : first < second) :
    place gaps first < place gaps second :=
  (place_lt_gapStart hlt).trans_le (gapStart_le_place gaps second)

theorem weave_map (change : String → String) (gaps : Nat → List String) (index : Nat)
    (lines : List String) :
    (weave gaps index lines).map change =
      weave (fun gap => (gaps gap).map change) index (lines.map change) := by
  induction lines generalizing index with
  | nil => rfl
  | cons line rest ih =>
      rw [weave, List.map_append, List.map_cons, ih]
      rfl

theorem drop_weave (gaps : Nat → List String) (hle : index ≤ lines.length) :
    (weave gaps 0 lines).drop (gapStart gaps index) = weave gaps index (lines.drop index) := by
  induction index with
  | zero => rfl
  | succ index ih =>
      have hlt : index < lines.length := hle
      have hsplit : lines.drop index = lines[index] :: lines.drop (index + 1) :=
        List.drop_eq_getElem_cons hlt
      have hdrop := ih (Nat.le_of_lt hlt)
      rw [hsplit, weave] at hdrop
      have hnext : gapStart gaps (index + 1) =
          gapStart gaps index + ((gaps index).length + 1) := rfl
      rw [hnext, ← List.drop_drop, hdrop, List.drop_append]
      simp

/-- Where nothing is inserted, a line comes right next. -/
theorem weave_of_nil (hnone : gaps index = []) (line : String) (rest : List String) :
    weave gaps index (line :: rest) = line :: weave gaps (index + 1) rest ∧
      gapStart gaps index + 1 = gapStart gaps (index + 1) := by
  rw [weave, hnone, gapStart_succ, place_eq_gapStart hnone]
  exact ⟨rfl, rfl⟩

/-- A line of the listing stands at its new place. -/
theorem getElem?_place {line : String} (hline : lines[index]? = some line) :
    (weave gaps 0 lines)[place gaps index]? = some line := by
  obtain ⟨hlt, heq⟩ := List.getElem?_eq_some_iff.mp hline
  have hdrop := drop_weave gaps (Nat.le_of_lt hlt)
  rw [List.drop_eq_getElem_cons hlt, heq, weave] at hdrop
  have hget := congrArg (·[(gaps index).length]?) hdrop
  simpa [List.getElem?_drop, place] using hget

/-- Between the new places of two lines stand the lines that were inserted. -/
theorem getElem?_gap {offset : Nat} (hle : index ≤ lines.length)
    (hoffset : offset < (gaps index).length) :
    (weave gaps 0 lines)[gapStart gaps index + offset]? = (gaps index)[offset]? := by
  have hget := congrArg (·[offset]?) (drop_weave gaps hle)
  rw [List.getElem?_drop] at hget
  rw [hget]
  cases lines.drop index with
  | nil => rfl
  | cons line rest => exact List.getElem?_append_left hoffset

theorem length_weave (gaps : Nat → List String) (lines : List String) :
    (weave gaps 0 lines).length = place gaps lines.length := by
  suffices hfrom : ∀ index, gapStart gaps index + (weave gaps index lines).length =
      place gaps (index + lines.length) by
    have hstart := hfrom 0
    rwa [Nat.zero_add, show gapStart gaps 0 = 0 from rfl, Nat.zero_add] at hstart
  induction lines with
  | nil => exact fun index => rfl
  | cons line rest ih =>
      intro index
      have hnext := ih (index + 1)
      rw [gapStart_succ] at hnext
      rw [weave, List.length_append, List.length_cons, List.length_cons,
        show index + (rest.length + 1) = index + 1 + rest.length by omega, ← hnext]
      unfold place
      omega

end Listing

/-! ### Tables with moved lines -/

def CatchBlock.moved (place : Nat → Nat) (block : CatchBlock) : CatchBlock :=
  ⟨place block.first.toNat, place block.last.toNat, block.handler⟩

/-- The machine with its tables moved to the new places of the lines. -/
def Machine.moved (place : Nat → Nat) (machine : Machine) : Machine :=
  { machine with
    labels := machine.labels.mapValues fun line => place line.toNat
    catchBlocks := machine.catchBlocks.map (·.moved place) }

namespace Machine

variable (place : Nat → Nat) (machine : Machine)

theorem moved_label (label : String) (index : Nat) :
    { machine with labels := machine.labels.insert label index }.moved place =
      { machine.moved place with
        labels := (machine.moved place).labels.insert label (place index) } := by
  simp only [moved, Table.mapValues_insert, Int.toNat_natCast]

theorem moved_guarded (block? : Option CatchBlock) :
    { machine with catchBlocks := machine.catchBlocks ++ block?.toList }.moved place =
      { machine.moved place with
        catchBlocks := (machine.moved place).catchBlocks ++
          (block?.map (·.moved place)).toList } := by
  cases block? <;> simp [moved]

end Machine

namespace Listing

/-- Which lines may be inserted, and where. -/
structure Spacing (lines : List String) (gaps : Nat → List String) : Prop where
  /-- Only blank lines and comments. -/
  silent : ∀ index, ∀ inserted ∈ gaps index,
    inserted = "" ∨ Text.beginsWith "#" inserted = true
  outside : ∀ index, InBlock lines index → gaps index = []
  closed : ∀ index line header, lines[index]? = some line → ¬InBlock lines index →
    header? line = some header → header ≠ .guarded → ∃ last, closing? lines index = some last
  /-- No line behind the beginning of a guarded block is taken for its directive; this goes without
  saying for plain marks. -/
  marks : ∀ index line mark, lines[index]? = some line → ¬InBlock lines index →
    header? line = some .guarded → markOf line = .ok mark →
    (∀ c ∈ mark.toList, c ∉ Pattern.specials) ∨
      ∀ later > index, ∀ inserted ∈ gaps later, ∃ directive,
        Pattern.ofString (catchDirective mark) = .ok directive ∧ directive.search inserted = none

variable {gaps : Nat → List String} {lines rest : List String} {index resume : Nat}

theorem Spacing.not_colon (hspacing : Spacing lines gaps) {inserted : String}
    (hinserted : inserted ∈ gaps index) : Text.beginsWith ":" inserted = false := by
  rcases hspacing.silent index inserted hinserted with rfl | hcomment
  · rfl
  · exact Text.beginsWith_eq_false_of_beginsWith hcomment (by decide) (by decide)

theorem Spacing.isPassive (hspacing : Spacing lines gaps) {inserted : String}
    (hinserted : inserted ∈ gaps index) : isPassive inserted = true := by
  rcases hspacing.silent index inserted hinserted with rfl | hcomment
  · rfl
  · obtain ⟨tail, htail⟩ := Text.beginsWith_iff.mp hcomment
    rw [Listing.isPassive, ← htail]
    rfl

/-- With a plain mark, the directive is not found in a blank line or a comment. -/
theorem search_catchPattern_of_silent {mark inserted : String}
    (hsilent : inserted = "" ∨ Text.beginsWith "#" inserted = true) :
    (Pattern.catchPattern mark.toList).search inserted = none := by
  rw [Option.eq_none_iff_forall_ne_some]
  intro found hfound
  obtain ⟨spelling, -⟩ := exists_spelling_of_search hfound
  have hcatch := spelling.beginsWith
  rcases hsilent with rfl | hcomment
  · exact absurd hcatch (by decide)
  · rw [Text.beginsWith_eq_false_of_beginsWith hcomment (by decide) (by decide)] at hcatch
    cases hcatch

theorem Spacing.quiet (hspacing : Spacing lines gaps) {line mark : String}
    (hline : lines[index]? = some line) (hout : ¬InBlock lines index)
    (hheader : header? line = some .guarded) (hmark : markOf line = .ok mark) {later : Nat}
    (hlater : index < later) {inserted : String} (hinserted : inserted ∈ gaps later) :
    ∃ directive, Pattern.ofString (catchDirective mark) = .ok directive ∧
      directive.search inserted = none := by
  rcases hspacing.marks index line mark hline hout hheader hmark with hplain | hquiet
  · exact ⟨_, Pattern.ofString_catchDirective hplain,
      search_catchPattern_of_silent (hspacing.silent later inserted hinserted)⟩
  · exact hquiet later hlater inserted hinserted

/-! ### Contents of blocks -/

theorem readCases_weave {heap : Heap} {switch : Switch} {contents : Contents Switch} {last : Nat}
    (hread : readCases heap switch index rest = .ok contents) (hlast : contents.last = some last)
    (hempty : ∀ gap, index ≤ gap → gap ≤ last → gaps gap = []) :
    readCases heap switch (gapStart gaps index) (weave gaps index rest) =
      .ok { contents with last := some (place gaps last) } := by
  induction rest generalizing heap switch index with
  | nil =>
      rw [readCases] at hread
      cases hread
      cases hlast
  | cons line rest ih =>
      -- the end is still ahead, so that nothing is inserted before this line
      have hle : index ≤ last := by
        have hspec := (readCases_spec hread).last
        rw [hlast] at hspec
        obtain ⟨⟨offset, hoffset, -⟩, -⟩ := endIndex?_eq_some hspec.symm
        omega
      have hnone : gaps index = [] := hempty index le_rfl hle
      obtain ⟨hweave, hnext⟩ := weave_of_nil hnone line rest
      have hlater : ∀ gap, index + 1 ≤ gap → gap ≤ last → gaps gap = [] :=
        fun gap hgap => hempty gap (by omega)
      rw [hweave]
      rw [readCases] at hread ⊢
      split at hread
      · rename_i hfirst
        rw [if_pos hfirst]
        obtain ⟨⟨value, middle⟩, hliteral, hrest⟩ := bind_eq_ok.mp hread
        rw [hliteral, hnext]
        exact ih hrest hlater
      · rename_i hfirst
        rw [if_neg hfirst]
        split at hread
        · rename_i hcase
          rw [if_pos hcase, hnext]
          exact ih hread hlater
        · rename_i hcase
          rw [if_neg hcase]
          split at hread
          · rename_i hend
            cases hread
            cases hlast
            rw [if_pos hend, place_eq_gapStart hnone]
          · cases hread

theorem readElements_weave {heap : Heap} {width : Value} {elements : List Value}
    {contents : Contents ArrayContents} {last : Nat}
    (hread : readElements heap width elements index rest = .ok contents)
    (hlast : contents.last = some last)
    (hempty : ∀ gap, index ≤ gap → gap ≤ last → gaps gap = []) :
    readElements heap width elements (gapStart gaps index) (weave gaps index rest) =
      .ok { contents with last := some (place gaps last) } := by
  induction rest generalizing heap width elements index with
  | nil =>
      rw [readElements] at hread
      cases hread
      cases hlast
  | cons line rest ih =>
      have hle : index ≤ last := by
        have hspec := (readElements_spec hread).last
        rw [hlast] at hspec
        obtain ⟨⟨offset, hoffset, -⟩, -⟩ := endIndex?_eq_some hspec.symm
        omega
      have hnone : gaps index = [] := hempty index le_rfl hle
      obtain ⟨hweave, hnext⟩ := weave_of_nil hnone line rest
      have hlater : ∀ gap, index + 1 ≤ gap → gap ≤ last → gaps gap = [] :=
        fun gap hgap => hempty gap (by omega)
      rw [hweave]
      rw [readElements] at hread ⊢
      split at hread
      · rename_i hwidth
        rw [if_pos hwidth]
        obtain ⟨⟨value, middle⟩, hliteral, hrest⟩ := bind_eq_ok.mp hread
        rw [hliteral, hnext]
        exact ih hrest hlater
      · rename_i hwidth
        rw [if_neg hwidth]
        split at hread
        · rename_i hend
          cases hread
          cases hlast
          rw [if_pos hend, place_eq_gapStart hnone]
        · rename_i hend
          rw [if_neg hend]
          obtain ⟨⟨value, middle⟩, hliteral, hrest⟩ := bind_eq_ok.mp hread
          rw [hliteral, hnext]
          exact ih hrest hlater

/-! ### Directives of guarded blocks -/

theorem findCatch_append {directive : Pattern} {gap : List String}
    (hquiet : ∀ inserted ∈ gap, directive.search inserted = none) (following : List String) :
    findCatch directive index (gap ++ following) =
      findCatch directive (index + gap.length) following := by
  induction gap generalizing index with
  | nil => rfl
  | cons inserted gap ih =>
      have hrest := @ih (index + 1) fun other hother =>
        hquiet other (List.mem_cons_of_mem inserted hother)
      rw [List.cons_append, findCatch, hquiet inserted List.mem_cons_self]
      rw [show index + (inserted :: gap).length = index + 1 + gap.length by
        rw [List.length_cons]; omega]
      exact hrest

theorem findCatch_weave {directive : Pattern} {found : Option (Nat × Option String)}
    (hfound : findCatch directive index rest = .ok found)
    (hquiet : ∀ gap ≥ index, ∀ inserted ∈ gaps gap, directive.search inserted = none) :
    findCatch directive (gapStart gaps index) (weave gaps index rest) =
      .ok (found.map fun (last, handler) => (place gaps last, handler)) := by
  induction rest generalizing index with
  | nil =>
      rw [findCatch] at hfound
      cases hfound
      rw [weave, ← List.append_nil (gaps index), findCatch_append (hquiet index le_rfl)]
      rfl
  | cons line rest ih =>
      rw [weave, findCatch_append (hquiet index le_rfl)]
      rw [findCatch] at hfound ⊢
      split at hfound
      · split at hfound
        · cases hfound
        · rename_i hcount
          cases hfound
          rw [if_neg hcount]
          rfl
      · exact ih hfound fun gap hgap => hquiet gap (by omega)

theorem mapError_eq_ok {ε ε' α : Type} {x : Except ε α} {change : ε → ε'} {value : α} :
    x.mapError change = .ok value ↔ x = .ok value := by
  cases x <;> simp [Except.mapError]

/-- With lines behind it, a guarded block is found by its directive. -/
theorem catchBlock?_eq_ok_iff {line mark : String} {following : List String}
    {block? : Option CatchBlock} (hmark : markOf line = .ok mark)
    (hne : following.isEmpty = false) :
    catchBlock? index line following = .ok block? ↔
      ∃ directive, Pattern.ofString (catchDirective mark) = .ok directive ∧
        ∃ found, findCatch directive (index + 1) following = .ok found ∧
          found.map (fun (last, handler) => (⟨index, last, handler⟩ : CatchBlock)) = block? := by
  have hmarked : catchBlock? index line following = do
      let directive ← (Pattern.ofString (catchDirective mark)).mapError
        (misprintFault (catchDirective mark))
      let found ← findCatch directive (index + 1) following
      return found.map fun (last, handler) => ⟨index, last, handler⟩ := by
    simp only [catchBlock?, hmark, hne]
    rfl
  simp only [hmarked, bind_eq_ok, mapError_eq_ok, pure_eq_ok]

/-- The guarded block that begins on a line has its line numbers moved. -/
theorem Spacing.catchBlock?_weave (hspacing : Spacing lines gaps) {line : String}
    (hline : lines[index]? = some line) (hout : ¬InBlock lines index)
    (hheader : header? line = some .guarded) {block? : Option CatchBlock}
    (hblock : catchBlock? index line (lines.drop (index + 1)) = .ok block?) :
    Listing.catchBlock? (place gaps index) line (weave gaps (index + 1) (lines.drop (index + 1))) =
      .ok (block?.map (·.moved (place gaps))) := by
  generalize lines.drop (index + 1) = following at hblock ⊢
  obtain ⟨mark, hmark, hrest⟩ := bind_eq_ok.mp hblock
  by_cases hwoven : (weave gaps (index + 1) following).isEmpty = true
  · -- nothing follows, and nothing followed before
    have hnone : following.isEmpty = true := by
      cases following with
      | nil => rfl
      | cons other rest => simp [weave] at hwoven
    rw [if_pos hnone] at hrest
    cases hrest
    simp only [Listing.catchBlock?, hmark, hwoven]
    rfl
  · have hsome : (weave gaps (index + 1) following).isEmpty = false := by simpa using hwoven
    obtain ⟨directive, hdirective, found, hfound, hresult⟩ : ∃ directive,
        Pattern.ofString (catchDirective mark) = .ok directive ∧
        ∃ found, findCatch directive (index + 1) following = .ok found ∧
          found.map (fun (last, handler) => (⟨index, last, handler⟩ : CatchBlock)) = block? := by
      cases following with
      | nil =>
          -- the line was the last one, and lines were inserted behind it
          obtain ⟨inserted, hinserted⟩ := List.exists_mem_of_ne_nil _ (by simpa [weave] using hwoven)
          obtain ⟨directive, hdirective, -⟩ :=
            hspacing.quiet hline hout hheader hmark (Nat.lt_succ_self index) hinserted
          cases hrest
          exact ⟨directive, hdirective, none, rfl, rfl⟩
      | cons other rest => exact (catchBlock?_eq_ok_iff hmark rfl).mp hblock
    have hsearch : ∀ gap ≥ index + 1, ∀ inserted ∈ gaps gap, directive.search inserted = none := by
      intro gap hgap inserted hinserted
      obtain ⟨other, hother, hnone⟩ := hspacing.quiet hline hout hheader hmark hgap hinserted
      cases hdirective.symm.trans hother
      exact hnone
    have hmoved := findCatch_weave hfound hsearch
    rw [gapStart_succ] at hmoved
    refine (catchBlock?_eq_ok_iff hmark hsome).mpr ⟨directive, hdirective, _, hmoved, ?_⟩
    rw [← hresult]
    cases found <;> rfl

/-! ### The scan -/

/-- Nothing is inserted up to the line that closes a block. -/
theorem Spacing.nil_of_closing? (hspacing : Spacing lines gaps) (hout : ¬InBlock lines index)
    {last : Nat} (hclosing : closing? lines index = some last) :
    ∀ gap, index + 1 ≤ gap → gap ≤ last → gaps gap = [] :=
  fun gap hgap hle => hspacing.outside gap (inBlock_iff.mpr ⟨index, hgap, hout, last, hclosing, hle⟩)

/-- What a line declares, it declares at its new place. -/
theorem Spacing.declare_weave (hspacing : Spacing lines gaps) {line : String}
    (hline : lines[index]? = some line) (hout : ¬InBlock lines index) {machine next : Machine}
    {last : Option Nat}
    (hdeclare : declare machine index line (lines.drop (index + 1)) = .ok (next, last)) :
    Listing.declare (machine.moved (place gaps)) (place gaps index) line
        (weave gaps (index + 1) (lines.drop (index + 1))) =
      .ok (next.moved (place gaps), last.map (place gaps)) := by
  unfold Listing.declare at hdeclare ⊢
  split at hdeclare
  · rename_i hcolon
    rw [if_pos hcolon]
    split at hdeclare
    · rename_i header hheader
      cases header with
      | guarded =>
          obtain ⟨guarded, hguarded, hafter⟩ := bind_eq_ok.mp hdeclare
          obtain ⟨block?, hblock, hmachine⟩ := bind_eq_ok.mp (lift_eq_ok.mp hguarded)
          have hmoved := hspacing.catchBlock?_weave hline hout hheader hblock
          cases hafter
          cases hmachine
          refine bind_eq_ok.mpr ⟨_, lift_eq_ok.mpr (bind_eq_ok.mpr ⟨_, hmoved, rfl⟩), ?_⟩
          rw [Machine.moved_guarded]
          rfl
      | switch =>
          -- a block with an end has no lines inserted, and is read as before
          obtain ⟨closed, hclosed⟩ :=
            hspacing.closed index line .switch hline hout hheader (by simp)
          obtain ⟨⟨declared, ending⟩, hswitch, hafter⟩ := bind_eq_ok.mp hdeclare
          obtain ⟨contents, hread, hmachine⟩ := bind_eq_ok.mp hswitch
          have hlast : contents.last = some closed := by
            rw [(readCases_spec hread).last, ← hclosed]
            simp [closing?, hline, hheader, Header.ending]
          have hmoved := readCases_weave hread hlast (hspacing.nil_of_closing? hout hclosed)
          cases hmachine
          cases hafter
          refine bind_eq_ok.mpr ⟨_, bind_eq_ok.mpr ⟨_, hmoved, rfl⟩, ?_⟩
          rw [hlast]
          rfl
      | array =>
          obtain ⟨closed, hclosed⟩ :=
            hspacing.closed index line .array hline hout hheader (by simp)
          obtain ⟨⟨declared, ending⟩, harray, hafter⟩ := bind_eq_ok.mp hdeclare
          obtain ⟨contents, hread, hmachine⟩ := bind_eq_ok.mp (lift_eq_ok.mp harray)
          have hlast : contents.last = some closed := by
            rw [(readElements_spec hread).last, ← hclosed]
            simp [closing?, hline, hheader, Header.ending]
          have hmoved := readElements_weave hread hlast (hspacing.nil_of_closing? hout hclosed)
          cases hmachine
          cases hafter
          refine bind_eq_ok.mpr ⟨_, lift_eq_ok.mpr (bind_eq_ok.mpr ⟨_, hmoved, rfl⟩), ?_⟩
          rw [hlast]
          rfl
    · cases hdeclare
      rw [Machine.moved_label]
      rfl
  · rename_i hcolon
    rw [if_neg hcolon]
    cases hdeclare
    rfl

theorem scanFrom_append (machine : Machine) {gap : List String}
    (hplain : ∀ inserted ∈ gap, Text.beginsWith ":" inserted = false) (hle : resume ≤ index)
    (following : List String) :
    ∃ later ≤ index + gap.length, scanFrom machine index resume (gap ++ following) =
      scanFrom machine (index + gap.length) later following := by
  induction gap generalizing index resume with
  | nil => exact ⟨resume, hle, rfl⟩
  | cons inserted gap ih =>
      have hdeclare : Listing.declare machine index inserted (gap ++ following) =
          .ok (machine, none) := by
        rw [Listing.declare, hplain inserted List.mem_cons_self]
        rfl
      obtain ⟨later, hlater, hscan⟩ := @ih (index + 1) (index + 1)
        (fun other hother => hplain other (List.mem_cons_of_mem inserted hother)) le_rfl
      have hlength : index + (inserted :: gap).length = index + 1 + gap.length := by
        rw [List.length_cons]
        omega
      rw [hlength]
      refine ⟨later, hlater, ?_⟩
      rw [List.cons_append, scanFrom, if_neg (Nat.not_lt.mpr hle), hdeclare]
      exact hscan

/-- The tables of a listing with lines inserted are those of the listing, moved. -/
theorem Spacing.scan_weave (hspacing : Spacing lines gaps) {machine after : Machine}
    (hscan : scan machine lines = (after, none)) :
    Listing.scan (machine.moved (place gaps)) (weave gaps 0 lines) =
      (after.moved (place gaps), none) := by
  suffices hfrom : ∀ rest index resume later current, lines.drop index = rest →
      Frontier lines index resume → (index < resume → later = gapStart gaps resume) →
      (resume ≤ index → later ≤ gapStart gaps index) →
      scanFrom current index resume rest = (after, none) →
      scanFrom (current.moved (place gaps)) (gapStart gaps index) later (weave gaps index rest) =
        (after.moved (place gaps), none) from
    hfrom lines 0 0 0 machine rfl (frontier_zero lines) (fun hlt => absurd hlt (lt_irrefl 0))
      (fun _ => le_rfl) hscan
  intro rest
  -- on the lines still to be scanned, as the scan itself
  induction rest with
  | nil =>
      intro index resume later current _ hfrontier hinside hpassed hscan
      rw [scanFrom] at hscan
      obtain ⟨rfl, -⟩ := Prod.mk.inj hscan
      rw [weave]
      by_cases hlt : index < resume
      · rw [hspacing.outside index (hfrontier.inBlock_iff.mpr hlt)]
        rfl
      · obtain ⟨last, -, hgap⟩ := scanFrom_append (current.moved (place gaps))
          (fun inserted => hspacing.not_colon) (hpassed (Nat.not_lt.mp hlt)) []
        rw [List.append_nil] at hgap
        rw [hgap]
        rfl
  | cons line rest ih =>
      intro index resume later current hdrop hfrontier hinside hpassed hscan
      have hline : lines[index]? = some line := by
        rw [← List.head?_drop, hdrop, List.head?_cons]
      have hrest : lines.drop (index + 1) = rest := by
        rw [← List.tail_drop, hdrop, List.tail_cons]
      rw [scanFrom] at hscan
      split at hscan
      · rename_i hskip
        have hnone := hspacing.outside index (hfrontier.inBlock_iff.mpr hskip)
        obtain ⟨hweave, hnext⟩ := weave_of_nil hnone line rest
        have hlater := hinside hskip
        have hlt : gapStart gaps index < later := by
          rw [hlater]
          exact (gapStart_le_place gaps index).trans_lt (place_lt_gapStart hskip)
        rw [hweave, scanFrom, if_pos hlt, hnext]
        refine ih (index + 1) resume later current hrest (hfrontier.skip hskip)
          (fun _ => hlater) (fun hle => ?_) hscan
        rw [hlater]
        exact gapStart_mono gaps hle
      · rename_i hskip
        have hout : ¬InBlock lines index := fun hin => hskip (hfrontier.inBlock_iff.mp hin)
        obtain ⟨last, hlast, hgap⟩ := scanFrom_append (current.moved (place gaps))
          (fun inserted => hspacing.not_colon) (hpassed (Nat.not_lt.mp hskip))
          (line :: weave gaps (index + 1) rest)
        split at hscan
        · cases hscan
        · rename_i next ending hdeclare
          rw [← hrest] at hdeclare
          have hmoved := hspacing.declare_weave hline hout hdeclare
          have hdeclares := declare_eq_ok hdeclare
          rw [hrest] at hmoved
          have hfrontier' : Frontier lines (index + 1) (ending.getD index + 1) := by
            rw [hdeclares.last_eq hline]
            exact hfrontier.declare (Nat.le_of_not_lt hskip)
          have hresume : (ending.map (place gaps)).getD (place gaps index) + 1 =
              gapStart gaps (ending.getD index + 1) := by
            cases ending <;> rfl
          rw [weave, hgap, scanFrom, if_neg (Nat.not_lt.mpr hlast), show
            gapStart gaps index + (gaps index).length = place gaps index from rfl, hmoved]
          dsimp only
          rw [hresume]
          exact ih (index + 1) _ _ next hrest hfrontier' (fun _ => rfl) (gapStart_mono gaps) hscan

end Listing

end Dalvik
