import Dalvik.Proofs.Runs
import Dalvik.Proofs.GuardedBlocks

/-!
# Blocks and their own directives

A directive is spelled for one mark only. So blocks may nest or overlap, and the mark of one may
begin or end that of another: each line that opens a block is paired with its own directive, and the
table lists the pairs in the order of the lines that open them.
-/

namespace Dalvik.Listing

/-! ### One directive, one mark -/

/-- Two ways to write a text agree on where the characters of a kind end first. -/
theorem append_cons_inj {p : Char → Bool} {first second rest left : List Char} {c d : Char}
    (hfirst : ∀ x ∈ first, p x = true) (hsecond : ∀ x ∈ second, p x = true)
    (hc : p c = false) (hd : p d = false) (heq : first ++ c :: rest = second ++ d :: left) :
    first = second ∧ c :: rest = d :: left := by
  have htake : ∀ (part tail : List Char) (stop : Char), (∀ x ∈ part, p x = true) →
      p stop = false → (part ++ stop :: tail).takeWhile p = part := by
    intro part tail stop hpart hstop
    rw [List.takeWhile_append_of_pos hpart, List.takeWhile_cons_of_neg (by simp [hstop]),
      List.append_nil]
  have hsame : first = second := by
    calc
      first = (first ++ c :: rest).takeWhile p := (htake first rest c hfirst hc).symm
      _ = (second ++ d :: left).takeWhile p := by rw [heq]
      _ = second := htake second left d hsecond hd
  subst hsame
  exact ⟨rfl, List.append_cancel_left heq⟩

/-- What stands between the two marks begins with a space or a dot. -/
theorem CatchSpelling.exists_gap {mark line : String} (spelling : CatchSpelling mark line) :
    ∃ c rest, spelling.gap = c :: rest ∧ c.isAlphanum = false := by
  obtain ⟨c, rest, hgap⟩ := List.exists_cons_of_ne_nil spelling.gap_ne
  refine ⟨c, rest, hgap, ?_⟩
  have hc : c ∈ spelling.gap := by simp [hgap]
  rcases spelling.gap_chars c hc with rfl | rfl <;> decide

/-- A line spells the directive for at most one mark of letters and digits. -/
theorem CatchSpelling.mark_eq {mark other line : String} (first : CatchSpelling mark line)
    (second : CatchSpelling other line) (hmark : ∀ c ∈ mark.toList, c.isAlphanum = true)
    (hother : ∀ c ∈ other.toList, c.isAlphanum = true) : mark = other := by
  obtain ⟨c, rest, hgap, hc⟩ := first.exists_gap
  obtain ⟨d, left, hgap', hd⟩ := second.exists_gap
  have hspace : ∀ tail, " \x7b:try_start_".toList ++ tail =
      ' ' :: ("\x7b:try_start_".toList ++ tail) := fun _ => rfl
  have hline := List.append_cancel_left (first.line_eq.symm.trans second.line_eq)
  rw [List.append_assoc, List.append_assoc, hspace, hspace] at hline
  -- the kind ends at the first blank, and the mark at the first character of the gap
  have hbehind := (append_cons_inj (p := fun x => !Text.isBlank x)
    (fun x hx => by simp [first.kind_solid x hx]) (fun x hx => by simp [second.kind_solid x hx])
    (by decide) (by decide) hline).2
  have hmarks := List.append_cancel_left (List.cons.inj hbehind).2
  rw [hgap, hgap', List.cons_append, List.cons_append] at hmarks
  exact String.toList_inj.mp (append_cons_inj hmark hother hc hd hmarks).1

/-- Blocks with different marks end at different directives. -/
theorem GuardedBlock.last_ne {lines : List String} {block other : GuardedBlock lines}
    (hblock : ∀ c ∈ block.mark.toList, c.isAlphanum = true)
    (hother : ∀ c ∈ other.mark.toList, c.isAlphanum = true) (hne : block.mark ≠ other.mark) :
    block.last ≠ other.last := by
  intro hlast
  apply hne
  have hsame : block.directive = other.directive := by
    have hline := block.directive_line
    rw [hlast, other.directive_line] at hline
    exact (Option.some.inj hline).symm
  exact block.spelling.mark_eq (hsame ▸ other.spelling) hblock hother

/-- **Blocks and directives.** Once a listing is declared without a fault or a report, the table of
guarded blocks holds exactly one entry for each line outside of data that opens a block, in the
order of these lines: from there to the directive of its own mark, with the handler that the
directive names. No two marks share a directive. -/
theorem start_pairs_blocks (emulator : Emulator) (lines : List String) (arguments : Table Datum)
    (tracing : Bool) (list : BlockList (lines.map Text.strip))
    (hdone : (emulator.start lines (({} : Machine).load arguments) tracing).2 = .done ()) :
    (emulator.start lines (({} : Machine).load arguments) tracing).1.machine.catchBlocks =
        list.blocks.map (fun block => ⟨block.first, block.last, some block.spelling.handler⟩) ∧
      (∀ block ∈ list.blocks, ¬InBlock (lines.map Text.strip) block.first) ∧
      ∀ block ∈ list.blocks, ∀ other ∈ list.blocks,
        (∀ c ∈ block.mark.toList ++ other.mark.toList, c.isAlphanum = true) →
        block.mark ≠ other.mark → block.last ≠ other.last := by
  obtain ⟨declared, hscan, hstart⟩ := Emulator.start_eq_of_done hdone
  have hnew : (({} : Machine).load arguments).catchBlocks = [] := by
    rw [Machine.load_frame]
  refine ⟨?_, ?_, ?_⟩
  · rw [hstart]
    exact list.scan_catchBlocks hnew hscan
  · intro block _
    exact not_inBlock_of_opens hscan block.opens (opens_opening block.mark)
  · intro block _ other _ hletters hne
    rw [List.forall_mem_append] at hletters
    exact GuardedBlock.last_ne hletters.1 hletters.2 hne

/-! ### A listing with overlapping blocks -/

/-- The directive as it is usually written. -/
def usualDirective (kind mark name : String) : String :=
  ".catch " ++ kind ++ " \x7b:try_start_" ++ mark ++ " .. :try_end_" ++ mark ++ "\x7d :" ++ name

theorem usualGap_ne : " .. ".toList ≠ [] := by
  decide

theorem usualGap_chars : ∀ c ∈ " .. ".toList, c = ' ' ∨ c = '.' :=
  Text.forall_mem_of_all (by decide)

theorem usualBlanks_blank : ∀ c ∈ [' '], Text.isBlank c = true :=
  Text.forall_mem_of_all (by decide)

/-- The usual spelling, for a kind without blanks and a name on one line. -/
def usualSpelling (kind mark name : String) (hkind : kind ≠ "")
    (hsolid : kind.toList.all (Text.isBlank · = false) = true) (hname : name ≠ "")
    (hinLine : name.toList.all (· ≠ '\n') = true) :
    CatchSpelling mark (usualDirective kind mark name) where
  kind := kind.toList
  gap := " .. ".toList
  blanks := [' ']
  name := name.toList
  rest := []
  line_eq := by
    have hmiddle : ∀ tail, " .. :try_end_".toList ++ tail =
        " .. ".toList ++ (":try_end_".toList ++ tail) := fun _ => rfl
    have hend : ∀ tail, "\x7d :".toList ++ tail = ['\x7d'] ++ ([' '] ++ ':' :: tail) :=
      fun _ => rfl
    unfold usualDirective
    rw [List.append_nil]
    simp only [String.toList_append, List.append_assoc, hmiddle, hend]
  kind_ne := by simpa using hkind
  kind_solid := Text.forall_mem_of_all hsolid
  gap_ne := usualGap_ne
  gap_chars := usualGap_chars
  blanks_blank := usualBlanks_blank
  name_ne := by simpa using hname
  name_inLine := Text.forall_mem_of_all hinLine
  rest_head := by simp

instance (mark line : String) : Decidable (IsEmpty (CatchSpelling mark line)) :=
  decidable_of_iff _ search_eq_none_iff

/-- What is evaluated to see that a block with a usual directive lies between two lines. -/
abbrev UsualBlock (lines : List String) (kind mark name : String) (first last : Nat) : Prop :=
  (mark.toList.all (·.isAlphanum) = true ∧ kind ≠ "" ∧
    kind.toList.all (Text.isBlank · = false) = true ∧ name ≠ "" ∧
    name.toList.all (· ≠ '\n') = true) ∧
  first < last ∧ lines[first]? = some (":try_start_" ++ mark) ∧
    lines[last]? = some (usualDirective kind mark name) ∧
    ∀ entry ∈ lines.zipIdx, first < entry.2 → entry.2 < last →
      IsEmpty (CatchSpelling mark entry.1)

def UsualBlock.block {lines : List String} {kind mark name : String} {first last : Nat}
    (husual : UsualBlock lines kind mark name first last) : GuardedBlock lines where
  mark := mark
  first := first
  last := last
  directive := usualDirective kind mark name
  mark_plain c hc := plain_of_isAlphanum (List.all_eq_true.mp husual.1.1 c hc)
  opens := husual.2.2.1
  first_lt := husual.2.1
  directive_line := husual.2.2.2.1
  spelling := usualSpelling kind mark name husual.1.2.1 husual.1.2.2.1 husual.1.2.2.2.1
    husual.1.2.2.2.2
  foremost index line hfirst hlast hline :=
    husual.2.2.2.2 (line, index) (List.mk_mem_zipIdx_iff_getElem?.mpr hline) hfirst hlast

/-- A block inside of another one, and a third that opens in both and ends behind them. The first
mark begins the second one, the third mark ends it. -/
def overlappingListing : List String := [
  ":try_start_1", ":try_start_10", ":try_start_0", ":try_end_10",
  usualDirective "Ljava/lang/Exception;" "10" "inner", ":try_end_1",
  usualDirective "Ljava/lang/Exception;" "1" "outer", ":try_end_0",
  usualDirective "Ljava/io/IOException;" "0" "across", ":outer"]

theorem overlappingListing_facts :
    UsualBlock (overlappingListing.map Text.strip) "Ljava/lang/Exception;" "1" "outer" 0 6 ∧
      UsualBlock (overlappingListing.map Text.strip) "Ljava/lang/Exception;" "10" "inner" 1 4 ∧
      UsualBlock (overlappingListing.map Text.strip) "Ljava/io/IOException;" "0" "across" 2 8 ∧
      ∀ entry ∈ (overlappingListing.map Text.strip).zipIdx,
        Header.guarded.opens entry.1 = true → entry.2 ∈ [0, 1, 2] := by
  decide +kernel

def overlappingBlocks : BlockList (overlappingListing.map Text.strip) where
  blocks := [overlappingListing_facts.1.block, overlappingListing_facts.2.1.block,
    overlappingListing_facts.2.2.1.block]
  ordered := by simp [UsualBlock.block]
  complete index line hline hopens _ := by
    have hindex := overlappingListing_facts.2.2.2 (line, index)
      (List.mk_mem_zipIdx_iff_getElem?.mpr hline) hopens
    simpa [UsualBlock.block, eq_comm] using hindex

theorem start_pairs_blocks_overlappingListing :
    (Emulator.start {} overlappingListing (({} : Machine).load []) false).2 = .done () ∧
      (Emulator.start {} overlappingListing (({} : Machine).load []) false).1.machine.catchBlocks =
        [⟨0, 6, some ":outer"⟩, ⟨1, 4, some ":inner"⟩, ⟨2, 8, some ":across"⟩] := by
  have hdone :
      (Emulator.start {} overlappingListing (({} : Machine).load []) false).2 = .done () := by
    decide +kernel
  exact ⟨hdone, (start_pairs_blocks {} overlappingListing [] false overlappingBlocks hdone).1⟩

end Dalvik.Listing
