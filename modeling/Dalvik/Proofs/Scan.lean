import Dalvik.Proofs.Blocks
import Mathlib.Data.List.Forall2

/-!
# Scanning line by line

What one line declares is said once, by `Declares`. The scan applies it to the lines outside of
blocks, from the first to the last, so that a property of the tables holds at the end if it holds
before the first line and each line outside of blocks keeps it up.
-/

namespace Dalvik.Listing

/-- A switch as the lines behind its header write it. -/
structure SwitchDeclared (heap : Heap) (following : List String) (switch : Switch) : Prop where
  cases_eq : switch.cases =
    (body ".end packed-switch" following).filter (Text.beginsWith ":pswitch_")
  first : SetByLast heap (.int 0)
    ((body ".end packed-switch" following).filter (Text.beginsWith ".packed-switch ")) switch.first
  lines : ∀ line ∈ body ".end packed-switch" following,
    Text.beginsWith ".packed-switch " line = true ∨ Text.beginsWith ":pswitch_" line = true

/-- Constant data as the lines behind its header write it. -/
structure ArrayDeclared (heap : Heap) (following : List String) (data : DataArray) : Prop where
  stored : data.elements < heap.sequences.size
  elements : List.Forall₂ (HoldsLiteral heap)
    ((body ".end array-data" following).filter (!Text.beginsWith ".array-data " ·))
    (heap.items data.elements)
  width : SetByLast heap (.int 0)
    ((body ".end array-data" following).filter (Text.beginsWith ".array-data ")) data.width

theorem SwitchDeclared.mono {heap later : Heap} {following : List String} {switch : Switch}
    (hswitch : SwitchDeclared heap following switch) (hgrows : heap.Grows later) :
    SwitchDeclared later following switch :=
  ⟨hswitch.cases_eq, hswitch.first.mono hgrows, hswitch.lines⟩

theorem ArrayDeclared.mono {heap later : Heap} {following : List String} {data : DataArray}
    (hdata : ArrayDeclared heap following data) (hgrows : heap.Grows later) :
    ArrayDeclared later following data := by
  refine ⟨?_, ?_, hdata.width.mono hgrows⟩
  · have hle := hgrows.sequences.length_le
    simp only [Array.length_toList] at hle
    exact lt_of_lt_of_le hdata.stored hle
  · rw [hgrows.items_eq hdata.stored]
    exact hdata.elements.imp fun _ _ hholds => hholds.mono hgrows

/-- Every line of constant data is a literal or a directive. -/
theorem ArrayDeclared.holdsLiteral {heap : Heap} {following : List String} {data : DataArray}
    (hdata : ArrayDeclared heap following data) {line : String}
    (hline : line ∈ body ".end array-data" following)
    (hplain : Text.beginsWith ".array-data " line = false) :
    ∃ value, HoldsLiteral heap line value := by
  have hliterals := hdata.elements.imp fun text value hholds =>
    And.intro (Exists.intro value hholds) hholds
  refine ((List.forall₂_and_left _ _).mp hliterals).1 line (List.mem_filter.mpr ⟨hline, ?_⟩)
  rw [hplain]
  rfl

/-- What a line outside of blocks declares, and the last line that belongs to it. -/
inductive Declares (machine : Machine) (index : Nat) (line : String) (following : List String) :
    Machine → Nat → Prop where
  | nothing (hplain : Text.beginsWith ":" line = false) :
      Declares machine index line following machine index
  | label (hcolon : Text.beginsWith ":" line = true) (hheader : header? line = none) :
      Declares machine index line following
        { machine with labels := machine.labels.insert line index } index
  | guarded (hheader : header? line = some .guarded) (block? : Option CatchBlock)
      (hblock : catchBlock? index line following = .ok block?) :
      Declares machine index line following
        { machine with catchBlocks := machine.catchBlocks ++ block?.toList } index
  | switch (hheader : header? line = some .switch) (heap : Heap) (switch : Switch)
      (hgrows : machine.heap.Grows heap) (hswitch : SwitchDeclared heap following switch) :
      Declares machine index line following
        { machine with heap := heap, switches := machine.switches.insert line switch }
        ((endIndex? ".end packed-switch" (index + 1) following).getD index)
  | array (hheader : header? line = some .array) (heap : Heap) (data : DataArray)
      (hgrows : machine.heap.Grows heap) (hdata : ArrayDeclared heap following data) :
      Declares machine index line following
        { machine with heap := heap, arrays := machine.arrays.insert line data }
        ((endIndex? ".end array-data" (index + 1) following).getD index)

section Declare

variable {machine after : Machine} {index : Nat} {line : String} {following : List String}

theorem declareSwitch_eq_ok {last : Option Nat}
    (hdeclare : declareSwitch machine index line following = .ok (after, last)) :
    ∃ heap switch, machine.heap.Grows heap ∧ SwitchDeclared heap following switch ∧
      after = { machine with heap := heap, switches := machine.switches.insert line switch } ∧
      last = endIndex? ".end packed-switch" (index + 1) following := by
  obtain ⟨contents, hread, hafter⟩ := bind_eq_ok.mp hdeclare
  have hspec := readCases_spec hread
  cases hafter
  exact ⟨contents.heap, contents.value, hspec.grows,
    ⟨by simpa using hspec.cases_eq, hspec.first, hspec.lines⟩, rfl, hspec.last⟩

theorem declareArray_eq_ok {last : Option Nat}
    (hdeclare : declareArray machine index line following = .ok (after, last)) :
    ∃ heap data, machine.heap.Grows heap ∧ ArrayDeclared heap following data ∧
      after = { machine with heap := heap, arrays := machine.arrays.insert line data } ∧
      last = endIndex? ".end array-data" (index + 1) following := by
  obtain ⟨⟨⟨width, elements⟩, heap, last⟩, hread, hafter⟩ := bind_eq_ok.mp hdeclare
  have hspec := readElements_spec hread
  have hgrows : heap.Grows (heap.alloc elements).2 := heap.grows_alloc elements
  cases hafter
  refine ⟨(heap.alloc elements).2, ⟨width, (heap.alloc elements).1⟩, hspec.grows.trans hgrows,
    ⟨heap.alloc_lt_size elements, ?_, hspec.width.mono hgrows⟩, rfl, hspec.last⟩
  rw [heap.items_alloc elements]
  obtain ⟨added, hadded, hholds⟩ := hspec.elements
  have helements : elements = added := by simpa using hadded
  rw [helements]
  exact hholds.imp fun _ _ hliteral => hliteral.mono (helements ▸ hgrows)

theorem declare_eq_ok {last : Option Nat}
    (hdeclare : declare machine index line following = .ok (after, last)) :
    Declares machine index line following after (last.getD index) := by
  unfold declare at hdeclare
  split at hdeclare
  · rename_i hcolon
    split at hdeclare
    · rename_i header hheader
      cases header with
      | guarded =>
          obtain ⟨guarded, hguarded, hafter⟩ := bind_eq_ok.mp hdeclare
          obtain ⟨block?, hblock, hmachine⟩ := bind_eq_ok.mp (lift_eq_ok.mp hguarded)
          cases hafter
          cases hmachine
          exact .guarded hheader block? hblock
      | switch =>
          obtain ⟨⟨declared, ending⟩, hswitch, hafter⟩ := bind_eq_ok.mp hdeclare
          obtain ⟨heap, switch, hgrows, hspec, hmachine, hending⟩ := declareSwitch_eq_ok hswitch
          cases hafter
          rw [hmachine, hending]
          exact .switch hheader heap switch hgrows hspec
      | array =>
          obtain ⟨⟨declared, ending⟩, harray, hafter⟩ := bind_eq_ok.mp hdeclare
          obtain ⟨heap, data, hgrows, hspec, hmachine, hending⟩ :=
            declareArray_eq_ok (lift_eq_ok.mp harray)
          cases hafter
          rw [hmachine, hending]
          exact .array hheader heap data hgrows hspec
    · rename_i hheader
      cases hdeclare
      exact .label hcolon hheader
  · rename_i hcolon
    cases hdeclare
    exact .nothing (by simpa using hcolon)

theorem opens_of_header? {header : Header} (hheader : header? line = some header) :
    header.opens line = true := by
  have hopens := List.find?_some hheader
  exact hopens

theorem beginsWith_colon_of_header? {header : Header} (hheader : header? line = some header) :
    Text.beginsWith ":" line = true := by
  have hopens := opens_of_header? hheader
  have hcolon : Text.beginsWith ":" header.opening = true := by
    cases header <;> decide
  rw [Text.beginsWith_iff] at hcolon ⊢
  exact hcolon.trans (Text.beginsWith_iff.mp hopens)

/-- A declaration reaches up to the line that closes its block. -/
theorem Declares.last_eq {lines : List String} {last : Nat} (hline : lines[index]? = some line)
    (hdeclares : Declares machine index line (lines.drop (index + 1)) after last) :
    last = (closing? lines index).getD index := by
  unfold closing?
  rw [hline]
  cases hdeclares with
  | nothing hplain =>
      have hheader : header? line = none := by
        by_contra hsome
        obtain ⟨header, hheader⟩ := Option.ne_none_iff_exists'.mp hsome
        rw [beginsWith_colon_of_header? hheader] at hplain
        cases hplain
      simp [hheader]
  | label hcolon hheader => simp [hheader]
  | guarded hheader => simp [hheader, Header.ending]
  | switch hheader => simp [hheader, Header.ending]
  | array hheader => simp [hheader, Header.ending]

end Declare

/-! ### Which lines the scan passes over -/

/-- The scan stands before line `index` and resumes at line `resume`: blocks that began earlier have
ended, except for at most one, which ends right before `resume`. -/
structure Frontier (lines : List String) (index resume : Nat) : Prop where
  ended : ∀ start < index, ¬InBlock lines start →
    ∀ last, closing? lines start = some last → last < index ∨ last < resume
  pending : index < resume →
    ∃ start < index, ¬InBlock lines start ∧ closing? lines start = some (resume - 1)

variable {lines : List String} {index resume : Nat}

theorem frontier_zero (lines : List String) : Frontier lines 0 0 :=
  ⟨fun start hlt => absurd hlt (Nat.not_lt_zero start), fun hlt => absurd hlt (lt_irrefl 0)⟩

theorem Frontier.inBlock_iff (hfrontier : Frontier lines index resume) :
    InBlock lines index ↔ index < resume := by
  rw [Listing.inBlock_iff]
  constructor
  · rintro ⟨start, hlt, hout, last, hclosing, hle⟩
    rcases hfrontier.ended start hlt hout last hclosing with hended | hended <;> omega
  · intro hlt
    obtain ⟨start, hstart, hout, hclosing⟩ := hfrontier.pending hlt
    exact ⟨start, hstart, hout, resume - 1, hclosing, by omega⟩

theorem Frontier.skip (hfrontier : Frontier lines index resume) (hlt : index < resume) :
    Frontier lines (index + 1) resume := by
  refine ⟨fun start hstart hout last hclosing => ?_, fun hopen => ?_⟩
  · rcases Nat.lt_succ_iff_lt_or_eq.mp hstart with hearlier | rfl
    · rcases hfrontier.ended start hearlier hout last hclosing with hended | hended
      · exact Or.inl (by omega)
      · exact Or.inr hended
    · exact absurd (hfrontier.inBlock_iff.mpr hlt) hout
  · obtain ⟨start, hstart, hout, hclosing⟩ := hfrontier.pending hlt
    exact ⟨start, by omega, hout, hclosing⟩

theorem Frontier.declare (hfrontier : Frontier lines index resume) (hle : resume ≤ index) :
    Frontier lines (index + 1) ((closing? lines index).getD index + 1) := by
  have hout : ¬InBlock lines index := by
    rw [hfrontier.inBlock_iff]
    omega
  refine ⟨fun start hstart hout' last hclosing => ?_, fun hopen => ?_⟩
  · rcases Nat.lt_succ_iff_lt_or_eq.mp hstart with hearlier | rfl
    · rcases hfrontier.ended start hearlier hout' last hclosing with hended | hended <;>
        exact Or.inl (by omega)
    · right
      simp [hclosing]
  · cases hclosing : closing? lines index with
    | none => simp [hclosing] at hopen
    | some last => exact ⟨index, by omega, hout, by simpa using hclosing⟩

/-- Induction along the scan: a property is kept up by lines inside blocks, which do nothing, and by
what the lines outside of them declare. -/
theorem scan_induction {lines : List String} {motive : Nat → Machine → Prop}
    {machine after : Machine} (hscan : scan machine lines = (after, none))
    (hstart : motive 0 machine)
    (hinside : ∀ index current, InBlock lines index → motive index current →
      motive (index + 1) current)
    (houtside : ∀ index line current next last, lines[index]? = some line →
      ¬InBlock lines index → Declares current index line (lines.drop (index + 1)) next last →
      motive index current → motive (index + 1) next) :
    motive lines.length after := by
  suffices hfrom : ∀ rest index resume current, lines.drop index = rest →
      Frontier lines index resume → index ≤ lines.length → motive index current →
      scanFrom current index resume rest = (after, none) → motive lines.length after from
    hfrom lines 0 0 machine rfl (frontier_zero lines) (Nat.zero_le _) hstart hscan
  intro rest
  -- on the lines still to be scanned; the frontier says which of them are passed over
  induction rest with
  | nil =>
      intro index resume current hdrop _ hle hcurrent hscan
      rw [scanFrom] at hscan
      have hlength : index = lines.length := le_antisymm hle (List.drop_eq_nil_iff.mp hdrop)
      cases hscan
      exact hlength ▸ hcurrent
  | cons line rest ih =>
      intro index resume current hdrop hfrontier _ hcurrent hscan
      have hline : lines[index]? = some line := by
        rw [← List.head?_drop, hdrop, List.head?_cons]
      have hrest : lines.drop (index + 1) = rest := by
        rw [← List.tail_drop, hdrop, List.tail_cons]
      have hlt : index < lines.length := (List.getElem?_eq_some_iff.mp hline).1
      rw [scanFrom] at hscan
      split at hscan
      · rename_i hskip
        exact ih (index + 1) resume current hrest (hfrontier.skip hskip) hlt
          (hinside index current (hfrontier.inBlock_iff.mpr hskip) hcurrent) hscan
      · rename_i hskip
        split at hscan
        · cases hscan
        · rename_i next last hdeclare
          rw [← hrest] at hdeclare
          have hdeclares := declare_eq_ok hdeclare
          have hout : ¬InBlock lines index := fun hin => hskip (hfrontier.inBlock_iff.mp hin)
          have hnext : Frontier lines (index + 1) (last.getD index + 1) := by
            rw [hdeclares.last_eq hline]
            exact hfrontier.declare (Nat.le_of_not_lt hskip)
          exact ih (index + 1) _ next hrest hnext hlt
            (houtside index line current next _ hline hout hdeclares hcurrent) hscan

/-- The scan writes tables and makes values, and leaves the rest of the machine alone. -/
theorem scan_frame {machine after : Machine} (hscan : scan machine lines = (after, none)) :
    machine.heap.Grows after.heap ∧ after = { machine with
      heap := after.heap, labels := after.labels, catchBlocks := after.catchBlocks,
      switches := after.switches, arrays := after.arrays } := by
  refine scan_induction hscan (motive := fun _ current =>
    machine.heap.Grows current.heap ∧ current = { machine with
      heap := current.heap, labels := current.labels, catchBlocks := current.catchBlocks,
      switches := current.switches, arrays := current.arrays }) ⟨Heap.Grows.refl _, rfl⟩
    (fun _ _ _ hcurrent => hcurrent) ?_
  rintro index line current next last - - hdeclares ⟨hgrows, hframe⟩
  cases hdeclares with
  | nothing => exact ⟨hgrows, hframe⟩
  | label => exact ⟨hgrows, by rw [hframe]⟩
  | guarded => exact ⟨hgrows, by rw [hframe]⟩
  | switch hheader heap switch hnew => exact ⟨hgrows.trans hnew, by rw [hframe]⟩
  | array hheader heap data hnew => exact ⟨hgrows.trans hnew, by rw [hframe]⟩

end Dalvik.Listing
