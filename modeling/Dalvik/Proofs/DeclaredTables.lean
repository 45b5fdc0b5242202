import Dalvik.Proofs.Runs
import Dalvik.Proofs.Table

/-!
# The tables of a listing

A name is declared by the last line outside of blocks on which it stands: a label by that line
itself, a switch and constant data by the lines that follow their header. The three tables differ
only in which lines declare something and in what is kept of them, so one statement about all three
carries the scan.
-/

namespace Dalvik.Listing

/-- A label begins with a colon and is no header. -/
def IsLabel (text : String) : Prop :=
  Text.beginsWith ":" text = true ∧ ∀ header : Header, header.opens text = false

/-- The last line outside of blocks that reads as given. -/
structure LastOutside (lines : List String) (text : String) (index : Nat) : Prop where
  line : lines[index]? = some text
  outside : ¬InBlock lines index
  greatest : ∀ other, lines[other]? = some text → ¬InBlock lines other → other ≤ index

/-- Tables that hold exactly what the lines declare. -/
structure DeclaredTables (lines : List String) (machine : Machine) : Prop where
  label_iff : ∀ label line, machine.labels.get? label = some line ↔
    IsLabel label ∧ ∃ index : Nat, line = index ∧ LastOutside lines label index
  switch_iff : ∀ name, name ∈ machine.switches.names ↔
    Header.switch.opens name = true ∧ ∃ index, LastOutside lines name index
  switch_declared : ∀ name switch index, machine.switches.get? name = some switch →
    LastOutside lines name index →
    SwitchDeclared machine.heap (lines.drop (index + 1)) switch
  array_iff : ∀ name, name ∈ machine.arrays.names ↔
    Header.array.opens name = true ∧ ∃ index, LastOutside lines name index
  array_declared : ∀ name data index, machine.arrays.get? name = some data →
    LastOutside lines name index → ArrayDeclared machine.heap (lines.drop (index + 1)) data
  switch_names : machine.switches.names.Nodup
  array_names : machine.arrays.names.Nodup

/-! ### Headers -/

theorem header?_eq_some_iff {line : String} {header : Header} :
    header? line = some header ↔ header.opens line = true := by
  constructor
  · exact List.find?_some
  · intro hopens
    have hother : ∀ other : Header, other ≠ header → other.opens line = false := by
      intro other hne
      have hopening : Text.beginsWith header.opening other.opening = false ∧
          Text.beginsWith other.opening header.opening = false := by
        revert hne
        cases header <;> cases other <;> decide
      exact Text.beginsWith_eq_false_of_beginsWith hopens hopening.1 hopening.2
    unfold header?
    cases header <;> simp [hopens, hother]

theorem isLabel_iff {line : String} :
    IsLabel line ↔ Text.beginsWith ":" line = true ∧ header? line = none := by
  refine and_congr_right fun _ => ?_
  rw [Option.eq_none_iff_forall_ne_some]
  simp only [ne_eq, header?_eq_some_iff, Bool.not_eq_true]

/-! ### One table along the scan -/

/-- Of the lines before `bound`, those outside of blocks that declare something are in the table,
each name as its last line has it. -/
structure Tracks {α : Type} (lines : List String) (declaring : String → Prop)
    (describes : Nat → α → Prop) (bound : Nat) (table : Table α) : Prop where
  nodup : table.names.Nodup
  found : ∀ name value, table.get? name = some value → declaring name ∧
    ∃ index < bound, lines[index]? = some name ∧ ¬InBlock lines index ∧ describes index value ∧
      ∀ other < bound, lines[other]? = some name → ¬InBlock lines other → other ≤ index
  missing : ∀ name, table.get? name = none → declaring name →
    ∀ index < bound, lines[index]? = some name → InBlock lines index

namespace Tracks

variable {α : Type} {lines : List String} {declaring : String → Prop}
  {describes : Nat → α → Prop} {bound : Nat} {table : Table α}

theorem empty : Tracks lines declaring describes 0 [] :=
  ⟨List.nodup_nil, fun _ _ hget => (nomatch hget),
    fun _ _ _ index hlt => absurd hlt (Nat.not_lt_zero index)⟩

theorem mono {describes' : Nat → α → Prop} (htracks : Tracks lines declaring describes bound table)
    (himp : ∀ index value, describes index value → describes' index value) :
    Tracks lines declaring describes' bound table := by
  refine ⟨htracks.nodup, fun name value hget => ?_, htracks.missing⟩
  obtain ⟨hname, index, hlt, hline, hout, hvalue, hlast⟩ := htracks.found name value hget
  exact ⟨hname, index, hlt, hline, hout, himp index value hvalue, hlast⟩

/-- A line that declares nothing, for it lies inside a block or is of another kind. -/
theorem pass (htracks : Tracks lines declaring describes bound table)
    (hpass : ∀ line, lines[bound]? = some line → declaring line → InBlock lines bound) :
    Tracks lines declaring describes (bound + 1) table := by
  refine ⟨htracks.nodup, fun name value hget => ?_, fun name hget hname index hlt hline => ?_⟩
  · obtain ⟨hname, index, hlt, hline, hout, hvalue, hlast⟩ := htracks.found name value hget
    refine ⟨hname, index, by omega, hline, hout, hvalue, fun other hother hsame hout' => ?_⟩
    rcases Nat.lt_succ_iff_lt_or_eq.mp hother with hearlier | rfl
    · exact hlast other hearlier hsame hout'
    · exact absurd (hpass name hsame hname) hout'
  · rcases Nat.lt_succ_iff_lt_or_eq.mp hlt with hearlier | rfl
    · exact htracks.missing name hget hname index hearlier hline
    · exact hpass name hline hname

theorem inside (htracks : Tracks lines declaring describes bound table)
    (hin : InBlock lines bound) : Tracks lines declaring describes (bound + 1) table :=
  htracks.pass fun _ _ _ => hin

theorem other (htracks : Tracks lines declaring describes bound table) {line : String}
    (hline : lines[bound]? = some line) (hother : ¬declaring line) :
    Tracks lines declaring describes (bound + 1) table := by
  refine htracks.pass fun found hfound hdeclaring => absurd hdeclaring ?_
  have heq : found = line := Option.some.inj (hfound.symm.trans hline)
  exact heq ▸ hother

theorem insert (htracks : Tracks lines declaring describes bound table) {line : String} {value : α}
    (hline : lines[bound]? = some line) (hout : ¬InBlock lines bound) (hname : declaring line)
    (hvalue : describes bound value) :
    Tracks lines declaring describes (bound + 1) (table.insert line value) := by
  refine ⟨Table.nodup_names_insert htracks.nodup line value, fun name found hget => ?_,
    fun name hget hdeclaring index hlt hsame => ?_⟩
  · rw [Table.get?_insert] at hget
    split at hget
    · rename_i hself
      cases hget
      exact ⟨hself ▸ hname, bound, by omega, hself ▸ hline, hout, hvalue,
        fun other hother _ _ => by omega⟩
    · rename_i hother
      obtain ⟨hold, index, hlt, hindex, hout', hdescribes, hlast⟩ := htracks.found name found hget
      refine ⟨hold, index, by omega, hindex, hout', hdescribes, fun other hlt' hsame hother' => ?_⟩
      rcases Nat.lt_succ_iff_lt_or_eq.mp hlt' with hearlier | rfl
      · exact hlast other hearlier hsame hother'
      · exact absurd (Option.some.inj (hsame.symm.trans hline)) hother
  · rw [Table.get?_insert] at hget
    split at hget
    · cases hget
    · rename_i hother
      rcases Nat.lt_succ_iff_lt_or_eq.mp hlt with hearlier | rfl
      · exact htracks.missing name hget hdeclaring index hearlier hsame
      · exact absurd (Option.some.inj (hsame.symm.trans hline)) hother

theorem mem_names_iff (htracks : Tracks lines declaring describes lines.length table)
    (name : String) :
    name ∈ table.names ↔ declaring name ∧ ∃ index, LastOutside lines name index := by
  rw [← Table.get?_isSome_iff]
  constructor
  · intro hsome
    obtain ⟨value, hget⟩ := Option.isSome_iff_exists.mp hsome
    obtain ⟨hname, index, -, hline, hout, -, hlast⟩ := htracks.found name value hget
    refine ⟨hname, index, hline, hout, fun other hsame => hlast other ?_ hsame⟩
    exact (List.getElem?_eq_some_iff.mp hsame).1
  · rintro ⟨hname, index, hlast⟩
    by_contra hnone
    have hget : table.get? name = none := by simpa using hnone
    have hlt : index < lines.length := (List.getElem?_eq_some_iff.mp hlast.line).1
    exact hlast.outside (htracks.missing name hget hname index hlt hlast.line)

theorem describes_of_lastOutside (htracks : Tracks lines declaring describes lines.length table)
    {name : String} {value : α} {index : Nat} (hget : table.get? name = some value)
    (hindex : LastOutside lines name index) : describes index value := by
  obtain ⟨-, found, -, hline, hout, hvalue, hlast⟩ := htracks.found name value hget
  have hlt : index < lines.length := (List.getElem?_eq_some_iff.mp hindex.line).1
  have heq : index = found :=
    le_antisymm (hlast index hlt hindex.line hindex.outside) (hindex.greatest found hline hout)
  exact heq ▸ hvalue

end Tracks

/-! ### All three tables along the scan -/

structure TablesTracked (lines : List String) (bound : Nat) (machine : Machine) : Prop where
  labels : Tracks lines IsLabel (fun index line => line = (index : Int)) bound machine.labels
  switches : Tracks lines (Header.switch.opens · = true)
    (fun index => SwitchDeclared machine.heap (lines.drop (index + 1))) bound machine.switches
  arrays : Tracks lines (Header.array.opens · = true)
    (fun index => ArrayDeclared machine.heap (lines.drop (index + 1))) bound machine.arrays

/-- One line outside of blocks: the table of its kind gets it, the others are as they were. -/
theorem TablesTracked.step {lines : List String} {bound last : Nat} {line : String}
    {machine next : Machine} (htracked : TablesTracked lines bound machine)
    (hline : lines[bound]? = some line) (hout : ¬InBlock lines bound)
    (hdeclares : Declares machine bound line (lines.drop (bound + 1)) next last) :
    TablesTracked lines (bound + 1) next := by
  cases hdeclares with
  | nothing hplain =>
      have hopens : ∀ header : Header, header.opens line ≠ true := by
        intro header hopens
        rw [beginsWith_colon_of_header? (header?_eq_some_iff.mpr hopens)] at hplain
        cases hplain
      have hlabel : ¬IsLabel line := fun hlabel => by simp [hlabel.1] at hplain
      exact ⟨htracked.labels.other hline hlabel, htracked.switches.other hline (hopens .switch),
        htracked.arrays.other hline (hopens .array)⟩
  | label hcolon hheader =>
      have hlabel : IsLabel line := isLabel_iff.mpr ⟨hcolon, hheader⟩
      exact ⟨htracked.labels.insert hline hout hlabel rfl,
        htracked.switches.other hline (by simp [hlabel.2]),
        htracked.arrays.other hline (by simp [hlabel.2])⟩
  | guarded hheader =>
      have hlabel : ¬IsLabel line := fun hlabel => by simp [isLabel_iff, hheader] at hlabel
      refine ⟨htracked.labels.other hline hlabel, htracked.switches.other hline ?_,
        htracked.arrays.other hline ?_⟩ <;> simp [← header?_eq_some_iff, hheader]
  | switch hheader heap switch hgrows hswitch =>
      have hlabel : ¬IsLabel line := fun hlabel => by simp [isLabel_iff, hheader] at hlabel
      refine ⟨htracked.labels.other hline hlabel, ?_, ?_⟩
      · exact (htracked.switches.mono fun index switch hold => hold.mono hgrows).insert hline hout
          (header?_eq_some_iff.mp hheader) hswitch
      · refine (htracked.arrays.mono fun index data hold => hold.mono hgrows).other hline ?_
        simp [← header?_eq_some_iff, hheader]
  | array hheader heap data hgrows hdata =>
      have hlabel : ¬IsLabel line := fun hlabel => by simp [isLabel_iff, hheader] at hlabel
      refine ⟨htracked.labels.other hline hlabel, ?_, ?_⟩
      · refine (htracked.switches.mono fun index switch hold => hold.mono hgrows).other hline ?_
        simp [← header?_eq_some_iff, hheader]
      · exact (htracked.arrays.mono fun index data hold => hold.mono hgrows).insert hline hout
          (header?_eq_some_iff.mp hheader) hdata

/-- The scan of a machine whose tables are empty. -/
theorem scan_tracks {lines : List String} {machine after : Machine}
    (hlabels : machine.labels = []) (hswitches : machine.switches = [])
    (harrays : machine.arrays = []) (hscan : scan machine lines = (after, none)) :
    TablesTracked lines lines.length after := by
  refine scan_induction hscan (motive := TablesTracked lines) ?_ ?_ ?_
  · refine ⟨?_, ?_, ?_⟩
    · exact hlabels ▸ Tracks.empty
    · exact hswitches ▸ Tracks.empty
    · exact harrays ▸ Tracks.empty
  · intro index current hin hcurrent
    exact ⟨hcurrent.labels.inside hin, hcurrent.switches.inside hin, hcurrent.arrays.inside hin⟩
  · intro index line current next last hline hout hdeclares hcurrent
    exact hcurrent.step hline hout hdeclares

theorem declaredTables_of_tracked {lines : List String} {machine : Machine}
    (htracked : TablesTracked lines lines.length machine) : DeclaredTables lines machine where
  label_iff := by
    intro label line
    constructor
    · intro hget
      obtain ⟨hlabel, index, hlast⟩ := (htracked.labels.mem_names_iff label).mp
        ((Table.get?_isSome_iff _ _).mp (by simp [hget]))
      exact ⟨hlabel, index, htracked.labels.describes_of_lastOutside hget hlast, hlast⟩
    · rintro ⟨hlabel, index, rfl, hlast⟩
      have hsome := (Table.get?_isSome_iff _ _).mpr
        ((htracked.labels.mem_names_iff label).mpr ⟨hlabel, index, hlast⟩)
      obtain ⟨line, hget⟩ := Option.isSome_iff_exists.mp hsome
      rw [hget, htracked.labels.describes_of_lastOutside hget hlast]
  switch_iff := htracked.switches.mem_names_iff
  switch_declared := fun _ _ _ hget hlast =>
    htracked.switches.describes_of_lastOutside hget hlast
  array_iff := htracked.arrays.mem_names_iff
  array_declared := fun _ _ _ hget hlast => htracked.arrays.describes_of_lastOutside hget hlast
  switch_names := htracked.switches.nodup
  array_names := htracked.arrays.nodup

/-- A scan on a machine that holds nothing but arguments. -/
theorem scan_declaredTables {arguments : Table Datum} {lines : List String} {declared : Machine}
    (hscan : scan (({} : Machine).load arguments) lines = (declared, none)) :
    DeclaredTables lines declared := by
  have hload := Machine.load_frame {} arguments
  refine declaredTables_of_tracked (scan_tracks ?_ ?_ ?_ hscan) <;> rw [hload]

/-- **Exact tables.** Whatever registers a run begins with: once the listing is declared without a
fault or a report, its lines are stripped and its tables hold what they declare, no more and no
less. -/
theorem start_declares_exactly (emulator : Emulator) (lines : List String)
    (arguments : Table Datum) (tracing : Bool)
    (hdone : (emulator.start lines (({} : Machine).load arguments) tracing).2 = .done ()) :
    (emulator.start lines (({} : Machine).load arguments) tracing).1.source =
        some (lines.map Text.strip) ∧
      DeclaredTables (lines.map Text.strip)
        (emulator.start lines (({} : Machine).load arguments) tracing).1.machine := by
  obtain ⟨declared, hscan, hstart⟩ := Emulator.start_eq_of_done hdone
  rw [hstart]
  exact ⟨rfl, scan_declaredTables hscan⟩

/-- A label that is also a case, a header among the cases of another, data declared twice, and a
header that is never closed. -/
def layeredListing : List String := [
  " :pswitch_0", ":pswitch_data_0", ".packed-switch 1", ":pswitch_0", ":pswitch_data_1",
  ".end packed-switch", ":array_0", ".array-data 4", "0x10", "[-2]", ".end array-data",
  ":array_0", "7", ".end array-data", ":pswitch_data_0", ":pswitch_1"]

theorem start_declares_layeredListing :
    (Emulator.start {} layeredListing (({} : Machine).load [("p0", .list [.int 5])]) false).2 =
        .done () ∧
      DeclaredTables (layeredListing.map Text.strip)
        (Emulator.start {} layeredListing (({} : Machine).load [("p0", .list [.int 5])])
          false).1.machine := by
  have hdone : (Emulator.start {} layeredListing
      (({} : Machine).load [("p0", .list [.int 5])]) false).2 = .done () := by
    decide +kernel
  exact ⟨hdone, (start_declares_exactly {} layeredListing [("p0", .list [.int 5])] false hdone).2⟩

end Dalvik.Listing
