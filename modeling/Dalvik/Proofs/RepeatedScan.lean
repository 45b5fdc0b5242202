import Dalvik.Proofs.DeclaredTables
import Dalvik.Proofs.PlacedStores
import Dalvik.Proofs.Statements

/-!
# Declaring a listing again

What a listing declares does not depend on the machine that it is declared on: on any machine, the
tables of a new machine are written over those that are there, with their values in the store behind
everything older. So a second pass writes every name again with what it had, and appends the guarded
blocks once more behind the equal ones that are always found first.
-/

namespace Dalvik

/-! ### Texts without blanks -/

theorem Text.strip_strip (text : String) : strip (strip text) = strip text := by
  have hlist : (strip text).toList =
      ((text.toList.dropWhile isBlank).reverse.dropWhile isBlank).reverse := by
    rw [strip, String.toList_ofList, trimBoth]
  have hsolid : ∀ (chars : List Char) (c : Char), (chars.dropWhile isBlank).head? = some c →
      isBlank c = false := by
    intro chars c hhead
    have hnot := List.head?_dropWhile_not isBlank chars
    rw [hhead] at hnot
    simpa using hnot
  refine strip_eq_self (fun c hfirst => ?_) fun c hlast => ?_
  · -- what is dropped from the end leaves the beginning alone
    obtain ⟨blanks, hfront⟩ :=
      List.dropWhile_suffix isBlank (l := (text.toList.dropWhile isBlank).reverse)
    have hchars : text.toList.dropWhile isBlank = (strip text).toList ++ blanks.reverse := by
      rw [hlist, ← List.reverse_append, hfront, List.reverse_reverse]
    apply hsolid text.toList c
    rw [hchars, List.head?_append, hfirst, Option.some_or]
  · rw [hlist, List.getLast?_reverse] at hlast
    exact hsolid _ c hlast

/-! ### Tables written over others -/

namespace Table

variable {α : Type}

/-- The entries of a table, with the values that a fresh one has for their names. -/
def overwritten (table fresh : Table α) : Table α :=
  table.map fun entry => (entry.1, (fresh.get? entry.1).getD entry.2)

/-- The table after the entries of a fresh one are written into it. -/
def overlay (table fresh : Table α) : Table α :=
  table.overwritten fresh ++ fresh.filter (·.1 ∉ table.names)

theorem overlay_nil (table : Table α) : table.overlay [] = table := by
  simp [overlay, overwritten]

theorem nil_overlay (fresh : Table α) : overlay [] fresh = fresh := by
  simp [overlay, overwritten, names]

theorem names_overwritten (table fresh : Table α) :
    (table.overwritten fresh).names = table.names := by
  simp [names, overwritten, Function.comp_def]

theorem overwritten_cons (name : String) (old : α) (rest fresh : Table α) :
    overwritten ((name, old) :: rest) fresh =
      (name, (fresh.get? name).getD old) :: rest.overwritten fresh := rfl

theorem overwritten_congr {table fresh other : Table α}
    (hsame : ∀ name ∈ table.names, fresh.get? name = other.get? name) :
    table.overwritten fresh = table.overwritten other := by
  refine List.map_congr_left fun entry hentry => ?_
  rw [hsame entry.1 (List.mem_map_of_mem hentry)]

/-- Entries that are all written again leave nothing of the old ones. -/
theorem overwritten_of_names {table fresh : Table α} (hnames : table.names = fresh.names)
    (hnodup : fresh.names.Nodup) : table.overwritten fresh = fresh := by
  induction table generalizing fresh with
  | nil =>
      cases fresh with
      | nil => rfl
      | cons => cases hnames
  | cons entry rest ih =>
      cases fresh with
      | nil => cases hnames
      | cons first others =>
          obtain ⟨name, old⟩ := entry
          obtain ⟨other, value⟩ := first
          obtain ⟨hname, hrest⟩ := List.cons.inj hnames
          obtain rfl : name = other := hname
          obtain ⟨hhead, hnodup⟩ := List.nodup_cons.mp hnodup
          have hother : overwritten rest ((name, value) :: others) = overwritten rest others := by
            refine overwritten_congr fun later hlater => ?_
            rw [get?_cons, if_neg]
            rintro rfl
            exact hhead (hrest ▸ hlater)
          rw [overwritten_cons, hother, ih hrest hnodup, get?_cons, if_pos rfl, Option.getD_some]

theorem overlay_of_names {table fresh : Table α} (hnames : table.names = fresh.names)
    (hnodup : fresh.names.Nodup) : table.overlay fresh = fresh := by
  have hfilter : fresh.filter (·.1 ∉ table.names) = [] := by
    rw [List.filter_eq_nil_iff, hnames]
    intro entry hentry
    have hmem : entry.1 ∈ fresh.names := List.mem_map_of_mem hentry
    simp [hmem]
  rw [overlay, overwritten_of_names hnames hnodup, hfilter, List.append_nil]

theorem overwritten_insert_of_not_mem {table : Table α} {name : String}
    (hmem : name ∉ table.names) (fresh : Table α) (value : α) :
    table.overwritten (fresh.insert name value) = table.overwritten fresh := by
  refine overwritten_congr fun other hother => get?_insert_of_ne fresh value ?_
  rintro rfl
  exact hmem hother

theorem overwritten_insert {table : Table α} (hnodup : table.names.Nodup) (fresh : Table α)
    {name : String} (hmem : name ∈ table.names) (value : α) :
    table.overwritten (fresh.insert name value) =
      (table.overwritten fresh).insert name value := by
  induction table with
  | nil => cases hmem
  | cons entry rest ih =>
      obtain ⟨other, old⟩ := entry
      obtain ⟨hhead, hrest⟩ := List.nodup_cons.mp hnodup
      rw [overwritten_cons, overwritten_cons, insert, get?_insert]
      by_cases heq : other = name
      · subst heq
        rw [if_pos rfl, if_pos rfl, Option.getD_some, overwritten_insert_of_not_mem hhead]
      · have hlater := (List.mem_cons.mp hmem).resolve_left (Ne.symm heq)
        rw [if_neg heq, if_neg heq, ih hrest hlater]

theorem filter_insert (keep : String → Bool) (table : Table α) (name : String) (value : α) :
    (table.insert name value).filter (keep ·.1) =
      if keep name then insert (table.filter (keep ·.1)) name value
      else table.filter (keep ·.1) := by
  induction table with
  | nil => simp [insert, List.filter_cons]
  | cons entry rest ih =>
      obtain ⟨other, old⟩ := entry
      by_cases heq : other = name
      · subst heq
        cases hkeep : keep other <;> simp [insert, hkeep]
      · rw [insert, if_neg heq, List.filter_cons, ih, List.filter_cons]
        cases hkeep : keep name <;> cases keep other <;> simp [insert, heq]

theorem insert_append_of_mem {table : Table α} {name : String} (hmem : name ∈ table.names)
    (others : Table α) (value : α) :
    insert (table ++ others) name value = table.insert name value ++ others := by
  induction table with
  | nil => cases hmem
  | cons entry rest ih =>
      obtain ⟨other, old⟩ := entry
      by_cases heq : other = name
      · simp [insert, heq]
      · have hrest := (List.mem_cons.mp hmem).resolve_left (Ne.symm heq)
        simp [insert, heq, ih hrest]

theorem insert_append_of_not_mem {table : Table α} {name : String} (hmem : name ∉ table.names)
    (others : Table α) (value : α) :
    insert (table ++ others) name value = table ++ insert others name value := by
  induction table with
  | nil => rfl
  | cons entry rest ih =>
      obtain ⟨other, old⟩ := entry
      obtain ⟨hne, hrest⟩ := not_or.mp (fun hor => hmem (List.mem_cons.mpr hor))
      simp [insert, Ne.symm hne, ih hrest]

/-- Two changes of one table have the changes of one value under a name. -/
theorem exists_of_get?_mapValues {table : Table α} {change other : α → α} {name : String}
    {left right : α} (hleft : (table.mapValues change).get? name = some left)
    (hright : (table.mapValues other).get? name = some right) :
    ∃ value, change value = left ∧ other value = right := by
  rw [get?_mapValues, Option.map_eq_some_iff] at hleft hright
  obtain ⟨value, hvalue, hchange⟩ := hleft
  obtain ⟨same, hsame, hother⟩ := hright
  cases hvalue.symm.trans hsame
  exact ⟨value, hchange, hother⟩

/-- A name that is there keeps its place, and every other one goes to the end. -/
theorem overlay_insert {table : Table α} (hnodup : table.names.Nodup) (fresh : Table α)
    (name : String) (value : α) :
    table.overlay (fresh.insert name value) = (table.overlay fresh).insert name value := by
  unfold overlay
  rw [filter_insert (· ∉ table.names)]
  by_cases hmem : name ∈ table.names
  · rw [insert_append_of_mem (names_overwritten table fresh ▸ hmem),
      overwritten_insert hnodup fresh hmem, if_neg (by simpa using hmem)]
  · rw [insert_append_of_not_mem (names_overwritten table fresh ▸ hmem),
      overwritten_insert_of_not_mem hmem, if_pos (by simpa using hmem)]

end Table

/-! ### Machines written over others -/

def Switch.behind (base : Heap) (switch : Switch) : Switch :=
  { switch with first := switch.first.behind base }

def DataArray.behind (base : Heap) (data : DataArray) : DataArray :=
  ⟨data.width.behind base, base.sequences.size + data.elements⟩

namespace Machine

/-- The machine after the declarations of another one are written into it, in a store behind its
own. -/
def overlay (base declared : Machine) : Machine :=
  { base with
    heap := base.heap.append declared.heap
    labels := base.labels.overlay declared.labels
    catchBlocks := base.catchBlocks ++ declared.catchBlocks
    switches := base.switches.overlay (declared.switches.mapValues (Switch.behind base.heap))
    arrays := base.arrays.overlay (declared.arrays.mapValues (DataArray.behind base.heap)) }

/-- No name stands twice in a table. -/
structure Distinct (machine : Machine) : Prop where
  labels : machine.labels.names.Nodup
  switches : machine.switches.names.Nodup
  arrays : machine.arrays.names.Nodup

theorem overlay_new (base : Machine) : base.overlay {} = base := by
  simp [overlay, Heap.append_empty, Table.mapValues, Table.overlay_nil]

end Machine

namespace Listing

/-- Contents in a store behind another one. -/
def Contents.behind {α : Type} (change : α → α) (base : Heap) (contents : Contents α) :
    Contents α :=
  ⟨change contents.value, base.append contents.heap, contents.last⟩

theorem readCases_append (base heap : Heap) (switch : Switch) (index : Nat)
    (following : List String) :
    readCases (base.append heap) (switch.behind base) index following =
      (readCases heap switch index following).map (Contents.behind (Switch.behind base) base) := by
  induction following generalizing heap switch index with
  | nil => rfl
  | cons line rest ih =>
      unfold readCases
      split
      · rw [Expr.readLiteral_append]
        cases Expr.readLiteral heap (firstWord line) with
        | error cause => rfl
        | ok made => exact ih made.2 { switch with first := made.1 } (index + 1)
      · split
        · exact ih heap { switch with cases := switch.cases ++ [line] } (index + 1)
        · split <;> rfl

theorem readElements_append (base heap : Heap) (width : Value) (elements : List Value)
    (index : Nat) (following : List String) :
    readElements (base.append heap) (width.behind base) (elements.map (Value.behind base)) index
        following =
      (readElements heap width elements index following).map
        (Contents.behind (Prod.map (Value.behind base) (List.map (Value.behind base))) base) := by
  induction following generalizing heap width elements index with
  | nil => rfl
  | cons line rest ih =>
      unfold readElements
      split
      · rw [Expr.readLiteral_append]
        cases Expr.readLiteral heap (firstWord line) with
        | error cause => rfl
        | ok made => exact ih made.2 made.1 elements (index + 1)
      · split
        · rfl
        · rw [Expr.readLiteral_append]
          cases Expr.readLiteral heap line with
          | error cause => rfl
          | ok made =>
              have hrest := ih made.2 width (elements ++ [made.1]) (index + 1)
              rw [List.map_append] at hrest
              exact hrest

variable {base : Machine} (hdistinct : base.Distinct) (declared : Machine)

include hdistinct

theorem declareSwitch_overlay (index : Nat) (line : String) (following : List String) :
    declareSwitch (base.overlay declared) index line following =
      (declareSwitch declared index line following).map (Prod.map base.overlay id) := by
  have hcases : readCases (base.overlay declared).heap ⟨.int 0, []⟩ (index + 1) following = _ :=
    readCases_append base.heap declared.heap ⟨.int 0, []⟩ (index + 1) following
  unfold declareSwitch
  rw [hcases]
  cases readCases declared.heap ⟨.int 0, []⟩ (index + 1) following with
  | error halt => rfl
  | ok contents =>
      have hinsert := Table.overlay_insert hdistinct.switches
        (declared.switches.mapValues (Switch.behind base.heap)) line
        (contents.value.behind base.heap)
      rw [← Table.mapValues_insert] at hinsert
      simp [Except.map, bind, Except.bind, pure, Except.pure, Contents.behind, Machine.overlay,
        hinsert]

theorem declareArray_overlay (index : Nat) (line : String) (following : List String) :
    declareArray (base.overlay declared) index line following =
      (declareArray declared index line following).map (Prod.map base.overlay id) := by
  have helements : readElements (base.overlay declared).heap (.int 0) [] (index + 1) following = _ :=
    readElements_append base.heap declared.heap (.int 0) [] (index + 1) following
  unfold declareArray
  rw [helements]
  cases readElements declared.heap (.int 0) [] (index + 1) following with
  | error cause => rfl
  | ok contents =>
      have halloc : (base.heap.append contents.heap).alloc
          (contents.value.2.map (Value.behind base.heap)) =
            (base.heap.sequences.size + contents.heap.sequences.size,
              base.heap.append (contents.heap.alloc contents.value.2).2) := by
        simp [Heap.alloc, Heap.append]
      have hinsert := Table.overlay_insert hdistinct.arrays
        (declared.arrays.mapValues (DataArray.behind base.heap)) line
        (DataArray.behind base.heap ⟨contents.value.1, contents.heap.sequences.size⟩)
      rw [← Table.mapValues_insert] at hinsert
      simp only [Except.map, bind, Except.bind, pure, Except.pure, Contents.behind,
        Machine.overlay, Prod.map, halloc, id]
      exact congrArg (fun arrays => Except.ok (Machine.mk _ _ _ _ _ arrays _ _ _ _ _ _, _))
        hinsert.symm

/-- A line declares the same on a machine that is written over another one. -/
theorem declare_overlay (index : Nat) (line : String) (following : List String) :
    declare (base.overlay declared) index line following =
      (declare declared index line following).map (Prod.map base.overlay id) := by
  unfold declare
  split
  · split
    · rename_i header _
      cases header with
      | guarded =>
          simp only [declareBlock, declareGuarded]
          cases catchBlock? index line following with
          | error cause => rfl
          | ok block? =>
              simp [bind, Except.bind, pure, Except.pure, liftM, monadLift, MonadLift.monadLift,
                Except.map, Machine.overlay]
      | switch =>
          simp only [declareBlock, declareSwitch_overlay hdistinct]
          cases declareSwitch declared index line following <;> rfl
      | array =>
          simp only [declareBlock, declareArray_overlay hdistinct]
          cases declareArray declared index line following <;> rfl
    · simp [Except.map, Machine.overlay, Table.overlay_insert hdistinct.labels]
  · rfl

theorem scanFrom_overlay (index resume : Nat) (lines : List String) :
    scanFrom (base.overlay declared) index resume lines =
      Prod.map base.overlay id (scanFrom declared index resume lines) := by
  induction lines generalizing declared index resume with
  | nil => rfl
  | cons line rest ih =>
      unfold scanFrom
      split
      · exact ih declared (index + 1) resume
      · rw [declare_overlay hdistinct]
        cases declare declared index line rest with
        | error halt => rfl
        | ok result => exact ih result.1 (index + 1) (result.2.getD index + 1)

/-- What a listing declares on a machine is what it declares on a new one. -/
theorem scan_overlay (lines : List String) :
    scan base lines = Prod.map base.overlay id (scan {} lines) := by
  have hscan := scanFrom_overlay hdistinct {} 0 0 lines
  rwa [Machine.overlay_new] at hscan

end Listing

/-! ### What can be seen of the tables -/

/-- Two values, each in its store, of which the same can be seen. -/
def Value.Alike (heap other : Heap) (value counterpart : Value) : Prop :=
  ∀ depth, heap.viewWithin depth [] value = other.viewWithin depth [] counterpart

theorem Value.alike_behind (base other heap : Heap) (value : Value) :
    Alike (base.append heap) (other.append heap) (value.behind base) (value.behind other) :=
  fun depth => (base.viewWithin_append heap depth [] value).trans
    (other.viewWithin_append heap depth [] value).symm

namespace Machine

/-- Tables of two machines that declare the same: equal labels, and for the same names switches and
constant data that look alike. -/
structure TablesAlike (machine other : Machine) : Prop where
  labels : other.labels = machine.labels
  switch_names : other.switches.names = machine.switches.names
  switches : ∀ name switch counterpart, machine.switches.get? name = some switch →
    other.switches.get? name = some counterpart → counterpart.cases = switch.cases ∧
      Value.Alike machine.heap other.heap switch.first counterpart.first
  array_names : other.arrays.names = machine.arrays.names
  arrays : ∀ name data counterpart, machine.arrays.get? name = some data →
    other.arrays.get? name = some counterpart →
      Value.Alike machine.heap other.heap data.width counterpart.width ∧
        Value.Alike machine.heap other.heap (.list data.elements) (.list counterpart.elements)

/-- A machine has the declarations of another one, with their values behind a store. -/
structure Holds (machine : Machine) (base : Heap) (declared : Machine) : Prop where
  heap : machine.heap = base.append declared.heap
  labels : machine.labels = declared.labels
  switches : machine.switches = declared.switches.mapValues (Switch.behind base)
  arrays : machine.arrays = declared.arrays.mapValues (DataArray.behind base)

variable {machine other declared : Machine} {base otherBase : Heap}

theorem Holds.tablesAlike (hholds : machine.Holds base declared)
    (hother : other.Holds otherBase declared) : machine.TablesAlike other where
  labels := hother.labels.trans hholds.labels.symm
  switch_names := by
    rw [hother.switches, hholds.switches, Table.names_mapValues, Table.names_mapValues]
  switches := by
    intro name switch counterpart hswitch hcounterpart
    rw [hholds.switches] at hswitch
    rw [hother.switches] at hcounterpart
    obtain ⟨source, rfl, rfl⟩ := Table.exists_of_get?_mapValues hswitch hcounterpart
    rw [hholds.heap, hother.heap]
    exact ⟨rfl, Value.alike_behind base otherBase declared.heap source.first⟩
  array_names := by
    rw [hother.arrays, hholds.arrays, Table.names_mapValues, Table.names_mapValues]
  arrays := by
    intro name data counterpart hdata hcounterpart
    rw [hholds.arrays] at hdata
    rw [hother.arrays] at hcounterpart
    obtain ⟨source, rfl, rfl⟩ := Table.exists_of_get?_mapValues hdata hcounterpart
    rw [hholds.heap, hother.heap]
    exact ⟨Value.alike_behind base otherBase declared.heap source.width,
      Value.alike_behind base otherBase declared.heap (.list source.elements)⟩

theorem Holds.distinct (hholds : machine.Holds base declared) (hdistinct : declared.Distinct) :
    machine.Distinct where
  labels := hholds.labels ▸ hdistinct.labels
  switches := by
    rw [hholds.switches, Table.names_mapValues]
    exact hdistinct.switches
  arrays := by
    rw [hholds.arrays, Table.names_mapValues]
    exact hdistinct.arrays

/-- Declarations on a machine that holds nothing but arguments. -/
theorem holds_overlay_load (arguments : Table Datum) (declared : Machine) :
    ((({} : Machine).load arguments).overlay declared).Holds
      (({} : Machine).load arguments).heap declared := by
  have hload := load_frame {} arguments
  refine ⟨rfl, ?_, ?_, ?_⟩ <;> simp only [overlay] <;> rw [hload] <;> exact Table.nil_overlay _

theorem catchBlocks_overlay_load (arguments : Table Datum) (declared : Machine) :
    ((({} : Machine).load arguments).overlay declared).catchBlocks = declared.catchBlocks := by
  simp only [overlay]
  rw [load_frame]
  rfl

/-- The same declarations once more. -/
theorem Holds.overlay (hholds : machine.Holds base declared) (hdistinct : declared.Distinct) :
    (machine.overlay declared).Holds machine.heap declared where
  heap := rfl
  labels := Table.overlay_of_names (congrArg Table.names hholds.labels) hdistinct.labels
  switches := by
    refine Table.overlay_of_names ?_ ?_
    · rw [hholds.switches, Table.names_mapValues, Table.names_mapValues]
    · rw [Table.names_mapValues]
      exact hdistinct.switches
  arrays := by
    refine Table.overlay_of_names ?_ ?_
    · rw [hholds.arrays, Table.names_mapValues, Table.names_mapValues]
    · rw [Table.names_mapValues]
      exact hdistinct.arrays

end Machine

namespace Listing

variable {lines : List String} {declared : Machine}

theorem distinct_of_scan (hscan : scan {} lines = (declared, none)) : declared.Distinct :=
  have htracks := scan_tracks rfl rfl rfl hscan
  ⟨htracks.labels.nodup, htracks.switches.nodup, htracks.arrays.nodup⟩

theorem distinct_load (arguments : Table Datum) : (({} : Machine).load arguments).Distinct := by
  have hload := Machine.load_frame {} arguments
  constructor <;> rw [hload] <;> exact List.nodup_nil

/-- A scan on a machine that holds nothing but arguments. -/
theorem scan_load (arguments : Table Datum) (lines : List String) :
    scan (({} : Machine).load arguments) lines =
      Prod.map (({} : Machine).load arguments).overlay id (scan {} lines) :=
  scan_overlay (distinct_load arguments) lines

end Listing

namespace Emulator

variable {emulator : Emulator} {lines : List String} {arguments : Table Datum} {tracing : Bool}

/-- A listing that can be declared on a machine with arguments can be declared on a new one. -/
theorem scan_of_start_done
    (hdone : (emulator.start lines (({} : Machine).load arguments) tracing).2 = .done ()) :
    ∃ declared, Listing.scan {} (lines.map Text.strip) = (declared, none) := by
  obtain ⟨started, hscan, -⟩ := start_eq_of_done hdone
  rw [Listing.scan_load] at hscan
  generalize Listing.scan {} (lines.map Text.strip) = result at hscan
  obtain ⟨declared, halt⟩ := result
  obtain ⟨-, rfl⟩ := Prod.mk.inj hscan
  exact ⟨declared, rfl⟩

/-- A listing that can be declared on a new machine can be declared with any arguments. -/
theorem start_of_scan_new {declared : Machine} (emulator : Emulator) (arguments : Table Datum)
    (tracing : Bool) (hscan : Listing.scan {} (lines.map Text.strip) = (declared, none)) :
    emulator.start lines (({} : Machine).load arguments) tracing =
      ({ emulator with
          source := some (lines.map Text.strip), steps := 0, tracing := tracing, shared := [],
          machine := (({} : Machine).load arguments).overlay declared }, .done ()) :=
  start_of_scan (by rw [Listing.scan_load, hscan]; rfl)

theorem map_strip_strip (lines : List String) :
    (lines.map Text.strip).map Text.strip = lines.map Text.strip := by
  rw [List.map_map]
  exact List.map_congr_left fun line _ => Text.strip_strip line

/-- **Declaring again.** A listing that was declared on a new machine can be declared there once
more: its lines and labels stay as they are, switches and constant data look the same under the same
names, and every line is guarded by the block that guarded it before. The stripped lines declare the
same on any other new machine. -/
theorem declare_again (emulator : Emulator) (lines : List String) (arguments : Table Datum)
    (tracing : Bool)
    (hdone : (emulator.start lines (({} : Machine).load arguments) tracing).2 = .done ()) :
    let first := (emulator.start lines (({} : Machine).load arguments) tracing).1
    (first.declare.2 = .done () ∧ first.declare.1.source = first.source ∧
      first.machine.TablesAlike first.declare.1.machine ∧
      first.declare.1.machine.catchBlocks =
        first.machine.catchBlocks ++ first.machine.catchBlocks ∧
      ∀ pc, { first.declare.1.machine with pc := pc }.catcher? =
        { first.machine with pc := pc }.catcher?) ∧
    ∀ (other : Emulator) (others : Table Datum) (traced : Bool),
      let elsewhere := other.start (lines.map Text.strip) (({} : Machine).load others) traced
      elsewhere.2 = .done () ∧ elsewhere.1.source = first.source ∧
        first.machine.TablesAlike elsewhere.1.machine ∧
        elsewhere.1.machine.catchBlocks = first.machine.catchBlocks := by
  obtain ⟨declared, hscan⟩ := scan_of_start_done hdone
  have hdistinct := Listing.distinct_of_scan hscan
  have hholds := Machine.holds_overlay_load arguments declared
  have hstripped : Listing.scan {} ((lines.map Text.strip).map Text.strip) = (declared, none) := by
    rw [map_strip_strip, hscan]
  intro first
  have hfirst := congrArg Prod.fst (start_of_scan_new emulator arguments tracing hscan)
  have hagain : first.declare =
      ({ first with machine := first.machine.overlay declared }, .done ()) := by
    have hover := Listing.scan_overlay (hholds.distinct hdistinct) (lines.map Text.strip)
    rw [hscan] at hover
    simp only [first, hfirst, declare, map_strip_strip, hover]
    rfl
  have hmachine : first.machine = (({} : Machine).load arguments).overlay declared :=
    congrArg Emulator.machine hfirst
  have hcatch : first.declare.1.machine.catchBlocks =
      first.machine.catchBlocks ++ first.machine.catchBlocks := by
    rw [hagain, hmachine]
    exact congrArg (_ ++ ·) (Machine.catchBlocks_overlay_load arguments declared).symm
  refine ⟨⟨?_, ?_, ?_, hcatch, fun pc => ?_⟩, fun other others traced => ?_⟩
  · rw [hagain]
  · rw [hagain]
  · rw [hagain, hmachine]
    exact hholds.tablesAlike (hholds.overlay hdistinct)
  · simp only [Machine.catcher?, hcatch, List.find?_append, Option.or_self]
  · intro elsewhere
    have helsewhere := start_of_scan_new other others traced hstripped
    simp only [elsewhere, helsewhere, first, hfirst, map_strip_strip,
      Machine.catchBlocks_overlay_load]
    exact ⟨trivial, trivial, hholds.tablesAlike (Machine.holds_overlay_load others declared), trivial⟩

/-- A guarded block, the cases of a switch, and constant data with a list in it. -/
def declaringListing : List String := [
  " :pswitch_0", ":try_start_0", "return p0 ", ":try_end_0",
  ".catch Ljava/lang/Exception; \x7b:try_start_0 .. :try_end_0\x7d :pswitch_0",
  ":pswitch_data_0", ".packed-switch 1", ":pswitch_0", ".end packed-switch",
  ":array_0", ".array-data 4", "0x10", "  [-2, (3,)]", ".end array-data"]

theorem declare_again_declaringListing :
    let first := (Emulator.start {} declaringListing
      (({} : Machine).load [("p0", .list [.int 5])]) false).1
    first.machine.catchBlocks = [⟨1, 4, some ":pswitch_0"⟩] ∧
      first.declare.1.machine.catchBlocks =
        [⟨1, 4, some ":pswitch_0"⟩, ⟨1, 4, some ":pswitch_0"⟩] ∧
      first.machine.arrays.map (·.2.elements) = [3] ∧
      first.declare.1.machine.arrays.map (·.2.elements) = [6] ∧
      first.machine.TablesAlike first.declare.1.machine := by
  have hfacts : (Emulator.start {} declaringListing
        (({} : Machine).load [("p0", .list [.int 5])]) false).2 = .done () ∧
      (Emulator.start {} declaringListing
        (({} : Machine).load [("p0", .list [.int 5])]) false).1.machine.catchBlocks =
          [⟨1, 4, some ":pswitch_0"⟩] ∧
      (Emulator.start {} declaringListing
        (({} : Machine).load [("p0", .list [.int 5])]) false).1.machine.arrays.map
          (·.2.elements) = [3] ∧
      (Emulator.start {} declaringListing
        (({} : Machine).load [("p0", .list [.int 5])]) false).1.declare.1.machine.arrays.map
          (·.2.elements) = [6] := by
    decide +kernel
  obtain ⟨hdone, hblocks, hplace, hmoved⟩ := hfacts
  obtain ⟨⟨-, -, halike, hcatch, -⟩, -⟩ :=
    declare_again {} declaringListing [("p0", .list [.int 5])] false hdone
  exact ⟨hblocks, by rw [hcatch, hblocks]; rfl, hplace, hmoved, halike⟩

end Emulator

end Dalvik
