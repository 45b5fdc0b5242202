import Dalvik.Proofs.GuardedBlocks
import Dalvik.Proofs.InstructionFrame
import Dalvik.Proofs.IntegerArithmetic
import Dalvik.Proofs.ProgramCounter
import Mathlib.Data.Nat.Find

/-!
# Switches

A switch takes the case at the distance of its value from the first one that the table declares. A
value below the first case or beyond the last takes none, and the program goes on with the next
line.
-/

namespace Dalvik

/-! ### Cases of integers -/

namespace Value

theorem compare_int (heap : Heap) {test : Comparison} (htest : test ≠ .eq ∧ test ≠ .ne)
    (left right : Int) :
    (Value.int left).compare heap test (.int right) =
      .ok (test.holds (Ord.compare left right)) := by
  obtain ⟨fuel, hfuel⟩ : ∃ fuel, depthLimit = fuel + 1 := ⟨_, rfl⟩
  have hordered : orderedWithin heap test depthLimit (.int left) (.int right) =
      .ok (test.holds (Ord.compare left right)) := by
    rw [hfuel]
    rfl
  cases test with
  | eq => exact absurd rfl htest.1
  | ne => exact absurd rfl htest.2
  | _ => exact hordered

theorem compare_lt_int (heap : Heap) (left right : Int) :
    (Value.int left).compare heap .lt (.int right) = .ok (decide (left < right)) := by
  rw [compare_int heap (by decide)]
  congr 1
  rw [Bool.eq_iff_iff, decide_eq_true_iff, Comparison.holds, beq_iff_eq, Std.compare_eq_lt]

theorem compare_ge_int (heap : Heap) (left right : Int) :
    (Value.int left).compare heap .ge (.int right) = .ok (decide (right ≤ left)) := by
  rw [compare_int heap (by decide)]
  congr 1
  rw [Bool.eq_iff_iff, decide_eq_true_iff, Comparison.holds, bne_iff_ne, ne_eq,
    Std.compare_eq_lt, Int.not_lt]

end Value

namespace Instruction

/-- The case at the distance of a value from the first, if there is one. -/
def caseAt? (cases : List String) (first value : Int) : Option String :=
  if first ≤ value then cases[(value - first).toNat]? else none

theorem caseAt?_of_getElem? {cases : List String} {label : String} {place : Nat} (first : Int)
    (hlabel : cases[place]? = some label) : caseAt? cases first (first + place) = some label := by
  have hdistance : (first + place - first).toNat = place := by omega
  rw [caseAt?, if_pos (by omega), hdistance, hlabel]

theorem caseAt?_eq_none {cases : List String} {first value : Int}
    (hrange : value < first ∨ first + cases.length ≤ value) : caseAt? cases first value = none := by
  rw [caseAt?]
  split
  · exact List.getElem?_eq_none (by omega)
  · rfl

theorem caseOf_int (heap : Heap) {switch : Switch} {first : Int}
    (hfirst : switch.first = .int first) (value : Int) :
    caseOf heap (some switch) (.int value) = .ok (caseAt? switch.cases first value) := by
  have hdistance : (Value.int value).operate heap .sub (.int first) =
      .ok (.int (value - first), heap) := rfl
  simp only [caseOf, Option.map_some, Option.getD_some, hfirst, hdistance, bind, Except.bind,
    Value.compare_ge_int, Value.compare_lt_int, decide_eq_true_eq, caseAt?]
  by_cases hbeyond : (switch.cases.length : Int) ≤ value - first
  · have hnone : switch.cases[(value - first).toNat]? = none :=
      List.getElem?_eq_none (by omega)
    rw [if_pos hbeyond, hnone, ite_self]
    rfl
  · rw [if_neg hbeyond]
    by_cases hbelow : value - first < 0
    · rw [if_pos hbelow, if_neg (by omega)]
      rfl
    · have hlt : (value - first).toNat < switch.cases.length := by omega
      have hindex : ((value - first).toNat : Int) = value - first := by omega
      have hitem := Value.itemAt_int .list (List.getElem?_eq_getElem hlt)
      rw [hindex] at hitem
      rw [if_neg hbelow, if_pos (by omega), hitem, List.getElem?_eq_getElem hlt]
      rfl

/-- A switch over an integer goes to its case, or on if there is none. -/
theorem outcome_packedSwitch_int {machine : Machine} {source table : String} {switch : Switch}
    {first value : Int} (hsource : machine.read source = .ok (.int value))
    (hswitch : machine.switches.get? table = some switch) (hfirst : switch.first = .int first) :
    (Instruction.packedSwitch source table).outcome machine =
      match caseAt? switch.cases first value with
      | some label => machine.jumpTo label
      | none => .ok machine := by
  simp only [outcome, hsource, hswitch]
  change ((liftM (caseOf machine.heap (some switch) (.int value)) : Except Halt _) >>= _) = _
  rw [caseOf_int machine.heap hfirst]
  cases caseAt? switch.cases first value <;> rfl

end Instruction

/-! ### Blocks of cases -/

theorem Expr.not_mem_of_integer? {text : String} {value : Int}
    (htext : Expr.integer? text = some value) : ' ' ∉ text.toList := by
  obtain ⟨sign, digits, n, hchars, hdigits, -⟩ := Expr.integer?_eq_some_iff.mp htext
  rw [hchars, List.mem_append, not_or]
  constructor
  · cases sign <;> decide
  · intro hmem
    exact absurd (List.all_eq_true.mp hdigits.plain ' ' hmem) (by decide)

namespace Listing

/-- The only block of a listing with its name: a header outside of other blocks, a directive with
the first case, the cases in order, and the directive that ends them. -/
structure SwitchBlock (lines : List String) (name : String) (index : Nat) (first : String)
    (labels : List String) : Prop where
  opens : Header.switch.opens name = true
  line : lines[index]? = some name
  outside : ¬InBlock lines index
  sole : ∀ other, lines[other]? = some name → ¬InBlock lines other → other = index
  contents : ∃ before after rest, labels = before ++ after ∧
    lines.drop (index + 1) =
      (before ++ (".packed-switch " ++ first) :: after) ++ ".end packed-switch" :: rest
  cases : ∀ label ∈ labels, Text.beginsWith ":pswitch_" label = true

theorem firstWord_directive {first : String} (hfirst : ' ' ∉ first.toList) :
    firstWord (".packed-switch " ++ first) = first := by
  have hpieces : Text.splitAt ' ' (".packed-switch".toList ++ ' ' :: first.toList) =
      [".packed-switch".toList, first.toList] := by
    rw [Text.splitAt_append (by decide), Text.splitAt_of_not_mem hfirst]
  have hchars : (".packed-switch " ++ first).toList =
      ".packed-switch".toList ++ ' ' :: first.toList := by
    rw [String.toList_append]
    rfl
  rw [firstWord, Text.split, hchars, hpieces]
  exact String.ofList_toList

theorem HoldsLiteral.eq_int {heap : Heap} {text : String} {read : Value} {value : Int}
    (hholds : HoldsLiteral heap text read) (htext : Expr.integer? text = some value) :
    read = .int value := by
  obtain ⟨before, after, hread, -⟩ := hholds
  rw [Expr.readLiteral_integer before htext] at hread
  cases hread
  rfl

section Body

variable {before after : List String}

theorem body_of_contents (first : String) (rest : List String)
    (hcases : ∀ label ∈ before ++ after, Text.beginsWith ":pswitch_" label = true) :
    body ".end packed-switch"
        ((before ++ (".packed-switch " ++ first) :: after) ++ ".end packed-switch" :: rest) =
      before ++ (".packed-switch " ++ first) :: after := by
  have hne : ∀ label ∈ before ++ after, label ≠ ".end packed-switch" := by
    rintro label hmem rfl
    exact absurd (hcases _ hmem) (by decide)
  have hdirective : ".packed-switch " ++ first ≠ ".end packed-switch" := by
    intro heq
    have hbegins := Text.beginsWith_append
      (show Text.beginsWith ".packed-switch " ".packed-switch " = true by decide) first
    rw [heq] at hbegins
    exact absurd hbegins (by decide)
  have hall : ∀ line ∈ before ++ (".packed-switch " ++ first) :: after,
      decide (line ≠ ".end packed-switch") = true := by
    intro line hmem
    rw [decide_eq_true_iff]
    rcases List.mem_append.mp hmem with hbefore | hafter
    · exact hne line (List.mem_append_left after hbefore)
    · rcases List.mem_cons.mp hafter with rfl | hafter
      · exact hdirective
      · exact hne line (List.mem_append_right before hafter)
  rw [body, List.takeWhile_append_of_pos hall, List.takeWhile_cons_of_neg (by simp),
    List.append_nil]

/-- Cases and directive are told apart by how their lines begin. -/
theorem filter_contents (first : String)
    (hcases : ∀ label ∈ before ++ after, Text.beginsWith ":pswitch_" label = true) :
    (before ++ (".packed-switch " ++ first) :: after).filter (Text.beginsWith ":pswitch_") =
        before ++ after ∧
      (before ++ (".packed-switch " ++ first) :: after).filter
        (Text.beginsWith ".packed-switch ") = [".packed-switch " ++ first] := by
  have hdirective : Text.beginsWith ".packed-switch " (".packed-switch " ++ first) = true :=
    Text.beginsWith_append (by decide) first
  have hnoCase : Text.beginsWith ":pswitch_" (".packed-switch " ++ first) = false :=
    Text.beginsWith_eq_false_of_beginsWith hdirective (by decide) (by decide)
  have hnoDirective : ∀ label ∈ before ++ after,
      ¬Text.beginsWith ".packed-switch " label = true := by
    intro label hmem
    rw [Text.beginsWith_eq_false_of_beginsWith (hcases label hmem) (by decide) (by decide)]
    exact Bool.false_ne_true
  rw [List.forall_mem_append] at hcases hnoDirective
  constructor
  · rw [List.filter_append, List.filter_cons_of_neg (by simp [hnoCase]),
      List.filter_eq_self.mpr hcases.1, List.filter_eq_self.mpr hcases.2]
  · rw [List.filter_append, List.filter_cons_of_pos hdirective,
      List.filter_eq_nil_iff.mpr hnoDirective.1, List.filter_eq_nil_iff.mpr hnoDirective.2]
    rfl

end Body

section Declared

variable {lines labels : List String} {name first label : String} {index : Nat} {value : Int}
  {machine : Machine}

/-- The table of a block holds its cases and the integer of its directive. -/
theorem SwitchBlock.switch_eq (hblock : SwitchBlock lines name index first labels)
    (htables : DeclaredTables lines machine) (hfirst : Expr.integer? first = some value) :
    machine.switches.get? name = some ⟨.int value, labels⟩ := by
  have hlast : LastOutside lines name index := by
    refine ⟨hblock.line, hblock.outside, fun other hline hout => ?_⟩
    exact Nat.le_of_eq (hblock.sole other hline hout)
  obtain ⟨switch, hswitch⟩ := Option.isSome_iff_exists.mp
    ((Table.get?_isSome_iff _ _).mpr ((htables.switch_iff name).mpr ⟨hblock.opens, index, hlast⟩))
  have hdeclared := htables.switch_declared name switch index hswitch hlast
  obtain ⟨before, after, rest, rfl, hcontents⟩ := hblock.contents
  rw [hcontents] at hdeclared
  have hbody := body_of_contents first rest hblock.cases
  obtain ⟨hlabels, hdirectives⟩ := filter_contents first hblock.cases
  have hcases : switch.cases = before ++ after := by
    rw [hdeclared.cases_eq, hbody, hlabels]
  have hset : SetByLast machine.heap (.int 0) [".packed-switch " ++ first] switch.first := by
    have hset := hdeclared.first
    rwa [hbody, hdirectives] at hset
  have hholds : HoldsLiteral machine.heap (firstWord (".packed-switch " ++ first)) switch.first :=
    hset
  rw [firstWord_directive (Expr.not_mem_of_integer? hfirst)] at hholds
  have hbegin := hholds.eq_int hfirst
  obtain ⟨begin, cases⟩ := switch
  cases hbegin
  cases hcases
  exact hswitch

theorem exists_lastOutside
    (hoccurs : ∃ other, lines[other]? = some label ∧ ¬InBlock lines other) :
    ∃ target, LastOutside lines label target := by
  classical
  obtain ⟨other, hother⟩ := hoccurs
  have hbound : ∀ place, lines[place]? = some label → place ≤ lines.length := by
    intro place hplace
    exact Nat.le_of_lt (List.getElem?_eq_some_iff.mp hplace).1
  have hfound := Nat.findGreatest_spec
    (P := fun place => lines[place]? = some label ∧ ¬InBlock lines place)
    (hbound other hother.1) hother
  refine ⟨_, hfound.1, hfound.2, fun place hline hout => ?_⟩
  exact Nat.le_findGreatest (hbound place hline) ⟨hline, hout⟩

/-- A case that is no header of a switch is a label. -/
theorem isLabel_of_case (hcase : Text.beginsWith ":pswitch_" label = true)
    (hswitch : Header.switch.opens label = false) : IsLabel label := by
  constructor
  · rw [Text.beginsWith_iff] at hcase ⊢
    exact List.IsPrefix.trans (by decide) hcase
  · intro header
    cases header with
    | switch => exact hswitch
    | guarded => exact Text.beginsWith_eq_false_of_beginsWith hcase (by decide) (by decide)
    | array => exact Text.beginsWith_eq_false_of_beginsWith hcase (by decide) (by decide)

end Declared

/-- Where every block before a line has ended, the line lies in none. -/
theorem not_inBlock {lines : List String} {index : Nat}
    (hended : ∀ start < index, ∀ last ∈ closing? lines start, last < index) :
    ¬InBlock lines index := by
  rw [inBlock_iff]
  rintro ⟨start, hstart, -, last, hlast, hle⟩
  have hlt := hended start hstart last hlast
  omega

theorem lastOutside_of_entries {lines : List String} {name : String} {index : Nat}
    (hline : lines[index]? = some name)
    (hended : ∀ start < index, ∀ last ∈ closing? lines start, last < index)
    (hothers : ∀ entry ∈ lines.zipIdx, entry.1 = name → entry.2 ≤ index) :
    LastOutside lines name index := by
  refine ⟨hline, not_inBlock hended, fun other hother _ => ?_⟩
  exact hothers (_, other) (List.mk_mem_zipIdx_iff_getElem?.mpr hother) rfl

end Listing

/-! ### Switches in a run -/

namespace Emulator

open Listing (SwitchBlock LastOutside InBlock Header)

/-- **Switches.** In every state of a run that is about to switch over an integer by a block that
the listing has once, the program goes on at the last line outside of blocks that reads as the case
at the distance of the integer from the first one. If the integer lies before the first case or
beyond the last, it goes on with the next line. Nothing else in the machine changes. A case that is
itself the header of a switch is excepted, for a header is no label. The texts that the run has
evaluated are self-contained. -/
theorem run_switches_exactly (emulator : Emulator) (lines : List String) (arguments : Table Datum)
    (tracing : Bool) (limit : Nat) (state : Emulator) (line register name first : String)
    (index : Nat) (labels : List String) (start value : Int)
    (hconfined : Confined limit
      (emulator.start lines (({} : Machine).load arguments) tracing).1)
    (hreached : Shared.run emulator lines (({} : Machine).load arguments) tracing limit =
      (state, .outOfSteps))
    (hblock : SwitchBlock (lines.map Text.strip) name index first labels)
    (hfirst : Expr.integer? first = some start)
    (hexecutes : state.Executes line (.packedSwitch register name))
    (hvalue : state.machine.registers.get? register = some (.int value)) :
    (∀ place label, value = start + (place : Nat) → labels[place]? = some label →
      Header.switch.opens label = false →
      (∃ other, (lines.map Text.strip)[other]? = some label ∧
        ¬InBlock (lines.map Text.strip) other) →
      ∃ target, LastOutside (lines.map Text.strip) label target ∧
        (Shared.step state line).1.machine = { state.machine with pc := target } ∧
        (Shared.step state line).2 = .done ()) ∧
    (value < start ∨ start + labels.length ≤ value →
      (Shared.step state line).1.machine = { state.machine with pc := state.machine.pc + 1 } ∧
      (Shared.step state line).2 = .done ()) := by
  rw [hconfined.run_eq] at hreached
  rw [hconfined.step_of_run hreached hexecutes.next]
  obtain ⟨hdone, -, -⟩ := run_eq_outOfSteps hreached
  obtain ⟨declared, hscan, hstart⟩ := start_eq_of_done hdone
  have htables := Listing.scan_declaredTables hscan
  have hsame := (inProgram_of_run hreached).tables
  rw [hstart] at hsame
  have hread : state.advance.machine.read register = .ok (.int value) := by
    simp only [Machine.read, Emulator.advance, hvalue]
  have hswitch : state.advance.machine.switches.get? name = some ⟨.int start, labels⟩ := by
    change state.machine.switches.get? name = _
    rw [hsame.switches]
    exact hblock.switch_eq htables hfirst
  have houtcome := Instruction.outcome_packedSwitch_int hread hswitch rfl
  constructor
  · rintro place label rfl hlabel hheader hoccurs
    obtain ⟨target, hlast⟩ := Listing.exists_lastOutside hoccurs
    have hcase := hblock.cases label (List.mem_of_getElem? hlabel)
    have htarget : state.advance.machine.labels.get? label = some (target : Int) := by
      change state.machine.labels.get? label = _
      rw [hsame.labels]
      exact (htables.label_iff label target).mpr
        ⟨Listing.isLabel_of_case hcase hheader, target, rfl, hlast⟩
    have hjump : state.advance.machine.jumpTo label =
        .ok { state.machine with pc := target } := by
      simp only [Machine.jumpTo, htarget]
      rfl
    rw [Instruction.caseAt?_of_getElem? start hlabel] at houtcome
    exact ⟨target, hlast, hexecutes.step_of_ok (houtcome.trans hjump)⟩
  · intro hrange
    rw [Instruction.caseAt?_eq_none hrange] at houtcome
    exact hexecutes.step_of_ok houtcome

/-- The label of a case stands twice outside of the block and once inside. -/
def switchingListing : List String := [
  "const v0, 0x0", "packed-switch v0, :pswitch_data_0", "return-void", ":pswitch_0",
  ":pswitch_1", "const v0, 0x1", ":pswitch_0", "return-void", ":pswitch_data_0",
  ".packed-switch -0x1", ":pswitch_1", ":pswitch_0", ".end packed-switch"]

theorem strip_switchingListing : switchingListing.map Text.strip = switchingListing := by
  decide +kernel

theorem switchingListing_block :
    SwitchBlock switchingListing ":pswitch_data_0" 8 "-0x1" [":pswitch_1", ":pswitch_0"] where
  opens := by decide
  line := rfl
  outside := Listing.not_inBlock (by decide +kernel)
  sole := by
    have hsole : ∀ entry ∈ switchingListing.zipIdx, entry.1 = ":pswitch_data_0" → entry.2 = 8 := by
      decide +kernel
    intro other hline _
    exact hsole (_, other) (List.mk_mem_zipIdx_iff_getElem?.mpr hline) rfl
  contents := ⟨[], [":pswitch_1", ":pswitch_0"], [], rfl, by decide +kernel⟩
  cases := by decide

def switchingRun : Emulator × Ending Value :=
  Shared.run {} switchingListing (({} : Machine).load []) false 1

/-- The second case is taken, at the last of its labels and not inside of the block. -/
theorem run_switches_exactly_switchingListing :
    switchingRun = (switchingRun.1, .outOfSteps) ∧
      switchingRun.1.Executes "packed-switch v0, :pswitch_data_0"
        (.packedSwitch "v0" ":pswitch_data_0") ∧
      switchingRun.1.machine.registers.get? "v0" = some (.int 0) ∧
      (Shared.step switchingRun.1 "packed-switch v0, :pswitch_data_0").1.machine.pc = 6 ∧
      ∃ target, LastOutside switchingListing ":pswitch_0" target ∧
        (Shared.step switchingRun.1 "packed-switch v0, :pswitch_data_0").1.machine =
          { switchingRun.1.machine with pc := target } ∧
        (Shared.step switchingRun.1 "packed-switch v0, :pswitch_data_0").2 = .done () := by
  have hfacts : (Listing.isPassive "packed-switch v0, :pswitch_data_0" = false ∧
      Instruction.ofLine? "packed-switch v0, :pswitch_data_0" =
        some (.packedSwitch "v0" ":pswitch_data_0")) ∧
      isOutOfSteps switchingRun.2 = true ∧
      switchingRun.1.nextLine? = some "packed-switch v0, :pswitch_data_0" ∧
      switchingRun.1.machine.intAt? "v0" = some 0 ∧
      (Shared.step switchingRun.1 "packed-switch v0, :pswitch_data_0").1.machine.pc = 6 ∧
      Expr.integer? "-0x1" = some (-1) ∧
      Confined 1 (Emulator.start {} switchingListing (({} : Machine).load []) false).1 := by
    decide +kernel
  obtain ⟨⟨hactive, hread⟩, hsteps, hnext, hint, hpc, hfirst, hconfined⟩ := hfacts
  have hvalue := Machine.intAt?_eq_some.mp hint
  have hreached : switchingRun = (switchingRun.1, .outOfSteps) :=
    eq_mk_of_snd_eq (isOutOfSteps_iff.mp hsteps)
  have hexecutes : switchingRun.1.Executes "packed-switch v0, :pswitch_data_0"
      (.packedSwitch "v0" ":pswitch_data_0") :=
    ⟨hnext, hactive, hread⟩
  have hblock : SwitchBlock (switchingListing.map Text.strip) ":pswitch_data_0" 8 "-0x1"
      [":pswitch_1", ":pswitch_0"] := by
    rw [strip_switchingListing]
    exact switchingListing_block
  have hswitches := run_switches_exactly {} switchingListing [] false 1 switchingRun.1 _ _ _ _ _ _ _
    _ hconfined hreached hblock hfirst hexecutes hvalue
  rw [strip_switchingListing] at hswitches
  have htaken := hswitches.1 1 ":pswitch_0" rfl rfl (by decide)
    ⟨3, rfl, Listing.not_inBlock (by decide +kernel)⟩
  exact ⟨hreached, hexecutes, hvalue, hpc, htaken⟩

/-- A switch of which a case is the header of another one. -/
def chainedListing : List String := [
  "packed-switch p0, :pswitch_data_0", "return-void", ":pswitch_data_0", ".packed-switch 0",
  ":pswitch_data_1", ".end packed-switch", ":pswitch_data_1", ".packed-switch 0",
  ".end packed-switch"]

def chainedRun : Emulator × Ending Value :=
  Shared.run {} chainedListing (({} : Machine).load [("p0", .int 0)]) false 0

theorem chainedListing_block :
    SwitchBlock chainedListing ":pswitch_data_0" 2 "0" [":pswitch_data_1"] where
  opens := by decide
  line := rfl
  outside := Listing.not_inBlock (by decide +kernel)
  sole := by
    have hsole : ∀ entry ∈ chainedListing.zipIdx, entry.1 = ":pswitch_data_0" → entry.2 = 2 := by
      decide +kernel
    intro other hline _
    exact hsole (_, other) (List.mk_mem_zipIdx_iff_getElem?.mpr hline) rfl
  contents := ⟨[], [":pswitch_data_1"], _, rfl, rfl⟩
  cases := by decide

theorem chainedListing_case : LastOutside chainedListing ":pswitch_data_1" 6 :=
  Listing.lastOutside_of_entries rfl (by decide +kernel) (by decide +kernel)

/-- The case is found, and it stands on a line outside of blocks. The program does not go on
there. -/
theorem chainedListing_misses_case :
    (chainedListing.map Text.strip = chainedListing ∧
      SwitchBlock chainedListing ":pswitch_data_0" 2 "0" [":pswitch_data_1"] ∧
      LastOutside chainedListing ":pswitch_data_1" 6) ∧
    (chainedRun = (chainedRun.1, .outOfSteps) ∧
      chainedRun.1.Executes "packed-switch p0, :pswitch_data_0"
        (.packedSwitch "p0" ":pswitch_data_0") ∧
      chainedRun.1.machine.registers.get? "p0" = some (.int 0)) ∧
    (Shared.step chainedRun.1 "packed-switch p0, :pswitch_data_0").1.machine.pc = 1 ∧
      (Shared.step chainedRun.1 "packed-switch p0, :pswitch_data_0").2 = .exited := by
  have hfacts : chainedListing.map Text.strip = chainedListing ∧
      (Listing.isPassive "packed-switch p0, :pswitch_data_0" = false ∧
        Instruction.ofLine? "packed-switch p0, :pswitch_data_0" =
          some (.packedSwitch "p0" ":pswitch_data_0")) ∧
      isOutOfSteps chainedRun.2 = true ∧
      chainedRun.1.nextLine? = some "packed-switch p0, :pswitch_data_0" ∧
      chainedRun.1.machine.intAt? "p0" = some 0 ∧
      (Shared.step chainedRun.1 "packed-switch p0, :pswitch_data_0").1.machine.pc = 1 ∧
      (Shared.step chainedRun.1 "packed-switch p0, :pswitch_data_0").2 = .exited := by
    decide +kernel
  obtain ⟨hstrip, ⟨hactive, hread⟩, hsteps, hnext, hvalue, hpc, hexited⟩ := hfacts
  exact ⟨⟨hstrip, chainedListing_block, chainedListing_case⟩,
    ⟨eq_mk_of_snd_eq (isOutOfSteps_iff.mp hsteps), ⟨hnext, hactive, hread⟩,
      Machine.intAt?_eq_some.mp hvalue⟩, hpc, hexited⟩

end Emulator

end Dalvik
