import Dalvik.Proofs.ProgramCounter

/-!
# The range of a guarded block

The place in the program has moved on when a fault is raised, and the block extends to the directive
behind its last line. So the handler takes the faults of the lines inside of the block, and also
those of the line right before it. All other faults end the run, with a report unless the fault has
no text.
-/

namespace Dalvik.Emulator

open Listing

/-- The instruction on the line that is run next raises a fault. -/
structure Raises (state : Emulator) (index : Nat) (line : String) (cause : Fault) : Prop where
  pc : state.machine.pc = index
  next : state.nextLine? = some line
  active : isPassive line = false
  raises : ∃ instruction raised, Instruction.ofLine? line = some instruction ∧
    (state.advance.trace line).perform instruction.execute = (raised, .raised cause)

variable {lines : List String} {started : Machine} {state : Emulator} {index first last : Nat}
  {line mark : String} {cause : Fault}

/-- The fault of the next line is kept and handed on; besides, only the place changes. -/
theorem Raises.step_faults (hraises : Raises state index line cause) :
    (state.step line).1.source = state.source ∧
      (state.step line).1.machine =
        { state.machine.keep cause with pc := (state.step line).1.machine.pc } ∧
      HandedOn state.advance cause () (state.step line).1 (state.step line).2 := by
  obtain ⟨instruction, raised, hread, hraised⟩ := hraises.raises
  obtain ⟨after, ending, hstep, hsource, hcourse⟩ := step_of_read state hraises.active hread
  rw [hstep]
  cases hcourse with
  | stays _ _ hnot => exact absurd hraised (hnot _ _)
  | goes _ _ _ hnot => exact absurd hraised (hnot _ _)
  | faults hsame _ hmachine hhanded =>
      cases hsame.symm.trans hraised
      exact ⟨hsource, hmachine, hhanded⟩

theorem isPassive_of_beginsWith (hcolon : Text.beginsWith ":" line = true) :
    isPassive line = true := by
  obtain ⟨rest, hline⟩ := Text.beginsWith_iff.mp hcolon
  have hchars : line.toList = ':' :: rest := hline.symm
  simp [isPassive, hchars]

theorem Raises.pc_advance (hraises : Raises state index line cause) :
    state.advance.machine.pc = index + 1 := by
  rw [← hraises.pc]
  rfl

theorem Raises.getElem?_eq (hraises : Raises state index line cause)
    (hin : InProgram lines started state) : lines[index]? = some line := by
  obtain ⟨place, hplace, hline⟩ := hin.onLine_of_nextLine? hraises.next
  rw [hraises.pc, Int.natCast_inj] at hplace
  rw [hplace, hline]

/-- The line of a fault does not begin with a colon. -/
theorem Raises.index_ne (hraises : Raises state index line cause)
    (hin : InProgram lines started state) {place : Nat} {text : String}
    (hplace : lines[place]? = some text) (hcolon : Text.beginsWith ":" text = true) :
    index ≠ place := by
  rintro rfl
  cases (hraises.getElem?_eq hin).symm.trans hplace
  cases hraises.active.symm.trans (isPassive_of_beginsWith hcolon)

/-- A block that is closed on the line before its directive takes the faults of the lines inside of
it, and of the line right before it. -/
theorem Raises.takes_iff (hraises : Raises state index line cause)
    (hin : InProgram lines started state) (block : GuardedBlock lines)
    (hcloses : lines[block.last - 1]? = some (":try_end_" ++ block.mark)) :
    Machine.covers block.catchBlock state.advance.machine.pc = true ↔
      index + 1 = block.first ∨ block.first < index ∧ index < block.last - 1 := by
  have hfirst := hraises.index_ne hin block.opens (Text.beginsWith_append (by decide) block.mark)
  have hlast := hraises.index_ne hin hcloses (Text.beginsWith_append (by decide) block.mark)
  have hlt := block.first_lt
  simp only [Machine.covers, GuardedBlock.catchBlock, hraises.pc_advance, Bool.and_eq_true,
    decide_eq_true_eq]
  omega

theorem Raises.covers_iff (hraises : Raises state index line cause)
    (hin : InProgram lines started state) (sole : SoleBlock lines mark first last) :
    Machine.covers sole.catchBlock state.advance.machine.pc = true ↔
      index + 1 = first ∨ first < index ∧ index < last :=
  hraises.takes_iff hin sole.block sole.closes

/-- The report on a fault of the next line shows that line. -/
theorem Raises.lineAt_eq (hraises : Raises state index line cause)
    (hin : InProgram lines started state) :
    state.advance.lineAt (state.advance.machine.pc - 1) = .ok line := by
  have hpc : state.advance.machine.pc - 1 = index := by
    rw [hraises.pc_advance, Int.add_sub_cancel]
  rw [hpc]
  exact lineAt_of_getElem? hin.source (hraises.getElem?_eq hin)

/-- The fault of a line goes to the handler of the only block if the block takes it, and out of the
program otherwise. -/
theorem Raises.step_cases (hraises : Raises state index line cause)
    (hin : InProgram lines started state) (sole : SoleBlock lines mark first last)
    (hblocks : state.machine.catchBlocks = [sole.catchBlock]) {target : Int}
    (htarget : state.machine.labels.get? sole.spelling.handler = some target) :
    (index + 1 = first ∨ first < index ∧ index < last) ∧
        (state.step line).1.machine.pc = target ∧ (state.step line).2 = .done () ∨
      ¬(index + 1 = first ∨ first < index ∧ index < last) ∧
        ((∃ text shown, cause.text = .ok text ∧ (state.step line).2 = .exited ∧
          (state.step line).1.output =
            shown ++ ("Unhandled exception '" ++ text ++ "'." ++ "\n")) ∨
        ∃ obstacle, cause.text = .error obstacle ∧ (state.step line).2 = .raised obstacle) := by
  have hcovers := hraises.covers_iff hin sole
  have hcatcher : state.advance.machine.catcher? =
      [sole.catchBlock].find? (Machine.covers · state.advance.machine.pc) := by
    rw [← hblocks]
    rfl
  have hhanded := hraises.step_faults.2.2
  generalize state.step line = result at hhanded ⊢
  obtain ⟨after, ending⟩ := result
  -- the block catches the fault or nothing does, which rules out the other ways to hand it on
  by_cases hguarded : index + 1 = first ∨ first < index ∧ index < last
  · have hsome : state.advance.machine.catcher? = some sole.catchBlock := by
      rw [hcatcher, List.find?_singleton, if_pos (hcovers.mpr hguarded)]
    left
    cases hhanded with
    | caught hblock hlabel hfound hpc =>
        cases hblock.symm.trans hsome
        cases hlabel
        exact ⟨hguarded, hpc.trans (Option.some.inj (hfound.symm.trans htarget)), rfl⟩
    | astray hblock hlabel =>
        cases hblock.symm.trans hsome
        cases (hlabel _ rfl).symm.trans htarget
    | unhandled hblock => cases hblock.symm.trans hsome
    | unreported hblock => cases hblock.symm.trans hsome
    | untold hblock => cases hblock.symm.trans hsome
  · have hnone : state.advance.machine.catcher? = none := by
      rw [hcatcher, List.find?_singleton, if_neg (mt hcovers.mp hguarded)]
    right
    cases hhanded with
    | caught hblock => cases hblock.symm.trans hnone
    | astray hblock => cases hblock.symm.trans hnone
    | unhandled _ _ htext _ houtput => exact ⟨hguarded, Or.inl ⟨_, _, htext, rfl, houtput⟩⟩
    | unreported _ _ hline => cases hline.symm.trans (hraises.lineAt_eq hin)
    | untold _ _ htext => exact ⟨hguarded, Or.inr ⟨_, htext, rfl⟩⟩

/-! ### Whole runs -/

variable {emulator : Emulator} {arguments : Table Datum} {tracing : Bool} {limit : Nat}

theorem catchBlocks_of_run
    (hreached : emulator.run lines (({} : Machine).load arguments) tracing limit =
      (state, .outOfSteps))
    (sole : SoleBlock (lines.map Text.strip) mark first last) :
    state.machine.catchBlocks = [sole.catchBlock] := by
  obtain ⟨hdone, -⟩ := run_eq_outOfSteps hreached
  obtain ⟨declared, hscan, hstart⟩ := start_eq_of_done hdone
  have hload := Machine.load_frame {} arguments
  rw [(inProgram_of_run hreached).tables.catchBlocks, hstart]
  exact sole.scan_catchBlocks (by rw [hload]) hscan

/-- In a listing with one guarded block, the fault of a line is handed to the handler exactly if the
line lies in the block or right before it. The run goes on from there. All other faults end the run:
they are reported by their text, or what stands in the way of the text is let out. The texts that
the run evaluates are self-contained. -/
theorem run_guards_exactly (emulator : Emulator) (lines : List String) (arguments : Table Datum)
    (tracing : Bool) (limit : Nat) (state : Emulator) (mark : String) (first last index : Nat)
    (target : Int) (line : String) (cause : Fault)
    (hconfined : ∀ steps, Confined steps
      (emulator.start lines (({} : Machine).load arguments) tracing).1)
    (hreached : Shared.run emulator lines (({} : Machine).load arguments) tracing limit =
      (state, .outOfSteps))
    (sole : SoleBlock (lines.map Text.strip) mark first last)
    (htarget : state.machine.labels.get? sole.spelling.handler = some target)
    (hraises : Raises state index line cause) :
    ((Shared.step state line).1.machine.pc = target ∧ (Shared.step state line).2 = .done () ↔
        index + 1 = first ∨ first < index ∧ index < last) ∧
      ∀ more, if index + 1 = first ∨ first < index ∧ index < last then
          Shared.run emulator lines (({} : Machine).load arguments) tracing (limit + (more + 1)) =
            Shared.runFor more (Shared.step state line).1
        else
          (∀ text, cause.text = .ok text → ∃ shown after, after.output =
              shown ++ ("Unhandled exception '" ++ text ++ "'." ++ "\n") ∧
            Shared.run emulator lines (({} : Machine).load arguments) tracing
              (limit + (more + 1)) = (after, .exited)) ∧
          ∀ obstacle, cause.text = .error obstacle → ∃ after,
            Shared.run emulator lines (({} : Machine).load arguments) tracing
              (limit + (more + 1)) = (after, .raised obstacle) := by
  rw [(hconfined limit).run_eq] at hreached
  have hself := keepsToItself_of_run hconfined hreached
  obtain ⟨-, -, hmore⟩ := run_eq_outOfSteps hreached
  simp only [fun more => (hconfined (limit + (more + 1))).run_eq, hself.step_eq hraises.next]
  rcases hraises.step_cases (inProgram_of_run hreached) sole
      (catchBlocks_of_run hreached sole) htarget with
    ⟨hguarded, hpc, hdone⟩ | ⟨hguarded, ⟨text, shown, htext, hexited, houtput⟩ |
      ⟨obstacle, htext, hraised⟩⟩
  · refine ⟨iff_of_true ⟨hpc, hdone⟩ hguarded, fun more => ?_⟩
    rw [if_pos hguarded, hmore, runFor_of_done hraises.next hdone,
      (hself.step hraises.next hdone).runFor_eq]
  · refine ⟨iff_of_false ?_ hguarded, fun more => ?_⟩
    · rintro ⟨-, hdone⟩
      cases hexited.symm.trans hdone
    · rw [if_neg hguarded]
      refine ⟨fun other hother => ?_, fun obstacle hobstacle => ?_⟩
      · cases htext.symm.trans hother
        refine ⟨shown, (state.step line).1, houtput, ?_⟩
        rw [hmore, runFor_of_exited hraises.next hexited]
      · cases htext.symm.trans hobstacle
  · refine ⟨iff_of_false ?_ hguarded, fun more => ?_⟩
    · rintro ⟨-, hdone⟩
      cases hraised.symm.trans hdone
    · rw [if_neg hguarded]
      refine ⟨fun text hother => ?_, fun other hobstacle => ?_⟩
      · cases htext.symm.trans hother
      · cases htext.symm.trans hobstacle
        refine ⟨(state.step line).1, ?_⟩
        rw [hmore, runFor_of_raised hraises.next hraised]

/-- Items are taken before, inside and behind a guarded block. -/
def guardedListing : List String := [
  "aget v0, p0, p1", ":try_start_0", "aget v0, p0, p2", ":try_end_0",
  ".catch Ljava/lang/Exception; \x7b:try_start_0 .. :try_end_0\x7d :caught",
  "aget v0, p0, p3", ":caught", "return-void"]

theorem strip_guardedListing : guardedListing.map Text.strip = guardedListing := by
  decide +kernel

def guardedListing_sole : SoleBlock (guardedListing.map Text.strip) "0" 1 3 where
  mark_letters := Text.forall_mem_of_all (by decide)
  opens := by rw [strip_guardedListing]; rfl
  closes := by rw [strip_guardedListing]; rfl
  first_lt := by decide
  directive := ".catch Ljava/lang/Exception; \x7b:try_start_0 .. :try_end_0\x7d :caught"
  directive_line := by rw [strip_guardedListing]; rfl
  spelling := {
    kind := "Ljava/lang/Exception;".toList
    gap := " .. ".toList
    blanks := [' ']
    name := "caught".toList
    rest := []
    line_eq := by decide +kernel
    kind_ne := by decide
    kind_solid := Text.forall_mem_of_all (by decide)
    gap_ne := by decide
    gap_chars := Text.forall_mem_of_all (by decide)
    blanks_blank := Text.forall_mem_of_all (by decide)
    name_ne := by decide
    name_inLine := Text.forall_mem_of_all (by decide)
    rest_head := fun _ hhead => nomatch hhead }
  only_directive := by
    have hdirectives : ∀ entry ∈ guardedListing.zipIdx,
        Text.beginsWith ".catch " entry.1 = true → entry.2 = 4 := by
      decide +kernel
    intro index line hline hne
    rw [strip_guardedListing] at hline
    refine ⟨fun spelling => hne ?_⟩
    exact hdirectives (line, index) (List.mk_mem_zipIdx_iff_getElem?.mpr hline) spelling.beginsWith
  only_block := by
    have hblocks : ∀ entry ∈ guardedListing.zipIdx,
        Header.guarded.opens entry.1 = true → entry.2 = 1 := by
      decide +kernel
    intro index line hline
    rw [strip_guardedListing] at hline
    exact hblocks (line, index) (List.mk_mem_zipIdx_iff_getElem?.mpr hline)

def guardedRun (arguments : Table Datum) (limit : Nat) : Emulator × Ending Value :=
  Shared.run {} guardedListing (({} : Machine).load arguments) false limit

/-- What is evaluated to see that a run of the listing comes to a line that raises a fault. -/
abbrev RaisesAt (arguments : Table Datum) (limit index : Nat) (line : String)
    (instruction : Instruction) (cause : Fault) : Prop :=
  (EndsConfined 9 (Emulator.start {} guardedListing (({} : Machine).load arguments) false).1 ∧
      isPassive line = false ∧ Instruction.ofLine? line = some instruction) ∧
    isOutOfSteps (guardedRun arguments limit).2 = true ∧
    (guardedRun arguments limit).1.machine.labels.get? guardedListing_sole.spelling.handler =
      some 6 ∧
    (guardedRun arguments limit).1.machine.pc = index ∧
    (guardedRun arguments limit).1.nextLine? = some line ∧
    (((guardedRun arguments limit).1.advance.trace line).perform instruction.execute).2 =
      .raised cause

theorem RaisesAt.reached {instruction : Instruction}
    (hraises : RaisesAt arguments limit index line instruction cause) :
    guardedRun arguments limit = ((guardedRun arguments limit).1, .outOfSteps) :=
  eq_mk_of_snd_eq (isOutOfSteps_iff.mp hraises.2.1)

theorem RaisesAt.raises {instruction : Instruction}
    (hraises : RaisesAt arguments limit index line instruction cause) :
    Raises (guardedRun arguments limit).1 index line cause := by
  obtain ⟨⟨-, hactive, hread⟩, -, -, hpc, hnext, hraised⟩ := hraises
  exact ⟨hpc, hnext, hactive, instruction, _, hread, eq_mk_of_snd_eq hraised⟩

/-- The second item is missing inside of the block, the third one behind it. -/
theorem run_guards_exactly_guardedListing :
    (∃ inside, guardedRun [("p0", .list [.int 7]), ("p1", .int 0)] 2 = (inside, .outOfSteps) ∧
      Raises inside 2 "aget v0, p0, p2" (.missing "'p2'") ∧
      (Shared.step inside "aget v0, p0, p2").1.machine.pc = 6 ∧
      (Shared.step inside "aget v0, p0, p2").2 = .done ()) ∧
    ∃ behind, guardedRun [("p0", .list [.int 7]), ("p1", .int 0), ("p2", .int 0)] 5 =
        (behind, .outOfSteps) ∧
      Raises behind 5 "aget v0, p0, p3" (.missing "'p3'") ∧
      ∀ more, ∃ shown after,
        after.output = shown ++ ("Unhandled exception '" ++ "'p3'" ++ "'." ++ "\n") ∧
        guardedRun [("p0", .list [.int 7]), ("p1", .int 0), ("p2", .int 0)] (5 + (more + 1)) =
          (after, .exited) := by
  have hinside : RaisesAt [("p0", .list [.int 7]), ("p1", .int 0)] 2 2 "aget v0, p0, p2"
      (.arrayGet "v0" "p0" "p2") (.missing "'p2'") := by
    decide +kernel
  have hbehind : RaisesAt [("p0", .list [.int 7]), ("p1", .int 0), ("p2", .int 0)] 5 5
      "aget v0, p0, p3" (.arrayGet "v0" "p0" "p3") (.missing "'p3'") := by
    decide +kernel
  constructor
  · have hguards := run_guards_exactly {} guardedListing _ false 2 _ "0" 1 3 2 6 _ _
      hinside.1.1.confined hinside.reached guardedListing_sole hinside.2.2.1 hinside.raises
    exact ⟨_, hinside.reached, hinside.raises, hguards.1.mpr (by decide)⟩
  · refine ⟨_, hbehind.reached, hbehind.raises, fun more => ?_⟩
    have hguards := run_guards_exactly {} guardedListing _ false 5 _ "0" 1 3 5 6 _ _
      hbehind.1.1.confined hbehind.reached guardedListing_sole hbehind.2.2.1 hbehind.raises
    have hmore := hguards.2 more
    rw [if_neg (by decide)] at hmore
    exact hmore.1 _ rfl

/-- Without arguments, the first line raises a fault. It stands before the block, and its fault is
handed to the handler all the same. -/
theorem guardedListing_takes_fault_before :
    (guardedRun [] 0 = ((guardedRun [] 0).1, .outOfSteps) ∧
      Raises (guardedRun [] 0).1 0 "aget v0, p0, p1" (.missing "'p0'") ∧
      (guardedRun [] 0).1.machine.labels.get? guardedListing_sole.spelling.handler = some 6) ∧
    (Shared.step (guardedRun [] 0).1 "aget v0, p0, p1").1.machine.pc = 6 ∧
      (Shared.step (guardedRun [] 0).1 "aget v0, p0, p1").2 = .done () ∧ ¬(1 < 0 ∧ 0 < 3) := by
  have hfacts : RaisesAt [] 0 0 "aget v0, p0, p1" (.arrayGet "v0" "p0" "p1") (.missing "'p0'") ∧
      (Shared.step (guardedRun [] 0).1 "aget v0, p0, p1").1.machine.pc = 6 ∧
      (Shared.step (guardedRun [] 0).1 "aget v0, p0, p1").2 = .done () := by
    decide +kernel
  obtain ⟨hraises, hpc, hdone⟩ := hfacts
  exact ⟨⟨hraises.reached, hraises.raises, hraises.2.2.1⟩, hpc, hdone, by decide⟩

end Dalvik.Emulator
