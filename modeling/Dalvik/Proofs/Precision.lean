import Dalvik.Proofs.Instructions
import Dalvik.Proofs.SelfContained

/-!
# Faults are precise

The fault that stops an instruction leaves no half of its work behind. So a handler finds the
machine as it was before the instruction, with the fault kept behind the older ones.
-/

namespace Dalvik

open Dalvik.Action

namespace Emulator

variable {α β : Type} {emulator before after : Emulator} {cause : Fault}

/-! ### Printing leaves the machine and the listing alone -/

@[simp]
theorem trace_machine (emulator : Emulator) (line : String) :
    (emulator.trace line).machine = emulator.machine := by
  unfold trace
  split <;> rfl

@[simp]
theorem trace_source (emulator : Emulator) (line : String) :
    (emulator.trace line).source = emulator.source := by
  unfold trace
  split <;> rfl

theorem trace_steps (emulator : Emulator) (line : String) :
    (emulator.trace line).steps = emulator.steps := by
  unfold trace
  split <;> rfl

theorem lineAt_congr (hsource : after.source = before.source) (index : Int) :
    after.lineAt index = before.lineAt index := by
  unfold lineAt
  rw [hsource]

theorem print_machine (emulator : Emulator) (text : String) :
    (emulator.print text).machine = emulator.machine := rfl

theorem lineAt_print (emulator : Emulator) (text : String) (index : Int) :
    (emulator.print text).lineAt index = emulator.lineAt index := rfl

/-- A report prints, and leaves the program if there is a line to print. -/
theorem report_cases (emulator : Emulator) (message : String) :
    (∃ line shown, emulator.lineAt (emulator.machine.pc - 1) = .ok line ∧
      (emulator.report message : Emulator × Ending α) =
        ({ emulator with output := shown ++ (message ++ "\n") }, .exited)) ∨
    ∃ failure output, emulator.lineAt (emulator.machine.pc - 1) = .error failure ∧
      (emulator.report message : Emulator × Ending α) =
        ({ emulator with output := output }, .raised failure) := by
  unfold report
  simp only [print_machine, lineAt_print]
  cases emulator.lineAt (emulator.machine.pc - 1) with
  | ok line =>
      let number := lineNumber emulator.machine.pc
      let opened := emulator.print
        ("\n-------------------------\nFatal error on line " ++ number ++ ":\n\n")
      refine Or.inl ⟨line, opened.output ++ ("  " ++ number ++ " " ++ line ++ "\n\n"), rfl, ?_⟩
      simp only [print, String.append_assoc, opened, number]
  | error failure => exact Or.inr ⟨failure, _, rfl, rfl⟩

/-! ### Faults that leave an instruction -/

theorem perform_of_ok {action : Action α} {value : α} {machine : Machine}
    (hrun : action emulator.machine = .ok value machine) :
    emulator.perform action = ({ emulator with machine := machine }, .done value) := by
  simp only [perform, hrun]

theorem perform_of_fault {action : Action α} {machine : Machine}
    (hrun : action emulator.machine = .error (.fault cause) machine) :
    emulator.perform action = ({ emulator with machine := machine }, .raised cause) := by
  simp only [perform, hrun]

/-- An instruction that lets a fault out has not touched the machine, and neither has a report that
could not be made. -/
theorem perform_raised {instruction : Instruction}
    (hraised : before.perform instruction.execute = (after, .raised cause)) :
    after.machine = before.machine ∧ after.source = before.source := by
  unfold perform at hraised
  split at hraised
  · cases hraised
  · rename_i left hrun
    cases hraised
    exact ⟨Instruction.eq_of_execute_eq_error hrun, rfl⟩
  · rename_i message left hrun
    have hleft : left = before.machine := Instruction.eq_of_execute_eq_error hrun
    subst hleft
    rcases report_cases (α := Unit) before message with ⟨line, shown, -, hreport⟩ |
      ⟨failure, output, -, hreport⟩
    · cases hreport.symm.trans hraised
    · cases hreport.symm.trans hraised
      exact ⟨rfl, rfl⟩

/-- Where the fault of an instruction is handed on: `before` is the emulator when the fault is
raised, and `value` what the instruction ends with. -/
inductive HandedOn (before : Emulator) (cause : Fault) (value : α) (after : Emulator) :
    Ending α → Prop where
  /-- To the handler of the first block around the current line. -/
  | caught {block : CatchBlock} {label : String} {index : Int}
      (hblock : before.machine.catcher? = some block) (hlabel : block.handler = some label)
      (hindex : before.machine.labels.get? label = some index) (hpc : after.machine.pc = index) :
      HandedOn before cause value after (.done value)
  /-- To a handler that is nowhere, which is a fault of its own. -/
  | astray {block : CatchBlock} (hblock : before.machine.catcher? = some block)
      (hlabel : ∀ label, block.handler = some label → before.machine.labels.get? label = none)
      (hpc : after.machine.pc = before.machine.pc) :
      HandedOn before cause value after
        (.raised (.missing ((block.handler.map Text.quote).getD "None")))
  /-- Out of the program, with a report on the line that was run last. -/
  | unhandled {line shown text : String} (hblock : before.machine.catcher? = none)
      (hpc : after.machine.pc = before.machine.pc) (htext : cause.text = .ok text)
      (hline : before.lineAt (before.machine.pc - 1) = .ok line)
      (houtput : after.output = shown ++ ("Unhandled exception '" ++ text ++ "'." ++ "\n")) :
      HandedOn before cause value after .exited
  /-- Out of the program; the report stops at a line that is not there. -/
  | unreported {failure : Fault} (hblock : before.machine.catcher? = none)
      (hpc : after.machine.pc = before.machine.pc)
      (hline : before.lineAt (before.machine.pc - 1) = .error failure) :
      HandedOn before cause value after (.raised failure)
  /-- Out of the program; the fault has no text for a report, which is a fault of its own. -/
  | untold {obstacle : Fault} (hblock : before.machine.catcher? = none)
      (hpc : after.machine.pc = before.machine.pc) (htext : cause.text = .error obstacle) :
      HandedOn before cause value after (.raised obstacle)

/-- What throwing does: `raised` is the emulator as the instruction left it. -/
theorem throw_handedOn {raised : Emulator} (hmachine : raised.machine = before.machine)
    (hsource : raised.source = before.source) :
    ∃ after ending, raised.throw cause = (after, ending) ∧
      after.machine = { before.machine.keep cause with pc := after.machine.pc } ∧
      after.source = before.source ∧ HandedOn before cause () after ending := by
  obtain ⟨kept, hkept, hlines, hcaught, htold, huntold⟩ : ∃ kept : Emulator,
      kept.machine = before.machine.keep cause ∧ kept.source = before.source ∧
      (∀ block, before.machine.catcher? = some block →
        raised.throw cause = kept.perform (Action.enter block)) ∧
      (∀ text, before.machine.catcher? = none → cause.text = .ok text →
        raised.throw cause = kept.report ("Unhandled exception '" ++ text ++ "'.")) ∧
      (∀ obstacle, before.machine.catcher? = none → cause.text = .error obstacle →
        raised.throw cause = (kept, .raised obstacle)) := by
    have hcatcher : (raised.machine.keep cause).catcher? = before.machine.catcher? := by
      rw [hmachine]
      rfl
    refine ⟨{ raised with machine := raised.machine.keep cause }, ?_, hsource, ?_, ?_, ?_⟩
    · rw [hmachine]
    · intro block hblock
      simp only [throw, hcatcher, hblock]
    · intro text hblock htext
      simp only [throw, hcatcher, hblock, htext]
    · intro obstacle hblock htext
      simp only [throw, hcatcher, hblock, htext]
  have hpc : kept.machine.pc = before.machine.pc := by rw [hkept]; rfl
  have hframe : kept.machine = { before.machine.keep cause with pc := kept.machine.pc } := by
    rw [hkept]
  -- a block around the place takes the fault; without one it is reported
  cases hblock : before.machine.catcher? with
  | some block =>
      rw [hcaught block hblock]
      rcases enter_cases block kept.machine with ⟨label, index, hlabel, hindex, henter⟩ |
        ⟨hlabel, henter⟩
      · rw [hkept] at hindex
        refine ⟨_, _, perform_of_ok henter, ?_, hlines, .caught hblock hlabel hindex rfl⟩
        rw [hkept]
      · rw [hkept] at hlabel
        exact ⟨_, _, perform_of_fault henter, hframe, hlines, .astray hblock hlabel hpc⟩
  | none =>
      cases htext : cause.text with
      | error obstacle =>
          rw [huntold obstacle hblock htext]
          exact ⟨_, _, rfl, hframe, hlines, .untold hblock hpc htext⟩
      | ok text =>
          rw [htold text hblock htext]
          have hline : kept.lineAt (kept.machine.pc - 1) =
              before.lineAt (before.machine.pc - 1) := by
            rw [hpc, lineAt_congr hlines]
          rcases report_cases (α := Unit) kept ("Unhandled exception '" ++ text ++ "'.") with
            ⟨line, shown, hshown, hreport⟩ | ⟨failure, output, hfailure, hreport⟩
          · exact ⟨_, _, hreport, hframe, hlines,
              .unhandled hblock hpc htext (hline ▸ hshown) rfl⟩
          · exact ⟨_, _, hreport, hframe, hlines, .unreported hblock hpc (hline ▸ hfailure)⟩

/-- Throwing keeps the fault and goes to a handler, and does nothing else to the machine. -/
theorem throw_machine (emulator : Emulator) (cause : Fault) :
    (emulator.throw cause).1.machine =
      { emulator.machine.keep cause with pc := (emulator.throw cause).1.machine.pc } := by
  obtain ⟨after, ending, hthrow, hmachine, -⟩ : ∃ after ending, emulator.throw cause =
      (after, ending) ∧ after.machine = { emulator.machine.keep cause with pc := after.machine.pc } ∧
      after.source = emulator.source ∧ HandedOn emulator cause () after ending :=
    throw_handedOn rfl rfl
  rw [hthrow]
  exact hmachine

/-- An instruction that lets a fault out, also in a report, has its fault thrown on the machine as
it was before. -/
theorem execute_handedOn {traced raised : Emulator} {instruction : Instruction}
    (hmachine : traced.machine = before.machine) (hsource : traced.source = before.source)
    (hraised : traced.perform instruction.execute = (raised, .raised cause)) :
    ∃ after ending, traced.execute instruction = (after, ending) ∧
      after.machine = { before.machine.keep cause with pc := after.machine.pc } ∧
      after.source = before.source ∧ HandedOn before cause () after ending := by
  obtain ⟨hsame, hlines⟩ := perform_raised hraised
  have hexecute : traced.execute instruction = raised.throw cause := by
    simp only [execute, hraised]
  rw [hexecute]
  exact throw_handedOn (hsame.trans hmachine) (hlines.trans hsource)

theorem HandedOn.andThen_done {ending : Ending Unit} (hhanded : HandedOn before cause () after ending)
    (value : α) :
    ∃ last, andThen (after, ending) (fun emulator _ => (emulator, .done value)) = (after, last) ∧
      HandedOn before cause value after last := by
  cases hhanded with
  | caught hblock hlabel hindex hpc => exact ⟨_, rfl, .caught hblock hlabel hindex hpc⟩
  | astray hblock hlabel hpc => exact ⟨_, rfl, .astray hblock hlabel hpc⟩
  | unhandled hblock hpc htext hline houtput =>
      exact ⟨_, rfl, .unhandled hblock hpc htext hline houtput⟩
  | unreported hblock hpc hline => exact ⟨_, rfl, .unreported hblock hpc hline⟩
  | untold hblock hpc htext => exact ⟨_, rfl, .untold hblock hpc htext⟩

/-- As long as none of the emulator's lists is shared, an instruction that lets a fault out leaves
registers, lists, result and tables as they were; the fault is kept behind the older ones, and the
program goes on at the handler of the first block around the current line or is left. A text that
the instruction evaluates is self-contained. -/
theorem executeForm_precise (before : Emulator) (form : Form) (line : String)
    (instruction : Instruction) (raised : Emulator) (cause : Fault)
    (hshared : before.shared = []) (hread : form.read? line = some instruction)
    (hself : instruction.evaluatesSelfContained before.machine = true)
    (hraised : (before.trace line).perform instruction.execute = (raised, .raised cause)) :
    ∃ after ending, Shared.executeForm before form line = (after, ending) ∧
      after.machine = { before.machine with
        pending := before.machine.pending ++ [⟨cause, before.machine.thrownCount⟩]
        thrownCount := before.machine.thrownCount + 1
        pc := after.machine.pc } ∧
      HandedOn before cause true after ending := by
  obtain ⟨after, ending, hexecute, hframe, -, hhanded⟩ :=
    execute_handedOn (trace_machine before line) (trace_source before line) hraised
  obtain ⟨last, hlast, hhanded⟩ := hhanded.andThen_done true
  have hform : Shared.executeForm before form line = (after, last) := by
    rw [Shared.executeForm_eq hshared hread hself]
    simp only [executeForm, attempt, hread, hexecute, hlast]
  exact ⟨after, last, hform, hframe, hhanded⟩

/-- An item is about to be put into a list, in a guarded block, with an older fault still kept. -/
def puttingItem : Emulator where
  machine := {
    registers := [("v0", .list 0), ("v1", .int 1)]
    heap := { sequences := #[[.int 7, .int 8]] }
    labels := [(":caught", 3)]
    catchBlocks := [⟨0, 2, some ":caught"⟩]
    pending := [⟨.emptyPop, 0⟩]
    thrownCount := 1
    pc := 1 }
  source := some ["aput v9, v0, v1", ":try_end_0", "", ":caught"]

theorem executeForm_precise_puttingItem :
    (Form.arrayPut.read? "aput v9, v0, v1" = some (.arrayPut "v9" "v0" "v1") ∧
      (puttingItem.perform (Instruction.arrayPut "v9" "v0" "v1").execute).2 =
        .raised (.missing "'v9'")) ∧
    ∃ after ending,
      Shared.executeForm puttingItem .arrayPut "aput v9, v0, v1" = (after, ending) ∧
      after.machine = { puttingItem.machine with
        pending := [⟨.emptyPop, 0⟩, ⟨.missing "'v9'", 1⟩]
        thrownCount := 2
        pc := after.machine.pc } ∧
      HandedOn puttingItem (.missing "'v9'") true after ending := by
  have hread : Form.arrayPut.read? "aput v9, v0, v1" = some (.arrayPut "v9" "v0" "v1") := by
    decide +kernel
  have hraised : (puttingItem.perform (Instruction.arrayPut "v9" "v0" "v1").execute).2 =
      .raised (.missing "'v9'") := by
    decide +kernel
  exact ⟨⟨hread, hraised⟩, executeForm_precise puttingItem .arrayPut "aput v9, v0, v1" _ _ _ rfl
    hread rfl (Prod.ext rfl hraised)⟩

/-- A table is about to be asked for a number that is too long to be written out, outside of any
guarded block. -/
def askingTable : Emulator where
  machine := {
    registers := [("v0", .dict 0), ("v1", .int (Nat.pow 2 15000 : Nat))]
    heap := { tables := #[[]] }
    pc := 1 }
  source := some ["aget v2, v0, v1"]

/-- The line is there to be reported, but the fault has no text: another fault is let out. -/
theorem askingTable_lets_fault_out :
    Form.arrayGet.read? "aget v2, v0, v1" = some (.arrayGet "v2" "v0" "v1") ∧
      (askingTable.perform (Instruction.arrayGet "v2" "v0" "v1").execute).2 =
        .raised (.missingUnshown .tooLong) ∧
      askingTable.machine.catcher? = none ∧
      askingTable.lineAt (askingTable.machine.pc - 1) = .ok "aget v2, v0, v1" ∧
      (Shared.executeForm askingTable .arrayGet "aget v2, v0, v1").2 =
        .raised .numberTooLong := by
  decide +kernel

end Emulator

end Dalvik
