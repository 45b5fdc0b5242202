import Dalvik.Emulator.Run
import Dalvik.Proofs.Precision

/-!
# What one line does

A line that is run either does not touch the machine beyond moving on, or executes an instruction.
An instruction stays at its place, goes to the label that it leads to, or has its fault handed on.
Everything about runs is derived from this.
-/

namespace Dalvik.Emulator

variable {emulator before traced after : Emulator} {line : String} {instruction : Instruction}
  {ending : Ending Unit}

/-- What the instruction of a line comes to. -/
inductive Course (before : Emulator) (line : String) (instruction : Instruction)
    (after : Emulator) : Ending Unit → Prop where
  | stays {ending : Ending Unit} (hplace : before.machine.SamePlace after.machine)
      (hdestination : ∀ label index, instruction.destination before.machine = .ok (some label) →
        before.machine.labels.get? label ≠ some index)
      (hraised : ∀ raised cause,
        (before.trace line).perform instruction.execute ≠ (raised, .raised cause)) :
      Course before line instruction after ending
  | goes {label : String} {index : Int}
      (hdestination : instruction.destination before.machine = .ok (some label))
      (hindex : before.machine.labels.get? label = some index)
      (hmachine : after.machine = { before.machine with pc := index })
      (hraised : ∀ raised cause,
        (before.trace line).perform instruction.execute ≠ (raised, .raised cause)) :
      Course before line instruction after (.done ())
  | faults {raised : Emulator} {cause : Fault} {ending : Ending Unit}
      (hraised : (before.trace line).perform instruction.execute = (raised, .raised cause))
      (hdestination : ∀ label index, instruction.destination before.machine = .ok (some label) →
        before.machine.labels.get? label ≠ some index)
      (hmachine : after.machine = { before.machine.keep cause with pc := after.machine.pc })
      (hhanded : HandedOn before cause () after ending) :
      Course before line instruction after ending

/-- Without a fault, an instruction ends as the action that it stands for. -/
theorem execute_of_perform
    (hperform : before.perform instruction.execute = (after, ending))
    (hending : ∀ cause, ending ≠ .raised cause) :
    before.execute instruction = (after, ending) ∧
      ∀ raised cause, before.perform instruction.execute ≠ (raised, .raised cause) := by
  constructor
  · cases ending with
    | raised cause => exact absurd rfl (hending cause)
    | _ => simp only [execute, hperform]
  · intro raised cause hraised
    exact hending cause (congrArg Prod.snd (hperform.symm.trans hraised))

theorem perform_of_fatal (emulator : Emulator) {message : String}
    (hrun : instruction.execute emulator.machine = .error (.fatal message) emulator.machine) :
    emulator.perform instruction.execute = emulator.report message := by
  simp only [perform, hrun]

theorem execute_course (before : Emulator) (line : String) (instruction : Instruction) :
    ∃ after ending, (before.trace line).execute instruction = (after, ending) ∧
      after.source = before.source ∧ Course before line instruction after ending := by
  have hmachine := trace_machine before line
  have hsource := trace_source before line
  have hcases := instruction.execute_cases (before.trace line).machine
  rw [hmachine] at hcases
  rcases hcases with ⟨left, hok, hplace, hnone⟩ | ⟨label, index, hdestination, hindex, hok⟩ |
    ⟨halt, herror, hundefined⟩
  · obtain ⟨hexecute, hraised⟩ :=
      execute_of_perform (perform_of_ok (hmachine ▸ hok)) fun _ heq => nomatch heq
    refine ⟨_, _, hexecute, hsource, .stays hplace ?_ hraised⟩
    exact fun label _ hsome => absurd hsome (hnone label)
  · obtain ⟨hexecute, hraised⟩ :=
      execute_of_perform (perform_of_ok (hmachine ▸ hok)) fun _ heq => nomatch heq
    refine ⟨_, _, hexecute, hsource, .goes hdestination hindex ?_ hraised⟩
    rw [hmachine]
  · have hnowhere : ∀ label index, instruction.destination before.machine = .ok (some label) →
        before.machine.labels.get? label ≠ some index := by
      intro label index hsome
      rw [hundefined label hsome]
      exact fun hfound => nomatch hfound
    -- a fault is raised by the instruction itself, or by the report of what is fatal
    have hfaults : ∀ raised cause,
        (before.trace line).perform instruction.execute = (raised, .raised cause) →
        ∃ after ending, (before.trace line).execute instruction = (after, ending) ∧
          after.source = before.source ∧ Course before line instruction after ending := by
      intro raised cause hraised
      obtain ⟨after, ending, hexecute, hframe, hlines, hhanded⟩ :=
        execute_handedOn hmachine hsource hraised
      exact ⟨after, ending, hexecute, hlines, .faults hraised hnowhere hframe hhanded⟩
    cases halt with
    | fault cause => exact hfaults _ cause (perform_of_fault (hmachine ▸ herror))
    | fatal message =>
        have hperform := perform_of_fatal (before.trace line) (hmachine ▸ herror)
        rcases report_cases (before.trace line) message with ⟨_, shown, -, hreport⟩ |
          ⟨failure, output, -, hreport⟩
        · obtain ⟨hexecute, hraised⟩ :=
            execute_of_perform (hperform.trans hreport) fun _ heq => nomatch heq
          refine ⟨_, _, hexecute, hsource, .stays ?_ hnowhere hraised⟩
          exact hmachine ▸ .refl _
        · exact hfaults _ failure (hperform.trans hreport)

/-- A line with an instruction moves on and executes it. -/
theorem step_of_read (emulator : Emulator) (hactive : Listing.isPassive line = false)
    (hread : Instruction.ofLine? line = some instruction) :
    ∃ after ending, emulator.step line = (after, ending) ∧ after.source = emulator.source ∧
      Course emulator.advance line instruction after ending := by
  obtain ⟨after, ending, hexecute, hsource, hcourse⟩ :=
    execute_course emulator.advance line instruction
  refine ⟨after, ending, ?_, hsource, hcourse⟩
  simp only [step, hactive, executeLine, attempt, hread, hexecute]
  cases ending <;> rfl

/-- A line without an instruction only moves on, and is reported unless it is passive. -/
theorem step_of_not_read (emulator : Emulator)
    (hread : Listing.isPassive line = true ∨ Instruction.ofLine? line = none) :
    ∃ after ending, emulator.step line = (after, ending) ∧ after.source = emulator.source ∧
      after.machine = emulator.advance.machine := by
  cases hpassive : Listing.isPassive line with
  | true => exact ⟨emulator.advance, .done (), by simp [step, hpassive], rfl, rfl⟩
  | false =>
      have hnone : Instruction.ofLine? line = none := hread.resolve_left (by simp [hpassive])
      have hstep : emulator.step line = emulator.advance.report "Unsupported opcode." := by
        simp [step, hpassive, executeLine, attempt, hnone, andThen]
      rw [hstep]
      rcases report_cases (α := Unit) emulator.advance "Unsupported opcode." with
        ⟨_, _, -, hreport⟩ | ⟨_, _, -, hreport⟩
      · exact ⟨_, _, hreport, rfl, rfl⟩
      · exact ⟨_, _, hreport, rfl, rfl⟩

/-- A line moves on and does nothing else, or executes its instruction. -/
theorem step_cases (emulator : Emulator) (line : String) :
    ∃ after ending, emulator.step line = (after, ending) ∧ after.source = emulator.source ∧
      (after.machine = emulator.advance.machine ∨
        ∃ instruction, Listing.isPassive line = false ∧
          Instruction.ofLine? line = some instruction ∧
          Course emulator.advance line instruction after ending) := by
  cases hpassive : Listing.isPassive line with
  | true =>
      obtain ⟨after, ending, hstep, hsource, hmachine⟩ := step_of_not_read emulator (Or.inl hpassive)
      exact ⟨after, ending, hstep, hsource, Or.inl hmachine⟩
  | false =>
      cases hread : Instruction.ofLine? line with
      | none =>
          obtain ⟨after, ending, hstep, hsource, hmachine⟩ := step_of_not_read emulator (Or.inr hread)
          exact ⟨after, ending, hstep, hsource, Or.inl hmachine⟩
      | some instruction =>
          obtain ⟨after, ending, hstep, hsource, hcourse⟩ := step_of_read emulator hpassive hread
          exact ⟨after, ending, hstep, hsource, Or.inr ⟨instruction, rfl, rfl, hcourse⟩⟩

end Dalvik.Emulator
