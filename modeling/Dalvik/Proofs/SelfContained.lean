import Dalvik.Emulator.Shared

/-!
# Self-contained texts

An instruction that evaluates a text may get hold of a list that the emulator goes by. It does not
if the text is self-contained: made of constants, displays and operators, with names that stand for
the texts of the instruction or for nothing. As long as nothing is shared, a line with such a text
is executed as if nothing could be, and nothing is shared behind it either.
-/

namespace Dalvik

/-- Whether a test goes by the values of both sides, and not by whether they are the same object. -/
def Test.comparesValues : Test → Bool
  | .order _ | .inside _ => true
  | .same _ => false

namespace Expr

/-- Self-contained expressions are not nested deeper. -/
def maxDepth : Nat := 100

/-- The name is that of a text of the instruction, or stands for nothing. -/
def isFreeName (word : String) : Bool :=
  word ≠ "vm" && (Scope.standing? word).isNone

/-- Made of constants, displays and operators, with free names, and nested less deep than `depth`.
Sets are left out, for the order of their members is not told by the text. -/
def isSelfContained : Nat → Expr → Bool
  | 0, _ => false
  | depth + 1, expr =>
    match expr with
    | .constant _ => true
    | .name word => isFreeName word
    | .tuple items | .list items => items.all (isSelfContained depth)
    | .dict entries =>
      entries.all fun (key, value) => key.all (isSelfContained depth) && isSelfContained depth value
    | .unary _ operand | .negation operand | .spread operand => isSelfContained depth operand
    | .binary _ left right | .both left right | .either left right | .subscript left right =>
      isSelfContained depth left && isSelfContained depth right
    | .chain first rest =>
      isSelfContained depth first &&
        rest.all fun (test, operand) => test.comparesValues && isSelfContained depth operand
    | .choice test yes no =>
      isSelfContained depth test && isSelfContained depth yes && isSelfContained depth no
    | .set _ | .call _ _ | .member _ _ | .other => false

/-- A self-contained expression has none of the emulator's lists as its value. -/
theorem reached?_of_isSelfContained {depth : Nat} {expr : Expr} {scope : Scope} {heap : Heap}
    (hself : expr.isSelfContained depth = true) : expr.reached? scope heap = none := by
  -- lists are handed on by the operators that give one of their operands, and by no others
  induction depth generalizing expr heap with
  | zero => cases hself
  | succ depth ih =>
      cases expr with
      | both left right =>
          obtain ⟨-, hright⟩ := Bool.and_eq_true_iff.mp hself
          rw [reached?]
          split
          · split
            · exact ih hright
            · rfl
          · rfl
      | either left right =>
          obtain ⟨-, hright⟩ := Bool.and_eq_true_iff.mp hself
          rw [reached?]
          split
          · split
            · rfl
            · exact ih hright
          · rfl
      | choice test yes no =>
          obtain ⟨hrest, hno⟩ := Bool.and_eq_true_iff.mp hself
          obtain ⟨-, hyes⟩ := Bool.and_eq_true_iff.mp hrest
          rw [reached?]
          split
          · split
            · exact ih hyes
            · exact ih hno
          · rfl
      | member target name => cases hself
      | _ => rfl

end Expr

namespace Instruction

/-- A text that the instruction evaluates is self-contained, or writes no expression at all. -/
def evaluatesSelfContained (machine : Machine) (instruction : Instruction) : Bool :=
  ((instruction.evaluated? machine).bind Expr.ofString).all (Expr.isSelfContained Expr.maxDepth)

theorem reached?_of_evaluatesSelfContained {machine : Machine} {instruction : Instruction}
    (hself : instruction.evaluatesSelfContained machine = true) :
    instruction.reached? machine = none := by
  cases instruction with
  | literalArithmetic operation target source literal =>
      rw [evaluatesSelfContained] at hself
      rw [reached?]
      cases hexpr : ((literalArithmetic operation target source literal).evaluated?
          machine).bind Expr.ofString with
      | none => rfl
      | some expr =>
          rw [hexpr, Option.all_some] at hself
          simp [Expr.reached?_of_isSelfContained hself]
  | _ => rfl

end Instruction

namespace Emulator

variable {α : Type} {emulator before after : Emulator} {line : String}

/-! ### What a line leaves alone -/

/-- Neither the steps that are counted nor the lists that are shared have changed. -/
structure SameRest (before after : Emulator) : Prop where
  steps : after.steps = before.steps
  shared : after.shared = before.shared

theorem SameRest.trans {last : Emulator} (hfirst : SameRest before after)
    (hsecond : SameRest after last) : SameRest before last :=
  ⟨hsecond.steps.trans hfirst.steps, hsecond.shared.trans hfirst.shared⟩

theorem SameRest.of_machine {machine : Machine}
    (hrest : SameRest { before with machine := machine } after) : SameRest before after :=
  ⟨hrest.steps, hrest.shared⟩

theorem trace_sameRest (emulator : Emulator) (line : String) :
    SameRest emulator (emulator.trace line) := by
  unfold trace
  split <;> exact ⟨rfl, rfl⟩

theorem report_sameRest (emulator : Emulator) (message : String) :
    SameRest emulator (emulator.report message : Emulator × Ending α).1 := by
  unfold report
  simp only
  split <;> exact ⟨rfl, rfl⟩

theorem perform_sameRest (emulator : Emulator) (action : Action α) :
    SameRest emulator (emulator.perform action).1 := by
  unfold perform
  split
  · exact ⟨rfl, rfl⟩
  · exact ⟨rfl, rfl⟩
  · exact (report_sameRest _ _).of_machine

theorem throw_sameRest (emulator : Emulator) (cause : Fault) :
    SameRest emulator (emulator.throw cause).1 := by
  unfold throw
  simp only
  split
  · exact (perform_sameRest _ _).of_machine
  · split
    · exact (report_sameRest _ _).of_machine
    · exact ⟨rfl, rfl⟩

theorem execute_sameRest (emulator : Emulator) (instruction : Instruction) :
    SameRest emulator (emulator.execute instruction).1 := by
  have hperform := perform_sameRest emulator instruction.execute
  unfold execute
  generalize emulator.perform instruction.execute = result at hperform
  obtain ⟨after, ending⟩ := result
  cases ending with
  | raised cause => exact hperform.trans (throw_sameRest after cause)
  | _ => exact hperform

theorem attempt_sameRest (emulator : Emulator) (line : String)
    (instruction? : Option Instruction) :
    SameRest emulator (emulator.attempt line instruction?).1 := by
  unfold attempt
  split
  · rename_i instruction
    have hexecute := (trace_sameRest emulator line).trans
      (execute_sameRest (emulator.trace line) instruction)
    generalize (emulator.trace line).execute instruction = result at hexecute
    obtain ⟨after, ending⟩ := result
    cases ending <;> exact hexecute
  · exact ⟨rfl, rfl⟩

theorem step_sameRest (emulator : Emulator) (line : String) :
    SameRest emulator.advance (emulator.step line).1 := by
  unfold step executeLine
  split
  · exact ⟨rfl, rfl⟩
  · have hattempt := attempt_sameRest emulator.advance line (Instruction.ofLine? line)
    generalize emulator.advance.attempt line (Instruction.ofLine? line) = result at hattempt
    obtain ⟨after, ending⟩ := result
    cases ending with
    | done found =>
        cases found with
        | true => exact hattempt
        | false => exact hattempt.trans (report_sameRest after _)
    | _ => exact hattempt

/-! ### Lines -/

/-- The text that the next line evaluates, if any, is self-contained. -/
def evaluatesSelfContained (state : Emulator) : Bool :=
  (state.nextLine?.bind Instruction.ofLine?).all (·.evaluatesSelfContained state.advance.machine)

/-- Where nothing is shared, there is nothing to bring up to date. -/
theorem reconcile_of_shared (hshared : after.shared = []) : before.reconcile after = after := by
  rw [reconcile, hshared]
  rfl

/-- A line whose instruction reaches none of the emulator's lists is executed as if nothing could be
shared. -/
theorem Shared.attempt_of_reached {instruction? : Option Instruction}
    (hshared : emulator.shared = [])
    (hreached : ∀ instruction ∈ instruction?, instruction.reached? emulator.machine = none) :
    Shared.attempt emulator line instruction? = emulator.attempt line instruction? := by
  have hkept : (emulator.attempt line instruction?).1.shared = [] :=
    (attempt_sameRest emulator line instruction?).shared.trans hshared
  rw [Shared.attempt, Option.bind_eq_none_iff.mpr hreached]
  simp only [reconcile_of_shared hkept]

theorem Shared.executeForm_eq {form : Form} {instruction : Instruction}
    (hshared : emulator.shared = []) (hread : form.read? line = some instruction)
    (hself : instruction.evaluatesSelfContained emulator.machine = true) :
    Shared.executeForm emulator form line = emulator.executeForm form line := by
  apply Shared.attempt_of_reached hshared
  rw [hread]
  rintro _ ⟨⟩
  exact Instruction.reached?_of_evaluatesSelfContained hself

theorem Shared.step_eq (hshared : emulator.shared = []) (hline : emulator.nextLine? = some line)
    (hself : emulator.evaluatesSelfContained = true) :
    Shared.step emulator line = emulator.step line := by
  have hexecute : Shared.executeLine emulator.advance line = emulator.advance.executeLine line := by
    refine Shared.attempt_of_reached hshared fun instruction hread => ?_
    rw [evaluatesSelfContained, hline, Option.bind_some, hread, Option.all_some] at hself
    exact Instruction.reached?_of_evaluatesSelfContained hself
  rw [Shared.step, hexecute, Emulator.step]

end Emulator

end Dalvik
