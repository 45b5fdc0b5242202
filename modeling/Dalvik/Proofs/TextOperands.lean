import Dalvik.Proofs.GivenValues
import Dalvik.Proofs.WrittenWords

/-!
# Texts as operands of sums and products

Sums and products with a literal write the text of a register before the operator and evaluate the
whole. A text is thus taken as a part of an expression: a word that names no number throws a fault,
as every text would if it were only a value, but a text that writes a sum is calculated with.
-/

namespace Dalvik

namespace Instruction

/-- The instruction that writes an operator and a literal behind the text of a register. -/
def ofJoint : Expr.Joint → LiteralArithmetic
  | .sum => .add
  | .product => .mul

theorem literalResult_text {machine : Machine} {target source literal s : String}
    (joint : Expr.Joint) (hsource : machine.read source = .ok (.text s)) :
    literalResult machine (ofJoint joint) target source literal =
      Expr.evaluate (writtenScope target source literal) machine.heap
        (s ++ " " ++ joint.symbol ++ " " ++ literal) := by
  cases joint with
  | sum =>
      simp only [ofJoint, literalResult, written, writtenText, hsource]
      rfl
  | product =>
      simp only [ofJoint, literalResult, written, writtenText, hsource]
      rfl

/-- Names that stand for a text or a truth value in a written expression. -/
def operandNames : List String :=
  ["vx", "vy", "lit", "__debug__", "__name__", "__package__", "__file__", "__cached__"]

/-- A value that no operator takes beside an integer. -/
inductive IsInert : Value → Prop where
  | null : IsInert .null
  | ellipsis : IsInert .ellipsis
  | outside (kind text : String) : IsInert (.outside kind text)

theorem standing?_inert {name : String} {found : Value} (hname : name ∉ operandNames)
    (hfound : Expr.Scope.standing? name = some found) : IsInert found := by
  unfold Expr.Scope.standing? at hfound
  split at hfound
  · cases hfound
    exact .outside _ _
  split at hfound
  · cases hfound
    exact .outside _ _
  split at hfound
  · cases hfound
    exact .outside _ _
  split at hfound
  · cases hfound
    exact .outside _ _
  split at hfound
  case h_1 | h_2 | h_3 | h_4 | h_17 => exact absurd (by decide) hname
  case h_5 =>
      cases hfound
      exact .null
  case h_15 =>
      cases hfound
      exact .ellipsis
  case h_21 => cases hfound
  all_goals
    cases hfound
    exact .outside _ _

/-- Every other name stands for something that cannot be calculated with, or for nothing. -/
theorem writtenScope_get? {target source literal name : String} {found : Value}
    (hname : name ∉ operandNames)
    (hfound : (writtenScope target source literal).get? name = some found) : IsInert found := by
  have hwords := hname
  simp only [operandNames, List.mem_cons, List.not_mem_nil, or_false, not_or] at hwords
  obtain ⟨hvx, hvy, hlit, -⟩ := hwords
  by_cases hvm : name = "vm"
  · subst hvm
    cases hfound
    exact .outside _ _
  · have hlookup : (writtenScope target source literal).lookup name = none := by
      rw [List.lookup_eq_none_iff]
      simp [writtenScope, hvx, hvy, hlit, hvm]
    rw [Expr.Scope.get?, hlookup, Option.none_or] at hfound
    exact standing?_inert hname hfound

theorem operate_refused {found : Value} (joint : Expr.Joint) (heap : Heap) (value : Int)
    (hfound : IsInert found) :
    ∃ cause, found.operate heap joint.operator (.int value) = .error cause := by
  cases hfound with
  | null => cases joint <;> exact ⟨_, rfl⟩
  | ellipsis => cases joint <;> exact ⟨_, rfl⟩
  | outside kind text => cases joint <;> exact ⟨_, rfl⟩

end Instruction

namespace Emulator

open Instruction

variable {emulator : Emulator} {target source literal : Token} {s : String} {t : Int}

section Written

variable (gaps : Nat → Gap) (width : LiteralWidth) (joint : Expr.Joint)
variable (hsource : emulator.machine.registers.get? source.text = some (.text s))

include hsource

/-- A text is written before the operator and the literal, and the whole is evaluated. -/
theorem gives_written :
    emulator.Gives
      ((Statement.literalArithmetic (ofJoint joint) width target source literal).print gaps)
      target.text
      (Expr.evaluate (writtenScope target.text source.text literal.text) emulator.machine.heap
        (s ++ " " ++ joint.symbol ++ " " ++ literal.text)) := by
  rw [← literalResult_text joint (Machine.read_eq_ok.mpr hsource)]
  exact gives_literalArithmetic gaps (ofJoint joint) width

theorem throws_word (hliteral : Expr.integer? literal.text = some t) (hname : Expr.isName s = true)
    (hfree : Expr.nameOf s ∉ operandNames) :
    emulator.Throws
      ((Statement.literalArithmetic (ofJoint joint) width target source literal).print gaps)
      target.text := by
  have hgives := @gives_written emulator target source literal s gaps width joint hsource
  rw [Expr.evaluate_name joint _ _ hname hliteral] at hgives
  cases hfound : (writtenScope target.text source.text literal.text).get? (Expr.nameOf s) with
  | none =>
      rw [hfound] at hgives
      exact ⟨_, hgives⟩
  | some found =>
      obtain ⟨cause, hrefused⟩ :=
        operate_refused joint emulator.machine.heap t (writtenScope_get? hfree hfound)
      rw [hfound] at hgives
      exact ⟨cause, hrefused ▸ hgives⟩

end Written

end Emulator

end Dalvik
