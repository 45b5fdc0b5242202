import Dalvik.Proofs.Store
import Dalvik.Instruction.Execute

/-!
# Operators and expressions only make new values

Whatever an operator or an expression makes stands behind what the store had before. Lists, sets and
tables that are there keep their contents.
-/

namespace Dalvik

/-- A computation that, if it completes, leaves a store that has only grown. -/
def Heap.Extends {α : Type} (heap : Heap) (result : Except Fault (α × Heap)) : Prop :=
  ∀ made, result = .ok made → heap.Grows made.2

namespace Heap

variable {α β : Type} {heap : Heap}

theorem extends_error (cause : Fault) : heap.Extends (.error cause : Except Fault (α × Heap)) :=
  nofun

theorem extends_ok {made : α × Heap} (hgrows : heap.Grows made.2) : heap.Extends (.ok made) := by
  rintro _ ⟨⟩
  exact hgrows

theorem extends_same (value : α) : heap.Extends (.ok (value, heap)) :=
  extends_ok (Grows.refl heap)

/-- A part that changes no store comes first. -/
theorem extends_bind {x : Except Fault β} {next : β → Except Fault (α × Heap)}
    (hnext : ∀ value, heap.Extends (next value)) : heap.Extends (x >>= next) := by
  intro made hmade
  obtain ⟨value, _, hvalue⟩ := bind_eq_ok.mp hmade
  exact hnext value made hvalue

/-- Two parts, the second of which starts from the store that the first leaves. -/
theorem Extends.bind {x : Except Fault (β × Heap)} {next : β × Heap → Except Fault (α × Heap)}
    (hfirst : heap.Extends x) (hnext : ∀ (value : β) (middle : Heap), middle.Extends (next (value, middle))) :
    heap.Extends (x >>= next) := by
  intro made hmade
  obtain ⟨⟨value, middle⟩, hvalue, hrest⟩ := bind_eq_ok.mp hmade
  exact (hfirst _ hvalue).trans (hnext value middle made hrest)

theorem extends_map {x : Except Fault β} {make : β → α × Heap}
    (hmake : ∀ value, heap.Grows (make value).2) : heap.Extends (x.map make) := by
  cases x with
  | error cause => exact extends_error cause
  | ok value => exact extends_ok (hmake value)

theorem grows_newList (heap : Heap) (items : List Value) : heap.Grows (heap.newList items).2 :=
  heap.grows_alloc items

theorem grows_newTuple (heap : Heap) (items : List Value) : heap.Grows (heap.newTuple items).2 :=
  heap.grows_alloc items

end Heap

open Heap

namespace Value

variable (heap : Heap) (symbol : String) (left right : Value)

theorem repeatSequence_extends (value : Value) (count : Int) :
    heap.Extends (repeatSequence heap value count) := by
  unfold repeatSequence
  dsimp only
  split
  · exact extends_error _
  · refine extends_bind fun length => ?_
    split
    · split
      · split <;> exact extends_error _
      · split <;> exact extends_error _
      · exact extends_error _
    · split
      · exact extends_same _
      · exact extends_same _
      · exact extends_ok (heap.grows_newList _)
      · exact extends_ok (heap.grows_newTuple _)
      · exact extends_error _

theorem add_extends : heap.Extends (add heap symbol left right) := by
  unfold add
  split
  · exact extends_map heap.grows_newNumber
  · split
    · exact extends_same _
    · exact extends_same _
    · exact extends_ok (heap.grows_newList _)
    · exact extends_ok (heap.grows_newTuple _)
    · split <;> exact extends_error _

theorem sub_extends : heap.Extends (sub heap symbol left right) := by
  unfold sub
  split
  · exact extends_map heap.grows_newNumber
  · split
    · exact extends_map heap.grows_newSet
    · exact extends_error _

theorem mul_extends : heap.Extends (mul heap symbol left right) := by
  unfold mul
  split
  · exact extends_map heap.grows_newNumber
  · split
    · split
      · exact repeatSequence_extends heap left _
      · exact extends_error _
    · split
      · split
        · exact repeatSequence_extends heap right _
        · exact extends_error _
      · exact extends_error _

theorem onNumbers_extends (operation : Fault → Numeric → Numeric → Except Fault Numeric) :
    heap.Extends (onNumbers heap symbol operation left right) := by
  unfold onNumbers
  dsimp only
  split
  · exact extends_map heap.grows_newNumber
  · exact extends_error _

theorem mod_extends : heap.Extends (mod heap symbol left right) := by
  unfold mod
  split
  · exact extends_bind fun filled => extends_same _
  · exact extends_bind fun filled => extends_same _
  · exact onNumbers_extends heap symbol left right _

theorem bitwise_extends (onBools : Bool → Bool → Bool) (onInts : Int → Int → Int)
    (onSets : Members → Members → Except Fault Members) :
    heap.Extends (bitwise heap symbol onBools onInts onSets left right) := by
  unfold bitwise
  split
  · exact extends_same _
  · exact extends_map heap.grows_newSet
  · split
    · exact extends_same _
    · exact extends_error _

theorem bitAnd_extends : heap.Extends (bitAnd heap symbol left right) :=
  bitwise_extends heap symbol left right _ _ _

theorem bitXor_extends : heap.Extends (bitXor heap symbol left right) :=
  bitwise_extends heap symbol left right _ _ _

theorem bitOr_extends : heap.Extends (bitOr heap symbol left right) := by
  unfold bitOr
  split
  · exact extends_bind fun merged => extends_ok (heap.grows_newDict merged)
  · exact bitwise_extends heap symbol left right _ _ _

theorem shift_extends (operation : Int → Int → Except Fault Int) :
    heap.Extends (shift heap symbol operation left right) := by
  unfold shift
  split
  · split
    · exact extends_error _
    · exact extends_map fun _ => Grows.refl heap
  · exact extends_error _

theorem operate_extends (operator : Operator) :
    heap.Extends (operate heap operator left right) := by
  unfold operate
  cases operator with
  | add => exact add_extends heap _ left right
  | sub => exact sub_extends heap _ left right
  | mul => exact mul_extends heap _ left right
  | mod => exact mod_extends heap _ left right
  | div | floorDiv | pow => exact onNumbers_extends heap _ left right _
  | shl | shr => exact shift_extends heap _ left right _
  | and => exact bitAnd_extends heap _ left right
  | xor => exact bitXor_extends heap _ left right
  | or => exact bitOr_extends heap _ left right
  | matMul => exact extends_error _

theorem slice_extends (value : Value) (first last : Int) :
    heap.Extends (slice heap value first last) := by
  unfold slice
  split
  · exact extends_same _
  · exact extends_same _
  · exact extends_ok (heap.grows_newList _)
  · exact extends_ok (heap.grows_newTuple _)
  · exact extends_error _
  · exact extends_error _

end Value

namespace Expr

theorem applyUnary_extends (heap : Heap) (operator : Unary) (value : Value) :
    heap.Extends (applyUnary heap operator value) := by
  unfold applyUnary
  split
  · exact extends_ok (heap.grows_newNumber _)
  · exact extends_same _
  · exact extends_ok (heap.grows_newNumber _)
  · exact extends_same _
  · exact extends_error _

mutual

theorem eval_extends (scope : Scope) (heap : Heap) (expr : Expr) :
    heap.Extends (eval scope heap expr) := by
  cases expr with
  | constant value =>
      rw [eval]
      exact extends_same _
  | name word =>
      rw [eval]
      split
      · exact extends_same _
      · exact extends_error _
  | tuple items =>
      rw [eval]
      exact (evalItems_extends scope heap items).bind fun values middle =>
        extends_ok (middle.grows_newTuple values)
  | list items =>
      rw [eval]
      exact (evalItems_extends scope heap items).bind fun values middle =>
        extends_ok (middle.grows_newList values)
  | set items =>
      rw [eval]
      exact (evalItems_extends scope heap items).bind fun values middle =>
        extends_bind fun members => extends_ok (middle.grows_newSet members)
  | dict entries =>
      rw [eval]
      exact (evalEntries_extends scope heap [] [] entries).bind fun table middle =>
        extends_ok (middle.grows_newDict table)
  | unary operator operand =>
      rw [eval]
      exact (eval_extends scope heap operand).bind fun value middle =>
        applyUnary_extends middle operator value
  | binary operator left right =>
      rw [eval]
      exact (eval_extends scope heap left).bind fun x middle =>
        (eval_extends scope middle right).bind fun y last =>
          Value.operate_extends last x y operator
  | chain first rest =>
      rw [eval]
      exact (eval_extends scope heap first).bind fun left middle =>
        evalChain_extends scope middle left rest
  | negation operand =>
      rw [eval]
      exact (eval_extends scope heap operand).bind fun value middle => extends_same _
  | both left right =>
      rw [eval]
      refine (eval_extends scope heap left).bind fun value middle => ?_
      dsimp only
      split
      · exact eval_extends scope middle right
      · exact extends_same _
  | either left right =>
      rw [eval]
      refine (eval_extends scope heap left).bind fun value middle => ?_
      dsimp only
      split
      · exact extends_same _
      · exact eval_extends scope middle right
  | choice test yes no =>
      rw [eval]
      refine (eval_extends scope heap test).bind fun value middle => ?_
      dsimp only
      split
      · exact eval_extends scope middle yes
      · exact eval_extends scope middle no
  | call callee arguments =>
      rw [eval]
      exact (eval_extends scope heap callee).bind fun value middle =>
        extends_bind fun _ => extends_error _
  | member target word =>
      rw [eval]
      exact extends_bind fun _ => extends_error _
  | subscript target index =>
      rw [eval]
      exact (eval_extends scope heap target).bind fun value middle =>
        (eval_extends scope middle index).bind fun place last =>
          extends_bind fun item => extends_same item
  | spread operand =>
      rw [eval]
      exact extends_error _
  | other =>
      rw [eval]
      exact extends_error _
termination_by sizeOf expr

theorem evalChain_extends (scope : Scope) (heap : Heap) (left : Value)
    (rest : List (Test × Expr)) : heap.Extends (evalChain scope heap left rest) := by
  match rest with
  | [] =>
      rw [evalChain]
      exact extends_same _
  | (test, operand) :: rest =>
      rw [evalChain]
      refine (eval_extends scope heap operand).bind fun right middle => ?_
      refine extends_bind fun holds => ?_
      split
      · exact evalChain_extends scope middle right rest
      · exact extends_same _
termination_by sizeOf rest

theorem evalItems_extends (scope : Scope) (heap : Heap) (items : List Expr) :
    heap.Extends (evalItems scope heap items) := by
  unfold evalItems
  split
  · exact extends_same _
  · rename_i operand rest
    exact (eval_extends scope heap operand).bind fun value middle =>
      extends_bind fun first =>
        (evalItems_extends scope middle rest).bind fun others last => extends_same _
  · rename_i item rest _
    exact (eval_extends scope heap item).bind fun value middle =>
      (evalItems_extends scope middle rest).bind fun values last => extends_same _
termination_by sizeOf items

theorem evalEntries_extends (scope : Scope) (heap : Heap) (table waiting : List (Value × Value))
    (entries : List (Option Expr × Expr)) :
    heap.Extends (evalEntries scope heap table waiting entries) := by
  match entries with
  | [] =>
      rw [evalEntries]
      exact extends_bind fun entered => extends_same entered
  | (none, operand) :: rest =>
      rw [evalEntries]
      refine extends_bind fun entered => ?_
      refine (eval_extends scope heap operand).bind fun value middle => ?_
      dsimp only
      split
      · exact extends_bind fun joined => evalEntries_extends scope middle joined [] rest
      · exact extends_error _
  | (some key, value) :: rest =>
      rw [evalEntries]
      exact (eval_extends scope heap key).bind fun keyValue middle =>
        (eval_extends scope middle value).bind fun itemValue last =>
          evalEntries_extends scope last table _ rest
termination_by sizeOf entries

end

theorem evaluate_extends (scope : Scope) (heap : Heap) (text : String) :
    heap.Extends (evaluate scope heap text) := by
  unfold evaluate
  split
  · exact eval_extends scope heap _
  · exact extends_error _

theorem readLiteral_extends (heap : Heap) (text : String) :
    heap.Extends (readLiteral heap text) :=
  fun _ hmade => readLiteral_grows hmade

end Expr

namespace Instruction

/-- Sums, products and the rest leave what the store has. -/
theorem literalResult_extends (machine : Machine) (operation : LiteralArithmetic)
    (target source literal : String) :
    machine.heap.Extends (literalResult machine operation target source literal) := by
  have hliteral := Expr.readLiteral_extends machine.heap literal
  cases operation with
  | add | mul =>
      exact extends_bind fun text => Expr.evaluate_extends _ _ _
  | div | shl =>
      exact extends_bind fun left => hliteral.bind fun right middle =>
        Value.operate_extends middle left right _
  | rem | and | xor =>
      exact extends_bind fun value => extends_bind fun left => hliteral.bind fun right middle =>
        Value.operate_extends middle _ right _

theorem apply_extends (operation : Arithmetic) (heap : Heap) (left right : Value) :
    heap.Extends (operation.apply heap left right) := by
  unfold Arithmetic.apply
  cases operation <;> exact Value.operate_extends heap left right _

end Instruction

end Dalvik
