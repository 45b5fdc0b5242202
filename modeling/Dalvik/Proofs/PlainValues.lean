import Dalvik.Proofs.TameValues
import Dalvik.Value.Datum

/-!
# Plain operands, arguments and data

Integers, texts and lists of these are plain. Plain literals and arguments are tame values once they
are in the store, and so are plain elements of constant data. An expression that calculates with
integers has a tame value too.
-/

namespace Dalvik

open Value Heap

namespace Heap

variable {heap middle : Heap}

/-- What a computation made from a store: tame items, in a store that keeps tame values. -/
structure MadeTameItems (heap : Heap) (made : List Value × Heap) : Prop where
  keeps : heap.KeepsTame made.2
  tame : ∀ item ∈ made.1, item.Tame made.2

theorem madeTameItems_nil (heap : Heap) : heap.MadeTameItems ([], heap) :=
  ⟨KeepsTame.refl heap, fun _ hitem => nomatch hitem⟩

theorem MadeTame.cons {first : Value × Heap} {rest : List Value × Heap}
    (hfirst : heap.MadeTame first) (hrest : first.2.MadeTameItems rest) :
    heap.MadeTameItems (first.1 :: rest.1, rest.2) := by
  refine ⟨hfirst.keeps.trans hrest.keeps, fun item hitem => ?_⟩
  rcases List.mem_cons.mp hitem with rfl | hin
  · exact hrest.keeps _ hfirst.tame
  · exact hrest.tame item hin

theorem MadeTameItems.newList {made : List Value × Heap} (hmade : heap.MadeTameItems made) :
    heap.MadeTame (made.2.newList made.1) :=
  (madeTame_newList hmade.tame).after hmade.keeps

end Heap

/-! ### Arguments -/

namespace Datum

mutual

/-- Integers, texts and lists of these; truth values count as integers. -/
def isPlain : Datum → Bool
  | .bool _ | .int _ | .text _ => true
  | .list items => arePlain items
  | _ => false

def arePlain : List Datum → Bool
  | [] => true
  | item :: rest => item.isPlain && arePlain rest

end

mutual

theorem store_tame (heap : Heap) (datum : Datum) (hplain : datum.isPlain = true) :
    heap.MadeTame (heap.store datum) := by
  cases datum with
  | bool b | int n | text s =>
      rw [store]
      exact madeTame_same (tame_of_within fun _ => trivial)
  | list items =>
      rw [store]
      rw [isPlain] at hplain
      exact (storeItems_tame heap items hplain).newList
  | _ => cases hplain

theorem storeItems_tame (heap : Heap) (items : List Datum) (hplain : arePlain items = true) :
    heap.MadeTameItems (heap.storeItems items) := by
  cases items with
  | nil =>
      rw [storeItems]
      exact heap.madeTameItems_nil
  | cons item rest =>
      rw [arePlain, Bool.and_eq_true] at hplain
      rw [storeItems]
      exact (store_tame heap item hplain.1).cons (storeItems_tame _ rest hplain.2)

end

end Datum

/-! ### Literals -/

namespace Expr

mutual

/-- Integers with or without a sign, texts, and lists of these. -/
def isPlain : Expr → Bool
  | .constant (.bool _) | .constant (.int _) | .constant (.text _) => true
  | .unary _ (.constant (.int _)) => true
  | .list items => arePlain items
  | _ => false

def arePlain : List Expr → Bool
  | [] => true
  | item :: rest => item.isPlain && arePlain rest

end

mutual

theorem literal_tame (heap : Heap) (expr : Expr) (hplain : expr.isPlain = true) :
    Sound heap.MadeTame (literal heap expr) := by
  unfold isPlain at hplain
  split at hplain
  · rw [literal]
    exact sound_ok (madeTame_same (tame_of_within fun _ => trivial))
  · rw [literal]
    exact sound_ok (madeTame_same (tame_of_within fun _ => trivial))
  · rw [literal]
    exact sound_ok (madeTame_same (tame_of_within fun _ => trivial))
  · unfold literal
    split
    · rename_i number _
      exact sound_ok (madeTame_same (tame_of_within fun _ => by cases number <;> trivial))
    · exact sound_error rfl
  · rw [literal]
    exact (literals_tame heap _ hplain).bind fun _ hmade => sound_ok hmade.newList
  · cases hplain
termination_by sizeOf expr

theorem literals_tame (heap : Heap) (items : List Expr) (hplain : arePlain items = true) :
    Sound heap.MadeTameItems (literals heap items) := by
  cases items with
  | nil =>
      rw [literals]
      exact sound_ok heap.madeTameItems_nil
  | cons item rest =>
      rw [arePlain, Bool.and_eq_true] at hplain
      rw [literals]
      exact (literal_tame heap item hplain.1).bind fun first hfirst =>
        (literals_tame first.2 rest hplain.2).bind fun _ hothers => sound_ok (hfirst.cons hothers)
termination_by sizeOf items

end

theorem readLiteral_tame (heap : Heap) (text : String)
    (hplain : (ofString text).all isPlain = true) :
    Sound heap.MadeTame (readLiteral heap text) := by
  unfold readLiteral
  split
  · rename_i expr hexpr
    rw [hexpr] at hplain
    exact literal_tame heap expr hplain
  · exact sound_error rfl

/-- A literal of any kind leaves the tame values tame. -/
theorem readLiteral_keepsTame (heap : Heap) (text : String) :
    Sound (fun made => heap.KeepsTame made.2) (readLiteral heap text) :=
  (readLiteral_told heap text).eq.mono fun _ hread => (readLiteral_grows hread).keepsTame

/-! ### Expressions of integers -/

mutual

/-- An expression that calculates with integers: they are combined by operators, compared with each
other and chosen by conditions. -/
def isIntegral : Expr → Bool
  | .constant (.bool _) | .constant (.int _) => true
  | .unary _ operand | .negation operand => operand.isIntegral
  | .binary _ left right | .both left right | .either left right =>
    left.isIntegral && right.isIntegral
  | .choice test yes no => test.isIntegral && yes.isIntegral && no.isIntegral
  | .chain first rest => first.isIntegral && areIntegral rest
  | _ => false

def areIntegral : List (Test × Expr) → Bool
  | [] => true
  | (_, operand) :: rest => operand.isIntegral && areIntegral rest

end

theorem applyUnary_tame {heap : Heap} {value : Value} (htame : value.Tame heap)
    (operator : Unary) : Sound heap.MadeTame (applyUnary heap operator value) := by
  unfold applyUnary
  split
  · exact sound_ok (heap.madeTame_newNumber _)
  · exact sound_ok (madeTame_same htame)
  · exact sound_ok (heap.madeTame_newNumber _)
  · exact sound_ok (madeTame_same (tame_int _))
  · exact sound_error rfl

/-- Two computations, the second of which goes on from the store that the first leaves. -/
theorem bind_tame {heap : Heap} {x : Except Fault (Value × Heap)}
    {next : Value × Heap → Except Fault (Value × Heap)} (hx : Sound heap.MadeTame x)
    (hnext : ∀ made : Value × Heap, heap.MadeTame made → Sound made.2.MadeTame (next made)) :
    Sound heap.MadeTame (x >>= next) :=
  hx.bind fun made hmade => (hnext made hmade).mono fun _ hlast => hlast.after hmade.keeps

mutual

theorem eval_tame (scope : Scope) (heap : Heap) (expr : Expr) (hintegral : expr.isIntegral = true) :
    Sound heap.MadeTame (eval scope heap expr) := by
  cases expr with
  | constant value =>
      rw [eval]
      cases value with
      | bool b => exact sound_ok (madeTame_same (tame_of_within fun _ => trivial))
      | int n => exact sound_ok (madeTame_same (tame_int _))
      | _ => cases hintegral
  | unary operator operand =>
      rw [isIntegral] at hintegral
      rw [eval]
      exact bind_tame (eval_tame scope heap operand hintegral) fun made hmade =>
        applyUnary_tame hmade.tame operator
  | negation operand =>
      rw [isIntegral] at hintegral
      rw [eval]
      exact bind_tame (eval_tame scope heap operand hintegral) fun made _ =>
        sound_ok (madeTame_same (tame_of_within fun _ => trivial))
  | binary operator left right =>
      rw [isIntegral, Bool.and_eq_true] at hintegral
      rw [eval]
      refine bind_tame (eval_tame scope heap left hintegral.1) fun first hfirst => ?_
      refine bind_tame (eval_tame scope first.2 right hintegral.2) fun second hsecond => ?_
      exact operate_tame (hsecond.keeps _ hfirst.tame) hsecond.tame operator
  | both left right =>
      rw [isIntegral, Bool.and_eq_true] at hintegral
      rw [eval]
      refine bind_tame (eval_tame scope heap left hintegral.1) fun first hfirst => ?_
      exact Meets.ite (eval_tame scope first.2 right hintegral.2)
        (sound_ok (madeTame_same hfirst.tame))
  | either left right =>
      rw [isIntegral, Bool.and_eq_true] at hintegral
      rw [eval]
      refine bind_tame (eval_tame scope heap left hintegral.1) fun first hfirst => ?_
      exact Meets.ite (sound_ok (madeTame_same hfirst.tame))
        (eval_tame scope first.2 right hintegral.2)
  | choice test yes no =>
      rw [isIntegral, Bool.and_eq_true, Bool.and_eq_true] at hintegral
      rw [eval]
      refine bind_tame (eval_tame scope heap test hintegral.1.1) fun first hfirst => ?_
      exact Meets.ite (eval_tame scope first.2 yes hintegral.1.2)
        (eval_tame scope first.2 no hintegral.2)
  | chain first rest =>
      rw [isIntegral, Bool.and_eq_true] at hintegral
      rw [eval]
      exact bind_tame (eval_tame scope heap first hintegral.1) fun made _ =>
        evalChain_tame scope made.2 made.1 rest hintegral.2
  | _ => cases hintegral
termination_by sizeOf expr

theorem evalChain_tame (scope : Scope) (heap : Heap) (left : Value) (rest : List (Test × Expr))
    (hintegral : areIntegral rest = true) :
    Sound heap.MadeTame (evalChain scope heap left rest) := by
  match rest with
  | [] =>
      rw [evalChain]
      exact sound_ok (madeTame_same (tame_of_within fun _ => trivial))
  | (test, operand) :: rest =>
      rw [areIntegral, Bool.and_eq_true] at hintegral
      rw [evalChain]
      refine bind_tame (eval_tame scope heap operand hintegral.1) fun made _ => ?_
      refine (applyTest_told made.2 test left made.1).bind fun holds => ?_
      exact Meets.ite (evalChain_tame scope made.2 made.1 rest hintegral.2)
        (sound_ok (madeTame_same (tame_of_within fun _ => trivial)))
termination_by sizeOf rest

end

theorem evaluate_tame (scope : Scope) (heap : Heap) (text : String)
    (hintegral : (ofString text).all isIntegral = true) :
    Sound heap.MadeTame (evaluate scope heap text) := by
  unfold evaluate
  split
  · rename_i expr hexpr
    rw [hexpr] at hintegral
    exact eval_tame scope heap expr hintegral
  · exact sound_error rfl

end Expr

/-! ### Constant data -/

namespace Heap

/-- An integer, a text or a list of these, not nested more deeply than the given number of lists. -/
def holdsPlain (heap : Heap) : Nat → Value → Bool
  | _, .bool _ | _, .int _ | _, .text _ => true
  | depth + 1, .list ref =>
    decide (ref < heap.sequences.size) && (heap.items ref).all (heap.holdsPlain depth)
  | _, _ => false

theorem tame_of_holdsPlain {heap : Heap} {depth : Nat} {value : Value}
    (hplain : heap.holdsPlain depth value = true) : value.Tame heap := by
  induction depth generalizing value with
  | zero =>
      cases value with
      | bool b | int n | text s => exact tame_of_within fun _ => trivial
      | _ => cases hplain
  | succ depth ih =>
      cases value with
      | bool b | int n | text s => exact tame_of_within fun _ => trivial
      | list ref =>
          rw [holdsPlain, Bool.and_eq_true, decide_eq_true_eq, List.all_eq_true] at hplain
          exact tame_list hplain.1 fun item hitem => ih (hplain.2 item hitem)
      | _ => cases hplain

end Heap

end Dalvik
