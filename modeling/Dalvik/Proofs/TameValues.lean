import Dalvik.Proofs.Operators
import Dalvik.Proofs.ToldExpressions

/-!
# Values without tables

From a tame value only lists can be reached, and no tuple, set or table. Lists may hold each other
and themselves, so that tameness is not defined by recursion: a region of lists is closed if
whatever its lists hold stands in the region again, and a value is tame if it stands in a closed
region. Operators, slices and changes in place lead from tame values to tame values.
-/

namespace Dalvik

/-- A value stands in a region of lists: it is one of them, or no container at all. -/
def Value.Within (region : Ref → Prop) : Value → Prop
  | .list ref => region ref
  | .tuple _ | .set _ | .dict _ => False
  | _ => True

/-- The lists of a region are in the store, and hold only values within the region. -/
def Heap.Closed (heap : Heap) (region : Ref → Prop) : Prop :=
  ∀ ref, region ref → ref < heap.sequences.size ∧ ∀ item ∈ heap.items ref, item.Within region

/-- A value from which only lists can be reached. -/
def Value.Tame (heap : Heap) (value : Value) : Prop :=
  ∃ region, heap.Closed region ∧ value.Within region

/-- A later store in which every tame value is still tame. -/
def Heap.KeepsTame (heap later : Heap) : Prop :=
  ∀ value : Value, value.Tame heap → value.Tame later

namespace Value

variable {heap : Heap} {value : Value} {ref : Ref}

/-- Values that are no containers are tame. -/
theorem tame_of_within (hwithin : ∀ region, value.Within region) : value.Tame heap :=
  ⟨fun _ => False, fun _ hfalse => hfalse.elim, hwithin _⟩

theorem Tame.lt_size (htame : (list ref).Tame heap) : ref < heap.sequences.size := by
  obtain ⟨region, hclosed, hin⟩ := htame
  exact (hclosed ref hin).1

theorem Tame.items (htame : (list ref).Tame heap) {item : Value} (hitem : item ∈ heap.items ref) :
    item.Tame heap := by
  obtain ⟨region, hclosed, hin⟩ := htame
  exact ⟨region, hclosed, (hclosed ref hin).2 item hitem⟩

/-- The tame lists are a region that every tame value stands in. -/
theorem Tame.within (htame : value.Tame heap) :
    value.Within fun other => (list other).Tame heap := by
  obtain ⟨region, hclosed, hin⟩ := htame
  cases value with
  | list other => exact ⟨region, hclosed, hin⟩
  | tuple other | set other | dict other => exact hin
  | _ => trivial

/-- A list of tame items is tame. -/
theorem tame_list (hlt : ref < heap.sequences.size)
    (hitems : ∀ item ∈ heap.items ref, item.Tame heap) : (list ref).Tame heap := by
  refine ⟨fun other => other = ref ∨ (list other).Tame heap, ?_, Or.inl rfl⟩
  have hwiden : ∀ item : Value, item.Tame heap →
      item.Within fun other => other = ref ∨ (list other).Tame heap := by
    intro item hitem
    have hwithin := hitem.within
    cases item with
    | list other => exact Or.inr hitem
    | tuple other | set other | dict other => exact hwithin
    | _ => trivial
  rintro other (rfl | hother)
  · exact ⟨hlt, fun item hitem => hwiden item (hitems item hitem)⟩
  · exact ⟨hother.lt_size, fun item hitem => hwiden item (hother.items hitem)⟩

end Value

open Value

/-! ### Stores that keep tame values -/

namespace Heap

variable {heap middle later : Heap} {ref : Ref}

/-- It is enough that tame lists hold values that were tame before. -/
theorem keepsTame_of_items (hsize : heap.sequences.size ≤ later.sequences.size)
    (hitems : ∀ ref, (list ref).Tame heap → ∀ item ∈ later.items ref, item.Tame heap) :
    heap.KeepsTame later := by
  intro value htame
  refine ⟨fun other => (list other).Tame heap, fun other hother => ?_, htame.within⟩
  exact ⟨hother.lt_size.trans_le hsize, fun item hitem => (hitems other hother item hitem).within⟩

theorem KeepsTame.refl (heap : Heap) : heap.KeepsTame heap :=
  fun _ htame => htame

theorem KeepsTame.trans (hfirst : heap.KeepsTame middle) (hsecond : middle.KeepsTame later) :
    heap.KeepsTame later :=
  fun value htame => hsecond value (hfirst value htame)

theorem Grows.keepsTame (hgrows : heap.Grows later) : heap.KeepsTame later := by
  refine keepsTame_of_items (by simpa using hgrows.sequences.length_le) ?_
  intro ref htame item hitem
  rw [hgrows.items_eq htame.lt_size] at hitem
  exact htame.items hitem

theorem keepsTame_write {items : List Value} (hitems : ∀ item ∈ items, item.Tame heap) :
    heap.KeepsTame (heap.write ref items) := by
  refine keepsTame_of_items (by simp [write]) fun other htame item hitem => ?_
  have hlt := htame.lt_size
  by_cases hsame : ref = other
  · subst hsame
    have hwritten : (heap.write ref items).items ref = items := by
      simp [Heap.items, write, hlt]
    exact hitems item (hwritten ▸ hitem)
  · have hother : (heap.write ref items).items other = heap.items other := by
      simp only [Heap.items, write, Array.getElem?_setIfInBounds_ne hsame]
    exact htame.items (hother ▸ hitem)

/-- What a computation made from a store: a tame value, in a store that keeps tame values. -/
structure MadeTame (heap : Heap) (made : Value × Heap) : Prop where
  keeps : heap.KeepsTame made.2
  tame : made.1.Tame made.2

theorem MadeTame.after {made : Value × Heap} (hmade : middle.MadeTame made)
    (hkeeps : heap.KeepsTame middle) : heap.MadeTame made :=
  ⟨hkeeps.trans hmade.keeps, hmade.tame⟩

theorem madeTame_same {value : Value} (htame : value.Tame heap) : heap.MadeTame (value, heap) :=
  ⟨KeepsTame.refl heap, htame⟩

theorem madeTame_newNumber (heap : Heap) (number : Numeric) :
    heap.MadeTame (heap.newNumber number) := by
  refine ⟨(heap.grows_newNumber number).keepsTame, tame_of_within fun region => ?_⟩
  unfold newNumber
  split <;> cases number <;> trivial

theorem madeTame_newList {items : List Value} (hitems : ∀ item ∈ items, item.Tame heap) :
    heap.MadeTame (heap.newList items) := by
  have hkeeps := (heap.grows_newList items).keepsTame
  refine ⟨hkeeps, tame_list (heap.alloc_lt_size items) fun item hitem => ?_⟩
  refine hkeeps item (hitems item ?_)
  have hnew : (heap.newList items).2.items (heap.alloc items).1 = items := heap.items_alloc items
  exact hnew ▸ hitem

end Heap

open Heap

/-! ### Sequences -/

namespace Value

variable {heap : Heap} {value left right : Value} {symbol : String}

theorem tame_int (n : Int) : (int n).Tame heap :=
  tame_of_within fun _ => trivial

theorem tame_text (s : String) : (text s).Tame heap :=
  tame_of_within fun _ => trivial

theorem mem_of_itemAt {α : Type} {kind : ValueKind} {items : List α} {index : Value} {item : α}
    (hitem : itemAt kind items index = .ok item) : item ∈ items := by
  unfold itemAt at hitem
  split at hitem
  · cases hitem
  · split at hitem
    · rename_i found hfound
      cases hitem
      obtain ⟨place, -, hplace⟩ := Option.bind_eq_some_iff.mp hfound
      exact List.mem_of_getElem? hplace
    · cases hitem

/-- What a tame value has at an index is tame. -/
theorem subscript_tame (htame : value.Tame heap) (index : Value) :
    Sound (fun item => item.Tame heap) (value.subscript heap index) := by
  cases value with
  | text s => exact (itemAt_told _ _ _).map fun _ => tame_text _
  | bytes data => exact (itemAt_told _ _ _).map fun _ => tame_int _
  | list ref =>
      exact (itemAt_told _ _ _).eq.mono fun item hitem => htame.items (mem_of_itemAt hitem)
  | tuple ref | dict ref => exact htame.within.elim
  | _ => exact sound_error rfl

/-- A walk through a tame value meets tame values. -/
theorem walk_tame (htame : value.Tame heap) :
    Sound (fun items => ∀ item ∈ items, item.Tame heap) (value.walk heap) := by
  cases value with
  | text s =>
      refine sound_ok fun item hitem => ?_
      obtain ⟨c, -, rfl⟩ := List.mem_map.mp hitem
      exact tame_text _
  | bytes data =>
      refine sound_ok fun item hitem => ?_
      obtain ⟨byte, -, rfl⟩ := List.mem_map.mp hitem
      exact tame_int _
  | list ref => exact sound_ok fun item hitem => htame.items hitem
  | tuple ref | set ref | dict ref => exact htame.within.elim
  | _ => exact sound_error rfl

theorem mem_of_mem_sliceItems {α : Type} {items : List α} {first last : Int} {item : α}
    (hitem : item ∈ sliceItems items first last) : item ∈ items :=
  List.mem_of_mem_take (List.mem_of_mem_drop hitem)

theorem slice_tame (htame : value.Tame heap) (first last : Int) :
    Sound heap.MadeTame (value.slice heap first last) := by
  cases value with
  | text s => exact sound_ok (madeTame_same (tame_text _))
  | bytes data => exact sound_ok (madeTame_same (tame_of_within fun _ => trivial))
  | list ref =>
      exact sound_ok (madeTame_newList fun item hitem => htame.items (mem_of_mem_sliceItems hitem))
  | tuple ref => exact htame.within.elim
  | _ => exact sound_error rfl

/-- Items are written into tame lists only. -/
theorem storeItem_tame {array item : Value} (harray : array.Tame heap) (hitem : item.Tame heap)
    (index : Int) : Sound heap.KeepsTame (Instruction.storeItem heap array index item) := by
  have hwritten : ∀ (ref : Ref) (place : Nat), array = .list ref →
      heap.KeepsTame (heap.write ref ((heap.items ref).set place item)) := by
    rintro ref place rfl
    refine keepsTame_write fun other hother => ?_
    rcases List.mem_or_eq_of_mem_set hother with hold | rfl
    · exact harray.items hold
    · exact hitem
  have happended : ∀ ref, array = .list ref →
      heap.KeepsTame (heap.write ref (heap.items ref ++ [item])) := by
    rintro ref rfl
    refine keepsTame_write fun other hother => ?_
    rcases List.mem_append.mp hother with hold | hnew
    · exact harray.items hold
    · exact List.mem_singleton.mp hnew ▸ hitem
  refine (length_told heap array).bind fun length => ?_
  split
  · refine (assign_told heap array index item).eq.mono fun later hlater => ?_
    unfold assign at hlater
    split at hlater
    · split at hlater
      · cases hlater
        exact hwritten _ _ rfl
      · cases hlater
    · exact harray.within.elim
    · cases hlater
  · split
    · refine (append_told heap array item).eq.mono fun later hlater => ?_
      unfold append at hlater
      split at hlater
      · cases hlater
        exact happended _ rfl
      · cases hlater
    · exact sound_ok (KeepsTame.refl heap)

/-! ### Operators -/

theorem mem_of_mem_repeatItems {α : Type} {items : List α} {count : Nat} {item : α}
    (hitem : item ∈ repeatItems items count) : item ∈ items := by
  obtain ⟨part, hpart, hin⟩ := List.mem_flatten.mp hitem
  exact (List.mem_replicate.mp hpart).2 ▸ hin

theorem repeatSequence_tame (htame : value.Tame heap) (count : Int) :
    Sound heap.MadeTame (repeatSequence heap value count) := by
  unfold repeatSequence
  dsimp only
  split
  · exact sound_error rfl
  · refine (length_told heap value).bind fun length => ?_
    split
    · split
      · exact Meets.ite (sound_error rfl) (sound_error rfl)
      · exact Meets.ite (sound_error rfl) (sound_error rfl)
      · exact sound_error rfl
    · split
      · exact sound_ok (madeTame_same (tame_text _))
      · exact sound_ok (madeTame_same (tame_of_within fun _ => trivial))
      · refine sound_ok (madeTame_newList fun item hitem => ?_)
        exact htame.items (mem_of_mem_repeatItems hitem)
      · exact htame.within.elim
      · exact sound_error rfl

theorem add_tame (hleft : left.Tame heap) (hright : right.Tame heap) :
    Sound heap.MadeTame (add heap symbol left right) := by
  unfold add
  split
  · exact (Numeric.add_told _ _).map heap.madeTame_newNumber
  · split
    · exact sound_ok (madeTame_same (tame_text _))
    · exact sound_ok (madeTame_same (tame_of_within fun _ => trivial))
    · refine sound_ok (madeTame_newList fun item hitem => ?_)
      rcases List.mem_append.mp hitem with hfirst | hsecond
      · exact hleft.items hfirst
      · exact hright.items hsecond
    · exact hleft.within.elim
    · exact Meets.ite (sound_error rfl) (sound_error rfl)

/-- A list that is added to takes in what a walk through the other value meets. -/
theorem addInPlace_tame (hleft : left.Tame heap) (hright : right.Tame heap) :
    Sound heap.MadeTame (addInPlace heap left right) := by
  unfold addInPlace
  split
  · rename_i ref
    refine (walk_tame hright).bind fun items hitems => sound_ok ?_
    have hkeeps : heap.KeepsTame (heap.write ref (heap.items ref ++ items)) := by
      refine keepsTame_write fun item hitem => ?_
      rcases List.mem_append.mp hitem with hold | hnew
      · exact hleft.items hold
      · exact hitems item hnew
    exact ⟨hkeeps, hkeeps _ hleft⟩
  · exact add_tame hleft hright

theorem sub_tame (hleft : left.Tame heap) : Sound heap.MadeTame (sub heap symbol left right) := by
  unfold sub
  split
  · exact (Numeric.sub_told _ _).map heap.madeTame_newNumber
  · split
    · exact hleft.within.elim
    · exact sound_error rfl

theorem mul_tame (hleft : left.Tame heap) (hright : right.Tame heap) :
    Sound heap.MadeTame (mul heap symbol left right) := by
  unfold mul
  split
  · exact (Numeric.mul_told _ _).map heap.madeTame_newNumber
  · split
    · split
      · exact repeatSequence_tame hleft _
      · exact sound_error rfl
    · split
      · split
        · exact repeatSequence_tame hright _
        · exact sound_error rfl
      · exact sound_error rfl

theorem onNumbers_tame {operation : Fault → Numeric → Numeric → Except Fault Numeric}
    (htold : ∀ refusal x y, refusal.isTold = true → Told (operation refusal x y)) :
    Sound heap.MadeTame (onNumbers heap symbol operation left right) := by
  unfold onNumbers
  dsimp only
  split
  · exact (htold _ _ _ rfl).map heap.madeTame_newNumber
  · exact sound_error rfl

theorem mod_tame : Sound heap.MadeTame (mod heap symbol left right) := by
  unfold mod
  split
  · exact (format_told heap _ right _).bind fun _ => sound_ok (madeTame_same (tame_text _))
  · exact (format_told heap _ right _).bind fun _ =>
      sound_ok (madeTame_same (tame_of_within fun _ => trivial))
  · exact onNumbers_tame fun _ x y hrefusal => Numeric.mod_told hrefusal x y

/-- Sets apart, bitwise operators make truth values and integers. -/
theorem bitwise_tame (hleft : left.Tame heap) {onBools : Bool → Bool → Bool}
    {onInts : Int → Int → Int} {onSets : Members → Members → Except Fault Members} :
    Sound heap.MadeTame (bitwise heap symbol onBools onInts onSets left right) := by
  unfold bitwise
  split
  · exact sound_ok (madeTame_same (tame_of_within fun _ => trivial))
  · exact hleft.within.elim
  · split
    · exact sound_ok (madeTame_same (tame_int _))
    · exact sound_error rfl

theorem bitOr_tame (hleft : left.Tame heap) :
    Sound heap.MadeTame (bitOr heap symbol left right) := by
  unfold bitOr
  split
  · exact hleft.within.elim
  · exact bitwise_tame hleft

theorem shift_tame {operation : Int → Int → Except Fault Int}
    (htold : ∀ m n, Told (operation m n)) :
    Sound heap.MadeTame (shift heap symbol operation left right) := by
  unfold shift
  split
  · refine Meets.ite (sound_error rfl) ?_
    exact (htold _ _).map fun n => madeTame_same (tame_int n)
  · exact sound_error rfl

theorem shiftLeft_tame : Sound heap.MadeTame (shiftLeft heap symbol left right) := by
  refine shift_tame fun m n => Meets.ite (told_ok _) (Meets.ite (told_ok _) ?_)
  exact Meets.ite (sound_error rfl) (sound_error rfl)

theorem shiftRight_tame : Sound heap.MadeTame (shiftRight heap symbol left right) :=
  shift_tame fun _ _ => Meets.ite (told_ok _) (told_ok _)

/-- Sums and products apart, an operator takes nothing over from its right side. -/
theorem operate_tame_of_left (hleft : left.Tame heap) {operator : Operator}
    (hadd : operator ≠ .add) (hmul : operator ≠ .mul) :
    Sound heap.MadeTame (operate heap operator left right) := by
  unfold operate
  cases operator with
  | add => exact absurd rfl hadd
  | mul => exact absurd rfl hmul
  | sub => exact sub_tame hleft
  | div => exact onNumbers_tame fun _ x y _ => Numeric.div_told x y
  | floorDiv => exact onNumbers_tame fun _ x y hrefusal => Numeric.floorDiv_told hrefusal x y
  | mod => exact mod_tame
  | pow => exact onNumbers_tame fun _ x y _ => Numeric.pow_told x y
  | shl => exact shiftLeft_tame
  | shr => exact shiftRight_tame
  | and | xor => exact bitwise_tame hleft
  | or => exact bitOr_tame hleft
  | matMul => exact sound_error rfl

/-- Operators make tame values of tame ones. -/
theorem operate_tame (hleft : left.Tame heap) (hright : right.Tame heap) (operator : Operator) :
    Sound heap.MadeTame (operate heap operator left right) := by
  cases operator with
  | add => exact add_tame hleft hright
  | mul => exact mul_tame hleft hright
  | _ => exact operate_tame_of_left hleft nofun nofun

end Value

end Dalvik
