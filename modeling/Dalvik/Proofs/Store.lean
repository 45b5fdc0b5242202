import Dalvik.Expr.Literal
import Mathlib.Data.List.Infix

/-!
# A store that only grows

Reading literals makes new lists, sets and tables and leaves those that are there alone. A value
that was read earlier therefore still has the contents it was read with.
-/

namespace Dalvik

theorem bind_eq_ok {ε α β : Type} {x : Except ε α} {f : α → Except ε β} {b : β} :
    (x >>= f) = .ok b ↔ ∃ a, x = .ok a ∧ f a = .ok b := by
  cases x <;> simp [bind, Except.bind]

theorem pure_eq_ok {ε α : Type} {x y : α} : (pure x : Except ε α) = .ok y ↔ x = y :=
  Except.ok.injEq x y ▸ Iff.rfl

/-- Everything in the store is still in the later one, with the same contents. -/
structure Heap.Grows (heap later : Heap) : Prop where
  sequences : heap.sequences.toList <+: later.sequences.toList
  sets : heap.sets.toList <+: later.sets.toList
  tables : heap.tables.toList <+: later.tables.toList
  serial : heap.serial ≤ later.serial

namespace Heap

variable {heap middle later : Heap}

theorem Grows.refl (heap : Heap) : heap.Grows heap :=
  ⟨List.prefix_rfl, List.prefix_rfl, List.prefix_rfl, le_rfl⟩

theorem Grows.trans (hfirst : heap.Grows middle) (hsecond : middle.Grows later) :
    heap.Grows later :=
  ⟨hfirst.sequences.trans hsecond.sequences, hfirst.sets.trans hsecond.sets,
    hfirst.tables.trans hsecond.tables, hfirst.serial.trans hsecond.serial⟩

theorem Grows.items_eq (hgrows : heap.Grows later) {ref : Ref} (hlt : ref < heap.sequences.size) :
    later.items ref = heap.items ref := by
  obtain ⟨added, hadded⟩ := hgrows.sequences
  have hget : later.sequences[ref]? = heap.sequences[ref]? := by
    rw [← Array.getElem?_toList, ← hadded, List.getElem?_append_left (by simpa using hlt),
      Array.getElem?_toList]
  simp only [items, hget]

theorem grows_alloc (heap : Heap) (items : List Value) : heap.Grows (heap.alloc items).2 :=
  ⟨by simp [alloc], List.prefix_rfl, List.prefix_rfl, le_rfl⟩

theorem items_alloc (heap : Heap) (items : List Value) :
    (heap.alloc items).2.items (heap.alloc items).1 = items := by
  simp [alloc, Heap.items]

theorem alloc_lt_size (heap : Heap) (items : List Value) :
    (heap.alloc items).1 < (heap.alloc items).2.sequences.size := by
  simp [alloc]

theorem grows_newSet (heap : Heap) (members : Members) : heap.Grows (heap.newSet members).2 :=
  ⟨List.prefix_rfl, by simp [newSet], List.prefix_rfl, le_rfl⟩

theorem grows_newDict (heap : Heap) (entries : List (Value × Value)) :
    heap.Grows (heap.newDict entries).2 :=
  ⟨List.prefix_rfl, List.prefix_rfl, by simp [newDict, allocTable], le_rfl⟩

theorem grows_newNumber (heap : Heap) (number : Numeric) :
    heap.Grows (heap.newNumber number).2 := by
  unfold newNumber
  split
  · exact ⟨List.prefix_rfl, List.prefix_rfl, List.prefix_rfl, Nat.le_succ _⟩
  · exact Grows.refl heap

end Heap

namespace Expr

mutual

theorem literal_grows {heap later : Heap} {value : Value} (expr : Expr)
    (hread : literal heap expr = .ok (value, later)) : heap.Grows later := by
  unfold literal at hread
  split at hread
  · cases hread
    exact Heap.Grows.refl heap
  · rename_i items
    obtain ⟨⟨values, middle⟩, hitems, hmake⟩ := bind_eq_ok.mp hread
    cases hmake
    exact (literals_grows items hitems).trans (middle.grows_alloc values)
  · rename_i items
    obtain ⟨⟨values, middle⟩, hitems, hmake⟩ := bind_eq_ok.mp hread
    cases hmake
    exact (literals_grows items hitems).trans (middle.grows_alloc values)
  · rename_i items
    obtain ⟨⟨members, middle⟩, hitems, hmake⟩ := bind_eq_ok.mp hread
    cases hmake
    exact (literalMembers_grows items hitems).trans (middle.grows_newSet members)
  · rename_i entries
    obtain ⟨⟨table, middle⟩, hentries, hmake⟩ := bind_eq_ok.mp hread
    cases hmake
    exact (literalEntries_grows entries hentries).trans (middle.grows_newDict table)
  · cases hread
    exact heap.grows_newSet .empty
  · split at hread
    · rename_i result _
      cases result with
      | error cause => cases hread
      | ok number =>
          cases hread
          exact Heap.Grows.refl heap
    · cases hread
  · split at hread
    · cases hread
      exact Heap.Grows.refl heap
    · cases hread
termination_by sizeOf expr

theorem literals_grows {heap later : Heap} {values : List Value} (items : List Expr)
    (hread : literals heap items = .ok (values, later)) : heap.Grows later := by
  cases items with
  | nil =>
      rw [literals] at hread
      cases hread
      exact Heap.Grows.refl heap
  | cons item rest =>
      rw [literals] at hread
      obtain ⟨⟨value, middle⟩, hitem, htail⟩ := bind_eq_ok.mp hread
      obtain ⟨⟨others, last⟩, hrest, hmake⟩ := bind_eq_ok.mp htail
      cases hmake
      exact (literal_grows item hitem).trans (literals_grows rest hrest)
termination_by sizeOf items

theorem literalMembers_grows {heap later : Heap} {members result : Members} (items : List Expr)
    (hread : literalMembers heap members items = .ok (result, later)) : heap.Grows later := by
  cases items with
  | nil =>
      rw [literalMembers] at hread
      cases hread
      exact Heap.Grows.refl heap
  | cons item rest =>
      rw [literalMembers] at hread
      obtain ⟨⟨value, middle⟩, hitem, htail⟩ := bind_eq_ok.mp hread
      obtain ⟨_, _, hrest⟩ := bind_eq_ok.mp htail
      exact (literal_grows item hitem).trans (literalMembers_grows rest hrest)
termination_by sizeOf items

theorem literalEntries_grows {heap later : Heap} {table result : List (Value × Value)}
    (entries : List (Option Expr × Expr))
    (hread : literalEntries heap table entries = .ok (result, later)) : heap.Grows later := by
  match entries with
  | [] =>
      rw [literalEntries] at hread
      cases hread
      exact Heap.Grows.refl heap
  | (none, operand) :: rest =>
      rw [literalEntries] at hread
      cases hread
  | (some key, value) :: rest =>
      rw [literalEntries] at hread
      obtain ⟨⟨keyValue, afterKey⟩, hkey, htail⟩ := bind_eq_ok.mp hread
      obtain ⟨⟨itemValue, afterItem⟩, hvalue, htail⟩ := bind_eq_ok.mp htail
      obtain ⟨_, _, hrest⟩ := bind_eq_ok.mp htail
      exact ((literal_grows key hkey).trans (literal_grows value hvalue)).trans
        (literalEntries_grows rest hrest)
termination_by sizeOf entries

end

theorem readLiteral_grows {heap later : Heap} {text : String} {value : Value}
    (hread : readLiteral heap text = .ok (value, later)) : heap.Grows later := by
  unfold readLiteral at hread
  split at hread
  · rename_i expr _
    exact literal_grows expr hread
  · cases hread

end Expr

end Dalvik
