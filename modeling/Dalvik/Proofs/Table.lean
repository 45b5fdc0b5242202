import Dalvik.Table
import Mathlib.Data.List.Nodup

namespace Dalvik.Table

variable {α : Type}

@[simp]
theorem get?_nil (name : String) : get? ([] : Table α) name = none := rfl

theorem get?_cons (other : String) (value : α) (rest : Table α) (name : String) :
    get? ((other, value) :: rest) name = if name = other then some value else rest.get? name := by
  unfold get?
  rw [List.lookup_cons]
  by_cases heq : name = other
  · simp [heq]
  · rw [if_neg heq, beq_eq_false_iff_ne.mpr heq]

@[simp]
theorem get?_insert_self (table : Table α) (name : String) (value : α) :
    (table.insert name value).get? name = some value := by
  induction table with
  | nil => simp [insert, get?_cons]
  | cons entry rest ih =>
      obtain ⟨other, old⟩ := entry
      by_cases heq : other = name
      · simp [insert, heq, get?_cons]
      · simp [insert, heq, Ne.symm heq, get?_cons, ih]

theorem get?_insert_of_ne (table : Table α) {name query : String} (value : α)
    (hne : query ≠ name) : (table.insert name value).get? query = table.get? query := by
  induction table with
  | nil => simp [insert, get?_cons, hne]
  | cons entry rest ih =>
      obtain ⟨other, old⟩ := entry
      by_cases heq : other = name
      · subst heq
        simp [insert, get?_cons, hne]
      · simp [insert, heq, get?_cons, ih]

/-- Writing an entry changes what is found under its name, and nothing else. -/
theorem get?_insert (table : Table α) (name query : String) (value : α) :
    (table.insert name value).get? query = if query = name then some value else table.get? query := by
  by_cases heq : query = name
  · subst heq
    simp
  · rw [get?_insert_of_ne table value heq, if_neg heq]

theorem insert_of_get? {table : Table α} {name : String} {value : α}
    (hvalue : table.get? name = some value) : table.insert name value = table := by
  induction table with
  | nil => cases hvalue
  | cons entry rest ih =>
      obtain ⟨other, old⟩ := entry
      rw [get?_cons] at hvalue
      by_cases heq : name = other
      · rw [if_pos heq] at hvalue
        rw [insert, if_pos heq.symm, Option.some.inj hvalue, heq]
      · rw [if_neg heq] at hvalue
        rw [insert, if_neg (Ne.symm heq), ih hvalue]

theorem mem_names_insert (table : Table α) (name query : String) (value : α) :
    query ∈ (table.insert name value).names ↔ query = name ∨ query ∈ table.names := by
  induction table with
  | nil => simp [insert, names]
  | cons entry rest ih =>
      obtain ⟨other, old⟩ := entry
      unfold names at ih ⊢
      by_cases heq : other = name
      · subst heq
        simp [insert]
      · simp only [insert, heq, if_false, List.map_cons, List.mem_cons, ih]
        tauto

/-- A table in which no name stands twice stays one. -/
theorem nodup_names_insert {table : Table α} (hnodup : table.names.Nodup) (name : String)
    (value : α) : (table.insert name value).names.Nodup := by
  induction table with
  | nil => simp [insert, names]
  | cons entry rest ih =>
      obtain ⟨other, old⟩ := entry
      have hhead : other ∉ names rest := (List.nodup_cons.mp hnodup).1
      have hrest : (names rest).Nodup := (List.nodup_cons.mp hnodup).2
      by_cases heq : other = name
      · subst heq
        simpa [insert, names] using hnodup
      · have hsplit : names (insert ((other, old) :: rest) name value) =
            other :: names (insert rest name value) := by
          simp [insert, heq, names]
        rw [hsplit, List.nodup_cons, mem_names_insert]
        exact ⟨fun hmem => hmem.elim heq hhead, ih hrest⟩

theorem mem_of_get? {table : Table α} {name : String} {value : α}
    (hget : table.get? name = some value) : (name, value) ∈ table := by
  obtain ⟨before, behind, hsplit, -⟩ := List.lookup_eq_some_iff.mp hget
  rw [hsplit]
  exact List.mem_append_right before List.mem_cons_self

theorem get?_isSome_iff (table : Table α) (name : String) :
    (table.get? name).isSome ↔ name ∈ table.names := by
  induction table with
  | nil => simp [names]
  | cons entry rest ih =>
      obtain ⟨other, old⟩ := entry
      by_cases heq : name = other
      · simp [get?_cons, heq, names]
      · simpa [get?_cons, heq, names] using ih

/-! ### A change of all values -/

def mapValues (change : α → α) (table : Table α) : Table α :=
  table.map fun (name, value) => (name, change value)

theorem get?_mapValues (change : α → α) (table : Table α) (name : String) :
    (table.mapValues change).get? name = (table.get? name).map change := by
  induction table with
  | nil => rfl
  | cons entry rest ih =>
      obtain ⟨other, value⟩ := entry
      have hcons : mapValues change ((other, value) :: rest) =
          (other, change value) :: mapValues change rest := rfl
      rw [hcons, get?_cons, get?_cons, ih]
      split <;> rfl

theorem mapValues_insert (change : α → α) (table : Table α) (name : String) (value : α) :
    (table.insert name value).mapValues change =
      (table.mapValues change).insert name (change value) := by
  induction table with
  | nil => rfl
  | cons entry rest ih =>
      obtain ⟨other, old⟩ := entry
      have hcons : mapValues change ((other, old) :: rest) =
          (other, change old) :: mapValues change rest := rfl
      rw [hcons, insert, insert]
      split
      · rfl
      · rw [← ih]
        rfl

theorem names_mapValues (change : α → α) (table : Table α) :
    (table.mapValues change).names = table.names := by
  simp [mapValues, names, Function.comp_def]

end Dalvik.Table
