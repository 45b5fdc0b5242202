import Dalvik.Expr.Literal
import Dalvik.Value.Datum

/-!
# Stores behind other stores

A literal is read into a store, which has room for its parts. Where that room lies does not matter:
read behind another store, the literal has the same value with its references moved on, and what
can be seen of the value is the same.
-/

namespace Dalvik

/-! ### Members of sets under a change of values -/

def Slot.map (change : Value → Value) : Slot → Slot
  | .vacant => .vacant
  | .erased => .erased
  | .taken hash member => .taken hash (change member)

namespace Members

def map (change : Value → Value) (members : Members) : Members :=
  ⟨members.slots.map (Slot.map change)⟩

variable (change : Value → Value) (members : Members)

theorem empty_map : empty.map change = empty := by
  simp [empty, map, Slot.map]

theorem entries_map :
    (members.map change).entries = members.entries.map (Prod.map id change) := by
  unfold entries map
  rw [Array.toList_map, List.filterMap_map, List.map_filterMap]
  congr 1
  funext slot
  cases slot <;> rfl

theorem toList_map : (members.map change).toList = members.toList.map change := by
  rw [toList, entries_map, List.map_map, toList, List.map_map]
  rfl

theorem size_map : (members.map change).size = members.size := by
  rw [size, entries_map, List.length_map, size]

theorem filled_map : (members.map change).filled = members.filled := by
  unfold filled map
  rw [Array.toList_map, List.countP_map]
  congr 1
  funext slot
  cases slot <;> rfl

theorem crowded_map (count : Nat) : (members.map change).crowded count = members.crowded count := by
  simp only [crowded, map, Array.size_map]

theorem put_map (index : Nat) (slot : Slot) :
    (members.map change).put index (slot.map change) = (members.put index slot).map change := by
  simp only [put, map, Array.map_setIfInBounds]

/-- A search by what the change leaves alone comes to the same end. -/
theorem seekFor_map {α : Type} {stop moved : Nat → Slot → Option α} (hash : UInt64)
    (hstop : ∀ index slot, moved index (slot.map change) = stop index slot) :
    (members.map change).seekFor hash moved = members.seekFor hash stop := by
  have hlook : (fun index => (members.map change).slots[index]?.bind (moved index)) =
      fun index => members.slots[index]?.bind (stop index) := by
    funext index
    rw [map, Array.getElem?_map]
    cases members.slots[index]? with
    | none => rfl
    | some slot => exact hstop index slot
  unfold seekFor
  rw [hlook]
  simp only [map, Array.size_map]

theorem place_map (hash : UInt64) (value : Value) :
    (members.map change).place hash (change value) = (members.place hash value).map change := by
  unfold place
  simp only
  generalize hmoved : (members.map change).seekFor hash _ = moved
  generalize hfound : members.seekFor hash _ = found
  obtain rfl : moved = found := by
    rw [← hmoved, ← hfound]
    exact seekFor_map change members hash fun index slot => by cases slot <;> rfl
  cases moved with
  | none => rfl
  | some index => exact members.put_map change index (.taken hash value)

theorem resized_map (least : Nat) :
    (members.map change).resized least = (members.resized least).map change := by
  unfold resized
  rw [filled_map, size_map]
  simp only [map, Array.size_map]
  split
  · rfl
  · have hfold : ∀ (entries : List (UInt64 × Value)) (table : Members),
        (entries.map (Prod.map id change)).foldl (fun table entry => table.place entry.1 entry.2)
            (table.map change) =
          (entries.foldl (fun table entry => table.place entry.1 entry.2) table).map change := by
      intro entries
      induction entries with
      | nil => exact fun _ => rfl
      | cons entry rest ih =>
          intro table
          rw [List.map_cons, List.foldl_cons, List.foldl_cons, ← ih, ← place_map]
          rfl
    have hentries := members.entries_map change
    rw [map] at hentries
    rw [hentries, ← map, ← hfold]
    simp [map, Slot.map]

variable {change} {equal moved : Value → Value → Except Fault Bool}
  (hequal : ∀ left right, moved (change left) (change right) = equal left right)

include hequal

theorem locate_map (hash : UInt64) (value : Value) :
    locate moved (members.map change) hash (change value) = locate equal members hash value := by
  unfold locate
  simp only
  congr 1
  · refine seekFor_map change members hash fun index slot => ?_
    cases slot with
    | vacant => rfl
    | erased => rfl
    | taken other member => simp only [Slot.map, hequal]
  · simp only [map, Array.size_map]

theorem contains_map (hash : UInt64) (value : Value) :
    contains moved (members.map change) hash (change value) =
      contains equal members hash value := by
  unfold contains
  rw [locate_map members hequal]

theorem included_map (others : Members) :
    (members.map change).included moved (others.map change) = members.included equal others := by
  unfold included
  rw [entries_map]
  generalize members.entries = entries
  induction entries with
  | nil => rfl
  | cons entry rest ih =>
      rw [List.map_cons, List.allM, List.allM, ih]
      simp only [Prod.map, contains_map others hequal, id]

theorem insert_map (hash : UInt64) (value : Value) :
    insert moved (members.map change) hash (change value) =
      (insert equal members hash value).map (map change) := by
  unfold insert
  rw [locate_map members hequal]
  cases locate equal members hash value with
  | error cause => rfl
  | ok found =>
      cases found with
      | member index => rfl
      | vacancy index =>
          have hput := members.put_map change index (.taken hash value)
          simp only [Slot.map] at hput
          simp only [bind, Except.bind, hput, crowded_map, filled_map, size_map, resized_map]
          split <;> rfl

end Members

/-! ### Items and entries under a change of values -/

namespace Value

variable {change : Value → Value} {equal moved : Value → Value → Except Fault Bool}
  (hequal : ∀ left right, moved (change left) (change right) = equal left right)

include hequal

theorem allEqual_map (items others : List Value) :
    allEqual moved (items.map change) (others.map change) = allEqual equal items others := by
  induction items generalizing others with
  | nil => rfl
  | cons item rest ih =>
      cases others with
      | nil => rfl
      | cons other others => simp only [List.map_cons, allEqual, hequal, ih]

theorem lookupWith_map (key : Value) (entries : List (Value × Value)) :
    lookupWith moved (change key) (entries.map (Prod.map change change)) =
      (lookupWith equal key entries).map (Option.map change) := by
  induction entries with
  | nil => rfl
  | cons entry rest ih =>
      simp only [List.map_cons, Prod.map, lookupWith, hequal]
      split
      · rfl
      · exact ih
      · rfl

theorem entriesIncluded_map (others entries : List (Value × Value)) :
    entriesIncluded moved (others.map (Prod.map change change))
        (entries.map (Prod.map change change)) =
      entriesIncluded equal others entries := by
  induction entries with
  | nil => rfl
  | cons entry rest ih =>
      simp only [List.map_cons, Prod.map, entriesIncluded, lookupWith_map hequal]
      cases lookupWith equal entry.1 others with
      | error cause => rfl
      | ok found =>
          cases found with
          | none => rfl
          | some other =>
              simp only [Except.map, Option.map, hequal]
              split
              · exact ih
              · rfl

theorem replaceEntry_map (key value : Value) (entries : List (Value × Value)) :
    replaceEntry moved (change key) (change value) (entries.map (Prod.map change change)) =
      (replaceEntry equal key value entries).map (List.map (Prod.map change change)) := by
  induction entries with
  | nil => rfl
  | cons entry rest ih =>
      simp only [List.map_cons, Prod.map, replaceEntry, hequal]
      split
      · rfl
      · rw [ih]
        cases replaceEntry equal key value rest <;> rfl
      · rfl

end Value

/-! ### Two stores as one -/

/-- The value in a store that has another one before it. -/
def Value.behind (base : Heap) : Value → Value
  | .list ref => .list (base.sequences.size + ref)
  | .tuple ref => .tuple (base.sequences.size + ref)
  | .dict ref => .dict (base.tables.size + ref)
  | .set ref => .set (base.sets.size + ref)
  | value => value

def Value.Container.behind (base : Heap) : Value.Container → Value.Container
  | .sequence ref => .sequence (base.sequences.size + ref)
  | .table ref => .table (base.tables.size + ref)

namespace Heap

/-- The second store behind the first one. -/
def append (base heap : Heap) : Heap where
  sequences := base.sequences ++ heap.sequences.map (List.map (Value.behind base))
  sets := base.sets ++ heap.sets.map (Members.map (Value.behind base))
  tables := base.tables ++ heap.tables.map (List.map (Prod.map (Value.behind base)
    (Value.behind base)))
  serial := base.serial

variable (base heap : Heap)

theorem append_empty : base.append {} = base := by
  simp [append]

theorem items_append (ref : Ref) :
    (base.append heap).items (base.sequences.size + ref) =
      (heap.items ref).map (Value.behind base) := by
  simp only [items, append, Array.getElem?_append_right (Nat.le_add_right _ ref),
    Nat.add_sub_cancel_left, Array.getElem?_map]
  cases heap.sequences[ref]? <;> rfl

theorem members_append (ref : Ref) :
    (base.append heap).members (base.sets.size + ref) =
      (heap.members ref).map (Value.behind base) := by
  simp only [members, append, Array.getElem?_append_right (Nat.le_add_right _ ref),
    Nat.add_sub_cancel_left, Array.getElem?_map]
  cases heap.sets[ref]? with
  | none => exact (Members.empty_map _).symm
  | some members => rfl

theorem entries_append (ref : Ref) :
    (base.append heap).entries (base.tables.size + ref) =
      (heap.entries ref).map (Prod.map (Value.behind base) (Value.behind base)) := by
  simp only [entries, append, Array.getElem?_append_right (Nat.le_add_right _ ref),
    Nat.add_sub_cancel_left, Array.getElem?_map]
  cases heap.tables[ref]? <;> rfl

/-! New containers of the second store. -/

theorem newList_append (items : List Value) :
    (base.append heap).newList (items.map (Value.behind base)) =
      Prod.map (Value.behind base) base.append (heap.newList items) := by
  simp [newList, alloc, append, Value.behind, Prod.map]

theorem newTuple_append (items : List Value) :
    (base.append heap).newTuple (items.map (Value.behind base)) =
      Prod.map (Value.behind base) base.append (heap.newTuple items) := by
  simp [newTuple, alloc, append, Value.behind, Prod.map]

theorem newSet_append (members : Members) :
    (base.append heap).newSet (members.map (Value.behind base)) =
      Prod.map (Value.behind base) base.append (heap.newSet members) := by
  simp [newSet, append, Value.behind, Prod.map]

theorem newDict_append (entries : List (Value × Value)) :
    (base.append heap).newDict
        (entries.map (Prod.map (Value.behind base) (Value.behind base))) =
      Prod.map (Value.behind base) base.append (heap.newDict entries) := by
  simp [newDict, allocTable, append, Value.behind, Prod.map]

end Heap

namespace Value

variable (base heap : Heap)

theorem sameNumber_behind (left right : Value) :
    sameNumber (left.behind base) (right.behind base) = sameNumber left right := by
  cases left <;> cases right <;> rfl

theorem hashWithin_append (fuel : Nat) (value : Value) :
    hashWithin (base.append heap) fuel (value.behind base) = hashWithin heap fuel value := by
  induction fuel generalizing value with
  | zero => rfl
  | succ fuel ih =>
      cases value with
      | tuple ref =>
          have hitems : hashWithin (base.append heap) fuel ∘ behind base = hashWithin heap fuel :=
            funext ih
          simp only [behind, hashWithin, Heap.items_append, List.mapM_map, hitems]
      | _ => rfl

theorem equalWithin_append (fuel : Nat) (left right : Value) :
    equalWithin (base.append heap) fuel (left.behind base) (right.behind base) =
      equalWithin heap fuel left right := by
  induction fuel generalizing left right with
  | zero => rfl
  | succ fuel ih =>
      have hitems : ∀ left right : Value,
          (if sameNumber (left.behind base) (right.behind base) then .ok true
            else equalWithin (base.append heap) fuel (left.behind base) (right.behind base)) =
          if sameNumber left right then .ok true else equalWithin heap fuel left right := by
        intro left right
        rw [sameNumber_behind, ih]
      -- lists and tuples are compared alike
      have hlists : ∀ ref other, equalWithin (base.append heap) (fuel + 1)
          (behind base (.list ref)) (behind base (.list other)) =
            equalWithin heap (fuel + 1) (.list ref) (.list other) := by
        intro ref other
        simp only [equalWithin, behind, numeric?, Heap.items_append, List.length_map,
          Nat.add_left_cancel_iff]
        rw [allEqual_map hitems]
      cases left with
      | list ref =>
          cases right with
          | list other => exact hlists ref other
          | _ => rfl
      | tuple ref =>
          cases right with
          | tuple other => exact hlists ref other
          | _ => rfl
      | set ref =>
          cases right with
          | set other =>
              simp only [equalWithin, behind, numeric?, Heap.members_append, Members.size_map]
              rw [Members.included_map _ hitems]
          | _ => rfl
      | dict ref =>
          cases right with
          | dict other =>
              simp only [equalWithin, behind, numeric?, Heap.entries_append, List.length_map,
                Nat.add_left_cancel_iff]
              rw [entriesIncluded_map hitems]
          | _ => rfl
      | _ => cases right <;> rfl

theorem equalItems_append (left right : Value) :
    equalItems (base.append heap) (left.behind base) (right.behind base) =
      equalItems heap left right := by
  unfold equalItems equal
  rw [sameNumber_behind, equalWithin_append]

theorem insertMember_append (members : Members) (item : Value) :
    insertMember (base.append heap) (members.map (behind base)) (item.behind base) =
      (insertMember heap members item).map (Members.map (behind base)) := by
  unfold insertMember hash
  rw [hashWithin_append]
  cases hashWithin heap depthLimit item with
  | error cause => rfl
  | ok hash => exact members.insert_map (equalItems_append base heap) hash item

theorem insertEntry_append (entries : List (Value × Value)) (key value : Value) :
    insertEntry (base.append heap) (entries.map (Prod.map (behind base) (behind base)))
        (key.behind base) (value.behind base) =
      (insertEntry heap entries key value).map
        (List.map (Prod.map (behind base) (behind base))) := by
  unfold insertEntry hash
  rw [hashWithin_append]
  cases hashWithin heap depthLimit key with
  | error cause => rfl
  | ok hash => exact replaceEntry_map (equalItems_append base heap) key value entries

theorem Container.contains_behind (path : List Container) (container : Container) :
    (path.map (Container.behind base)).contains (container.behind base) =
      path.contains container := by
  have hinjective : ∀ other : Container,
      container.behind base = other.behind base ↔ container = other := by
    intro other
    cases container <;> cases other <;> simp [Container.behind]
  induction path with
  | nil => rfl
  | cons other rest ih =>
      rw [List.map_cons, List.contains_cons, List.contains_cons, ih, Bool.beq_eq_decide_eq,
        Bool.beq_eq_decide_eq]
      simp only [hinjective]

end Value

/-- What can be seen of a value does not depend on the store before it. -/
theorem Heap.viewWithin_append (base heap : Heap) (fuel : Nat) (path : List Value.Container)
    (value : Value) :
    (base.append heap).viewWithin fuel (path.map (Value.Container.behind base))
        (value.behind base) =
      heap.viewWithin fuel path value := by
  induction fuel generalizing path value with
  | zero => rfl
  | succ fuel ih =>
      have hinside : ∀ (container : Value.Container) (item : Value),
          (base.append heap).viewWithin fuel (container.behind base ::
              path.map (Value.Container.behind base)) (item.behind base) =
            heap.viewWithin fuel (container :: path) item :=
        fun container item => ih (container :: path) item
      have hcontains := Value.Container.contains_behind base path
      cases value with
      | list ref | tuple ref =>
          have hpath := hcontains (.sequence ref)
          have hitems := funext (hinside (.sequence ref))
          simp only [Value.Container.behind] at hpath hitems
          rw [Value.behind, viewWithin, viewWithin]
          simp only [hpath, items_append, List.map_map, Function.comp_def, hitems]
      | set ref =>
          rw [Value.behind, viewWithin, viewWithin]
          simp only [members_append, Members.toList_map, List.map_map, Function.comp_def, ih]
      | dict ref =>
          have hpath := hcontains (.table ref)
          have hitems := hinside (.table ref)
          simp only [Value.Container.behind] at hpath hitems
          rw [Value.behind, viewWithin, viewWithin]
          simp only [hpath, entries_append, List.map_map, Function.comp_def, Prod.map, hitems]
      | _ => rfl

namespace Expr

mutual

/-- A literal that is read behind a store has the same value there. -/
theorem literal_append (base heap : Heap) (expr : Expr) :
    literal (base.append heap) expr =
      (literal heap expr).map (Prod.map (Value.behind base) base.append) := by
  unfold literal
  split
  · rename_i value
    cases value <;> rfl
  · rename_i items
    rw [literals_append base heap items]
    cases literals heap items with
    | error cause => rfl
    | ok made => exact congrArg Except.ok (base.newTuple_append made.2 made.1)
  · rename_i items
    rw [literals_append base heap items]
    cases literals heap items with
    | error cause => rfl
    | ok made => exact congrArg Except.ok (base.newList_append made.2 made.1)
  · rename_i items
    have hmembers := literalMembers_append base heap .empty items
    rw [Members.empty_map] at hmembers
    rw [hmembers]
    cases literalMembers heap .empty items with
    | error cause => rfl
    | ok made => exact congrArg Except.ok (base.newSet_append made.2 made.1)
  · rename_i entries
    have hentries := literalEntries_append base heap [] entries
    rw [List.map_nil] at hentries
    rw [hentries]
    cases literalEntries heap [] entries with
    | error cause => rfl
    | ok made => exact congrArg Except.ok (base.newDict_append made.2 made.1)
  · have hempty := base.newSet_append heap .empty
    rw [Members.empty_map] at hempty
    exact congrArg Except.ok hempty
  · split
    · rename_i result _
      cases result with
      | error cause => rfl
      | ok number => cases number <;> rfl
    · rfl
  · split
    · rename_i number _
      cases number <;> rfl
    · rfl
termination_by sizeOf expr

theorem literals_append (base heap : Heap) (items : List Expr) :
    literals (base.append heap) items =
      (literals heap items).map (Prod.map (List.map (Value.behind base)) base.append) := by
  cases items with
  | nil => rw [literals, literals]; rfl
  | cons item rest =>
      rw [literals, literals, literal_append base heap item]
      cases literal heap item with
      | error cause => rfl
      | ok made =>
          have hrest := literals_append base made.2 rest
          simp only [Except.map, Prod.map, bind, Except.bind, hrest]
          cases literals made.2 rest <;> rfl
termination_by sizeOf items

theorem literalMembers_append (base heap : Heap) (members : Members) (items : List Expr) :
    literalMembers (base.append heap) (members.map (Value.behind base)) items =
      (literalMembers heap members items).map
        (Prod.map (Members.map (Value.behind base)) base.append) := by
  cases items with
  | nil => rw [literalMembers, literalMembers]; rfl
  | cons item rest =>
      rw [literalMembers, literalMembers, literal_append base heap item]
      cases literal heap item with
      | error cause => rfl
      | ok made =>
          have hinsert := Value.insertMember_append base made.2 members made.1
          simp only [Except.map, Prod.map, bind, Except.bind, hinsert]
          cases Value.insertMember made.2 members made.1 with
          | error cause => rfl
          | ok members => exact literalMembers_append base made.2 members rest
termination_by sizeOf items

theorem literalEntries_append (base heap : Heap) (table : List (Value × Value))
    (entries : List (Option Expr × Expr)) :
    literalEntries (base.append heap)
        (table.map (Prod.map (Value.behind base) (Value.behind base))) entries =
      (literalEntries heap table entries).map
        (Prod.map (List.map (Prod.map (Value.behind base) (Value.behind base))) base.append) := by
  cases entries with
  | nil => rw [literalEntries, literalEntries]; rfl
  | cons entry rest =>
      obtain ⟨key?, value⟩ := entry
      cases key? with
      | none => rw [literalEntries, literalEntries]; rfl
      | some key =>
          rw [literalEntries, literalEntries, literal_append base heap key]
          cases literal heap key with
          | error cause => rfl
          | ok madeKey =>
              have hvalue := literal_append base madeKey.2 value
              simp only [Except.map, Prod.map, bind, Except.bind, hvalue]
              cases literal madeKey.2 value with
              | error cause => rfl
              | ok made =>
                  have hinsert := Value.insertEntry_append base made.2 table madeKey.1 made.1
                  simp only [Except.map, hinsert]
                  cases Value.insertEntry made.2 table madeKey.1 made.1 with
                  | error cause => rfl
                  | ok table => exact literalEntries_append base made.2 table rest
termination_by sizeOf entries

end

theorem readLiteral_append (base heap : Heap) (text : String) :
    readLiteral (base.append heap) text =
      (readLiteral heap text).map (Prod.map (Value.behind base) base.append) := by
  unfold readLiteral
  cases ofString text with
  | none => rfl
  | some expr => exact literal_append base heap expr

end Expr

end Dalvik
