import Dalvik.Proofs.ArrayAccess
import Dalvik.Proofs.ProgramCounter
import Mathlib.Data.List.Nodup

/-!
# Writes to different places of a list

A list that is written at places different from each other ends up the same in whatever order the
lines stand: each place that was written has its new item, and the others have their old ones. The
registers stay as they are, so that all of those that hold the list see the new items. A new array
whose places are all written holds the items that were written, in the order of their places.
-/

namespace Dalvik

/-- A line that puts an item into a list: the registers that it names, with the place and the item
that two of them hold. -/
structure ItemPut where
  source : String
  array : String
  index : String
  place : Nat
  item : Value

namespace ItemPut

def instruction (put : ItemPut) : Instruction :=
  .arrayPut put.source put.array put.index

/-- The registers hold the list, the place and the item. -/
structure Fits (put : ItemPut) (machine : Machine) (ref : Ref) : Prop where
  array : machine.registers.get? put.array = some (.list ref)
  index : machine.registers.get? put.index = some (.int put.place)
  source : machine.registers.get? put.source = some put.item

theorem Fits.congr {put : ItemPut} {machine after : Machine} {ref : Ref}
    (hfits : put.Fits machine ref) (hsame : after.registers = machine.registers) :
    put.Fits after ref :=
  ⟨hsame ▸ hfits.array, hsame ▸ hfits.index, hsame ▸ hfits.source⟩

/-- The list with the items that are put into it at their places, and the old ones elsewhere. -/
def overwrite (puts : List ItemPut) (items : List Value) : List Value :=
  items.mapIdx fun place old => ((puts.find? (·.place = place)).map (·.item)).getD old

/-- The list after items were put into it one after the other. -/
def putAll (puts : List ItemPut) (items : List Value) : List Value :=
  puts.foldl (fun items put => items.set put.place put.item) items

variable {puts order : List ItemPut} {put : ItemPut} {items : List Value} {place : Nat}

theorem length_overwrite (puts : List ItemPut) (items : List Value) :
    (overwrite puts items).length = items.length :=
  List.length_mapIdx

theorem getElem?_overwrite (puts : List ItemPut) (items : List Value) (place : Nat) :
    (overwrite puts items)[place]? =
      items[place]?.map fun old => ((puts.find? (·.place = place)).map (·.item)).getD old :=
  List.getElem?_mapIdx

theorem find?_eq_none_iff :
    puts.find? (·.place = place) = none ↔ ∀ put ∈ puts, put.place ≠ place := by
  simp only [List.find?_eq_none, decide_eq_true_eq, ne_eq]

/-- If the places differ, a place tells the item that is put there. -/
theorem find?_eq_some_iff (hdistinct : (puts.map (·.place)).Nodup) :
    puts.find? (·.place = place) = some put ↔ put ∈ puts ∧ put.place = place := by
  constructor
  · intro hfound
    exact ⟨List.mem_of_find?_eq_some hfound, by simpa using List.find?_some hfound⟩
  · rintro ⟨hput, rfl⟩
    cases hfound : puts.find? (·.place = put.place) with
    | none => exact absurd rfl (find?_eq_none_iff.mp hfound put hput)
    | some other =>
        have hplace : other.place = put.place := by simpa using List.find?_some hfound
        rw [List.inj_on_of_nodup_map hdistinct (List.mem_of_find?_eq_some hfound) hput hplace]

/-- At a place where an item was put, the list has it. -/
theorem getElem?_overwrite_of_mem (hdistinct : (puts.map (·.place)).Nodup) (hput : put ∈ puts)
    (hplace : put.place < items.length) : (overwrite puts items)[put.place]? = some put.item := by
  rw [getElem?_overwrite, (find?_eq_some_iff hdistinct).mpr ⟨hput, rfl⟩,
    List.getElem?_eq_getElem hplace]
  rfl

/-- At a place where none was put, it has the old one. -/
theorem getElem?_overwrite_of_forall_ne (hother : ∀ put ∈ puts, put.place ≠ place) :
    (overwrite puts items)[place]? = items[place]? := by
  rw [getElem?_overwrite, find?_eq_none_iff.mpr hother]
  exact Option.map_id' ..

/-- The order in which items are put into a list does not matter. -/
theorem overwrite_perm (hdistinct : (puts.map (·.place)).Nodup) (hperm : order.Perm puts) :
    overwrite order = overwrite puts := by
  have hdistinct' : (order.map (·.place)).Nodup := (hperm.map _).nodup_iff.mpr hdistinct
  have hfind : ∀ place, order.find? (·.place = place) = puts.find? (·.place = place) := by
    intro place
    apply Option.ext
    intro put
    rw [find?_eq_some_iff hdistinct', find?_eq_some_iff hdistinct, hperm.mem_iff]
  funext items
  simp only [overwrite, hfind]

/-- Items that are put into a list one after the other all stay in it. -/
theorem putAll_eq_overwrite (hdistinct : (puts.map (·.place)).Nodup) (items : List Value) :
    putAll puts items = overwrite puts items := by
  induction puts generalizing items with
  | nil =>
      apply List.ext_getElem?
      intro place
      rw [getElem?_overwrite_of_forall_ne (List.forall_mem_nil _)]
      rfl
  | cons put rest ih =>
      obtain ⟨hnew, hrest⟩ := List.nodup_cons.mp hdistinct
      have hother : ∀ later ∈ rest, later.place ≠ put.place := by
        intro later hlater heq
        exact hnew (List.mem_map.mpr ⟨later, hlater, heq⟩)
      calc putAll (put :: rest) items = putAll rest (items.set put.place put.item) := rfl
        _ = overwrite rest (items.set put.place put.item) := ih hrest _
        _ = overwrite (put :: rest) items := by
            apply List.ext_getElem?
            intro place
            by_cases heq : put.place = place
            · subst heq
              rw [getElem?_overwrite_of_forall_ne hother, getElem?_overwrite,
                (find?_eq_some_iff hdistinct).mpr ⟨List.mem_cons_self, rfl⟩,
                List.getElem?_set_self']
              rfl
            · rw [getElem?_overwrite, getElem?_overwrite, List.getElem?_set_ne heq,
                List.find?_cons_of_neg (by simpa using heq)]

/-- Where all places of a list are written, the items are those that were put there. -/
theorem overwrite_range {n : Nat} (hrange : puts.map (·.place) = List.range n) (blank : Value) :
    overwrite puts (List.replicate n blank) = puts.map (·.item) := by
  have hlength : puts.length = n := by
    rw [← List.length_map (·.place), hrange, List.length_range]
  apply List.ext_getElem?
  intro place
  by_cases hplace : place < n
  · obtain ⟨put, hput⟩ : ∃ put, puts[place]? = some put :=
      ⟨_, List.getElem?_eq_getElem (by omega)⟩
    have hat : put.place = place := by
      have hplaces := congrArg (·[place]?) hrange
      simpa [hput, hplace] using hplaces
    calc (overwrite puts (List.replicate n blank))[place]? = some put.item := by
          rw [← hat]
          apply getElem?_overwrite_of_mem (hrange ▸ List.nodup_range) (List.mem_of_getElem? hput)
          rw [List.length_replicate]
          omega
      _ = (puts.map (·.item))[place]? := by
          rw [List.getElem?_map, hput]
          rfl
  · rw [List.getElem?_eq_none (by rw [length_overwrite, List.length_replicate]; omega),
      List.getElem?_eq_none (by rw [List.length_map]; omega)]

end ItemPut

theorem Heap.write_items (heap : Heap) (ref : Ref) : heap.write ref (heap.items ref) = heap := by
  have hsame : heap.sequences.setIfInBounds ref (heap.items ref) = heap.sequences := by
    apply Array.ext_getElem?
    intro place
    rw [Array.getElem?_setIfInBounds]
    by_cases heq : ref = place
    · subst heq
      by_cases hstored : ref < heap.sequences.size
      · rw [if_pos rfl, if_pos hstored, Heap.items, Array.getElem?_eq_getElem hstored]
        rfl
      · rw [if_pos rfl, if_neg hstored, Array.getElem?_eq_none (Nat.le_of_not_lt hstored)]
    · rw [if_neg heq]
  rw [write, hsame]

/-- A list that is not in the store has no items, and none can be written to it. -/
theorem Heap.items_write_of_length_eq {heap : Heap} {ref : Ref} {items : List Value}
    (hlength : items.length = (heap.items ref).length) :
    (heap.write ref items).items ref = items := by
  by_cases hstored : ref < heap.sequences.size
  · exact items_write hstored items
  · have hnone : heap.sequences[ref]? = none := Array.getElem?_eq_none (Nat.le_of_not_lt hstored)
    have hempty : items = [] := by
      rw [Heap.items, hnone] at hlength
      exact List.length_eq_zero_iff.mp hlength
    rw [Heap.items, write, Array.getElem?_setIfInBounds_self, if_neg hstored, hempty]
    rfl

theorem Heap.write_write (heap : Heap) (ref : Ref) (first second : List Value) :
    (heap.write ref first).write ref second = heap.write ref second := by
  simp only [write, Array.setIfInBounds_setIfInBounds]

/-! ### New arrays -/

theorem Value.repeatSequence_list {heap : Heap} {ref : Ref} {n : Nat}
    (hfits : fitsIndex n = true) :
    (Value.list ref).repeatSequence heap n =
      if (heap.items ref).length * n > maxLength then .error .outOfMemory
      else .ok (heap.newList (repeatItems (heap.items ref)
        (if (heap.items ref).length * n = 0 then 0 else n))) := by
  unfold repeatSequence
  rw [hfits]
  rfl

/-- One item is repeated as often as it was asked for, unless there is no room for it. -/
theorem Value.repeatSequence_singleton {heap : Heap} {ref : Ref} {item : Value} {n : Nat}
    (hitems : heap.items ref = [item]) :
    (Value.list ref).repeatSequence heap n = .ok (heap.newList (List.replicate n item)) ∨
      ∃ cause, (Value.list ref).repeatSequence heap n = .error cause := by
  cases hfits : fitsIndex n with
  | false =>
      right
      unfold repeatSequence
      rw [hfits]
      exact ⟨_, rfl⟩
  | true =>
      rw [repeatSequence_list hfits, hitems, List.length_singleton, Nat.one_mul]
      split
      · exact Or.inr ⟨_, rfl⟩
      · left
        by_cases hzero : n = 0
        · rw [if_pos hzero, hzero]
          rfl
        · rw [if_neg hzero, repeatItems, List.flatten_replicate_singleton]

/-- A new array is a list of its own, with room for as many items as it was asked for. -/
theorem Instruction.outcome_newArray {machine after : Machine} {target size className : String}
    {n : Nat} (hsize : machine.registers.get? size = some (.int n))
    (hmade : (newArray target size className).outcome machine = .ok after) :
    ∃ ref later, after = machine.writeFrom target (.list ref, later) ∧
      machine.heap.sequences.size ≤ ref ∧ machine.heap.Grows later ∧
      later.items ref = List.replicate n (.text "") := by
  let first := machine.heap.alloc [.text ""]
  let second := first.2.alloc (List.replicate n (.text ""))
  refine ⟨second.1, second.2, ?_, ?_, ?_, ?_⟩
  · simp only [outcome, Machine.read_eq_ok.mpr hsize, Emulator.lift_ok_bind] at hmade
    change ((liftM ((Value.list first.1).repeatSequence first.2 n) :
      Except Halt (Value × Heap)) >>= _) = _ at hmade
    rcases @Value.repeatSequence_singleton _ _ _ n (machine.heap.items_alloc [.text ""]) with
      hlist | ⟨cause, herror⟩
    · rw [hlist] at hmade
      exact (Except.ok.inj hmade).symm
    · rw [herror] at hmade
      cases hmade
  · change machine.heap.sequences.size ≤ (machine.heap.sequences.push [.text ""]).size
    rw [Array.size_push]
    omega
  · exact (machine.heap.grows_alloc _).trans (first.2.grows_alloc _)
  · exact first.2.items_alloc _

namespace Emulator

open Instruction ItemPut

variable {state : Emulator} {line : String} {ref : Ref}

/-- The program goes on with these lines. -/
structure Faces (state : Emulator) (stretch : List String) : Prop where
  running : state.machine.stopped = false
  ahead : ∃ (lines : List String) (first : Nat), state.source = some lines ∧
    state.machine.pc = first ∧ stretch <+: lines.drop first

/-- The lines put items into lists in this order; the others among them do nothing. -/
def HoldPuts (stretch : List String) (order : List ItemPut) : Prop :=
  (stretch.filter fun line => !Listing.isPassive line).map Instruction.ofLine? =
    order.map fun put => some put.instruction

theorem Faces.nextLine? {rest : List String} (hfaces : state.Faces (line :: rest)) :
    state.nextLine? = some line := by
  obtain ⟨lines, first, hsource, hpc, behind, hlines⟩ := hfaces.ahead
  rw [nextLine?_of_getElem? hsource hpc hfaces.running]
  have hfirst : (lines.drop first)[0]? = some line := by
    rw [← hlines]
    rfl
  rwa [List.getElem?_drop, Nat.add_zero] at hfirst

/-- After a line the program goes on with the other ones. -/
theorem Faces.tail {after : Emulator} {rest : List String} (hfaces : state.Faces (line :: rest))
    (hsource : after.source = state.source)
    (hstopped : after.machine.stopped = state.machine.stopped)
    (hpc : after.machine.pc = state.machine.pc + 1) : after.Faces rest := by
  obtain ⟨lines, first, hlines, hfirst, behind, hahead⟩ := hfaces.ahead
  refine ⟨hstopped.trans hfaces.running, lines, first + 1, hsource.trans hlines, ?_, behind, ?_⟩
  · rw [hpc, hfirst]
    rfl
  · rw [← List.tail_drop, ← hahead]
    rfl

/-- The first line of a stretch puts its item into the list, or does nothing; the other items are
left to the rest of the stretch. -/
theorem Faces.step_completes {rest : List String} {order : List ItemPut}
    (hfaces : state.Faces (line :: rest)) (hputs : HoldPuts (line :: rest) order)
    (hfits : ∀ put ∈ order, put.Fits state.machine ref)
    (hplaces : ∀ put ∈ order, put.place < (state.machine.heap.items ref).length) :
    ∃ others items, HoldPuts rest others ∧ (∀ put ∈ others, put ∈ order) ∧
      items.length = (state.machine.heap.items ref).length ∧
      putAll others items = putAll order (state.machine.heap.items ref) ∧
      state.Completes line { state.advance.machine with
        heap := state.machine.heap.write ref items } := by
  have hnext := hfaces.nextLine?
  cases hactive : Listing.isPassive line with
  | true =>
      have hstep : state.step line = (state.advance, .done ()) := by
        rw [step, if_pos hactive]
      refine ⟨order, state.machine.heap.items ref, ?_, fun _ hput => hput, rfl, rfl, ?_⟩
      · rwa [HoldPuts, List.filter_cons_of_neg (by simpa using hactive)] at hputs
      · rw [Completes, hstep, Heap.write_items]
        exact ⟨rfl, rfl⟩
  | false =>
      rw [HoldPuts, List.filter_cons_of_pos (by simpa using hactive), List.map_cons] at hputs
      cases order with
      | nil => cases hputs
      | cons put others =>
          obtain ⟨hread, hothers⟩ := List.cons.inj hputs
          have hfit := hfits put List.mem_cons_self
          have hstore := storeItem_of_lt put.item (hplaces put List.mem_cons_self)
          have hexecutes : state.Executes line put.instruction := ⟨hnext, hactive, hread⟩
          have houtcome :=
            outcome_arrayPut state.advance.machine hfit.array hfit.index hfit.source
          exact ⟨others, _, hothers, fun _ hput => List.mem_cons_of_mem put hput,
            List.length_set, rfl, (hexecutes.settles houtcome).1 _ hstore⟩

/-- A stretch of lines that put items into a list, one after the other. -/
theorem runFor_putAll (stretch : List String) (order : List ItemPut) (state : Emulator)
    (hfaces : state.Faces stretch) (hputs : HoldPuts stretch order)
    (hfits : ∀ put ∈ order, put.Fits state.machine ref)
    (hplaces : ∀ put ∈ order, put.place < (state.machine.heap.items ref).length) :
    ∃ after : Emulator, (∀ more, runFor (stretch.length + more) state = runFor more after) ∧
      after.machine = { state.machine with
        pc := state.machine.pc + stretch.length
        heap := state.machine.heap.write ref (putAll order (state.machine.heap.items ref)) } := by
  -- on the stretch: the lines behind the first put the items that are left
  induction stretch generalizing state order with
  | nil =>
      cases order with
      | nil =>
          refine ⟨state, ?_, ?_⟩
          · intro more
            rw [List.length_nil, Nat.zero_add]
          · have hpc : state.machine.pc + (([] : List String).length : Nat) = state.machine.pc :=
              Int.add_zero _
            rw [hpc]
            change state.machine = { state.machine with
              heap := state.machine.heap.write ref (state.machine.heap.items ref) }
            rw [Heap.write_items]
      | cons put others => cases hputs
  | cons line rest ih =>
      obtain ⟨others, items, hothers, hsub, hlength, hall, hmachine, hdone⟩ :=
        hfaces.step_completes hputs hfits hplaces
      have hsource := (step_tables state line).1
      have hrun := runFor_of_done hfaces.nextLine? hdone
      generalize (state.step line).1 = next at hmachine hsource hrun
      have hitems : next.machine.heap.items ref = items := by
        rw [hmachine]
        exact Heap.items_write_of_length_eq hlength
      have hregisters : next.machine.registers = state.machine.registers := by
        rw [hmachine]
        rfl
      obtain ⟨after, hmore, hafter⟩ := ih others next
        (hfaces.tail hsource (by rw [hmachine]; rfl) (by rw [hmachine]; rfl)) hothers
        (fun put hput => (hfits put (hsub put hput)).congr hregisters)
        (fun put hput => by rw [hitems, hlength]; exact hplaces put (hsub put hput))
      refine ⟨after, ?_, ?_⟩
      · intro more
        calc runFor ((line :: rest).length + more) state
            = runFor (rest.length + more + 1) state := by rw [List.length_cons, Nat.add_right_comm]
          _ = runFor (rest.length + more) next := hrun _
          _ = runFor more after := hmore more
      · have hpc : state.machine.pc + ((line :: rest).length : Nat) =
            state.machine.pc + 1 + rest.length := by
          rw [List.length_cons]
          omega
        rw [hafter, hitems, hall, hmachine, Heap.write_write, hpc]
        rfl

/-- Lines that put items at different places of a list, in any order. -/
theorem runFor_overwrite {puts order : List ItemPut} {stretch : List String}
    (hdistinct : (puts.map (·.place)).Nodup)
    (hfits : ∀ put ∈ puts, put.Fits state.machine ref)
    (hplaces : ∀ put ∈ puts, put.place < (state.machine.heap.items ref).length)
    (hperm : order.Perm puts) (hputs : HoldPuts stretch order) (hfaces : state.Faces stretch) :
    ∃ after : Emulator, (∀ more, runFor (stretch.length + more) state = runFor more after) ∧
      after.machine = { state.machine with
        pc := state.machine.pc + stretch.length
        heap := state.machine.heap.write ref (overwrite puts (state.machine.heap.items ref)) } := by
  have hsame : putAll order = overwrite puts := by
    funext items
    rw [putAll_eq_overwrite ((hperm.map _).nodup_iff.mpr hdistinct),
      overwrite_perm hdistinct hperm]
  rw [← hsame]
  apply runFor_putAll stretch order state hfaces hputs
  · intro put hput
    exact hfits put (hperm.mem_iff.mp hput)
  · intro put hput
    exact hplaces put (hperm.mem_iff.mp hput)

/-- A place of the list reads as the item that was put there, or else as the old one. -/
theorem Executes.arrayGet_overwritten {puts : List ItemPut} {items : List Value}
    {target array index : String} {place : Nat}
    (hexecutes : state.Executes line (.arrayGet target array index))
    (harray : state.machine.registers.get? array = some (.list ref))
    (hindex : state.machine.registers.get? index = some (.int place))
    (hitems : state.machine.heap.items ref = overwrite puts items)
    (hdistinct : (puts.map (·.place)).Nodup) (hplace : place < items.length) :
    ∃ item, state.Completes line (state.advance.machine.write target item) ∧
      ((∃ put ∈ puts, put.place = place ∧ put.item = item) ∨
        (∀ put ∈ puts, put.place ≠ place) ∧ items[place]? = some item) := by
  have hcompletes : ∀ item, (overwrite puts items)[place]? = some item →
      state.Completes line (state.advance.machine.write target item) := by
    intro item hitem
    apply hexecutes.arrayGet_completes harray hindex
    rw [hitems]
    exact Value.itemAt_int .list hitem
  by_cases hwritten : ∃ put ∈ puts, put.place = place
  · obtain ⟨put, hput, rfl⟩ := hwritten
    exact ⟨put.item, hcompletes _ (getElem?_overwrite_of_mem hdistinct hput hplace),
      Or.inl ⟨put, hput, rfl, rfl⟩⟩
  · have hother : ∀ put ∈ puts, put.place ≠ place := by
      intro put hput heq
      exact hwritten ⟨put, hput, heq⟩
    have hold : items[place]? = some items[place] := List.getElem?_eq_getElem hplace
    refine ⟨items[place], hcompletes _ ?_, Or.inr ⟨hother, hold⟩⟩
    rw [getElem?_overwrite_of_forall_ne hother, hold]

/-- **Writes to different places.** Lines that put items into a list at places different from each
other all complete, and leave the list with the items at their places and all else as it was, in
whatever order they stand; each place reads so afterwards, through any register that holds the list.
If they fill a new array, which was made without a fault, it holds their items in the order of the
places. -/
theorem array_puts_commute (state : Emulator) :
    (∀ ref (puts order : List ItemPut) stretch, (puts.map (·.place)).Nodup →
      (∀ put ∈ puts, put.Fits state.machine ref) →
      (∀ put ∈ puts, put.place < (state.machine.heap.items ref).length) →
      order.Perm puts → HoldPuts stretch order → state.Faces stretch →
      let items := state.machine.heap.items ref
      ∃ after : Emulator, (∀ more, runFor (stretch.length + more) state = runFor more after) ∧
        after.machine = { state.machine with
          pc := state.machine.pc + stretch.length
          heap := state.machine.heap.write ref (overwrite puts items) } ∧
        (after.machine.heap.items ref = overwrite puts items ∧
          (overwrite puts items).length = items.length ∧
          ∀ other, other ≠ ref →
            after.machine.heap.items other = state.machine.heap.items other) ∧
        ∀ line target array index (place : Nat),
          after.Executes line (.arrayGet target array index) →
          after.machine.registers.get? array = some (.list ref) →
          after.machine.registers.get? index = some (.int place) → place < items.length →
          ∃ item, after.Completes line (after.advance.machine.write target item) ∧
            ((∃ put ∈ puts, put.place = place ∧ put.item = item) ∨
              (∀ put ∈ puts, put.place ≠ place) ∧ items[place]? = some item)) ∧
    ∀ line target size className (n : Nat) (completed : Machine),
      state.Executes line (.newArray target size className) →
      state.machine.registers.get? size = some (.int n) →
      (Instruction.newArray target size className).outcome state.advance.machine = .ok completed →
      ∃ made ref, state.step line = (made, .done ()) ∧
        made.machine.registers = state.machine.registers.insert target (.list ref) ∧
        (state.machine.heap.sequences.size ≤ ref ∧ ∀ other < state.machine.heap.sequences.size,
          made.machine.heap.items other = state.machine.heap.items other) ∧
        made.machine.heap.items ref = List.replicate n (.text "") ∧
        ∀ (puts order : List ItemPut) stretch, puts.map (·.place) = List.range n →
          (∀ put ∈ puts, put.Fits made.machine ref) → order.Perm puts →
          HoldPuts stretch order → made.Faces stretch →
          ∃ after : Emulator,
            (∀ more, runFor (stretch.length + more + 1) state = runFor more after) ∧
            after.machine.registers = made.machine.registers ∧
            after.machine.heap.items ref = puts.map (·.item) ∧
            ∀ other, other ≠ ref →
              after.machine.heap.items other = made.machine.heap.items other := by
  constructor
  · intro ref puts order stretch hdistinct hfits hplaces hperm hputs hfaces items
    obtain ⟨after, hmore, hafter⟩ := runFor_overwrite hdistinct hfits hplaces hperm hputs hfaces
    have hlength := length_overwrite puts items
    have hitems : after.machine.heap.items ref = overwrite puts items := by
      rw [hafter]
      exact Heap.items_write_of_length_eq hlength
    refine ⟨after, hmore, hafter, ⟨hitems, hlength, ?_⟩, ?_⟩
    · intro other hne
      rw [hafter]
      exact Heap.items_write_of_ne _ hne.symm _
    · intro line target array index place hexecutes harray hindex hplace
      exact hexecutes.arrayGet_overwritten harray hindex hitems hdistinct hplace
  · intro line target size className n completed hexecutes hsize houtcome
    obtain ⟨ref, later, rfl, hfresh, hgrows, hblank⟩ :=
      @outcome_newArray state.advance.machine _ _ _ _ _ hsize houtcome
    have hstep : state.step line = ({ state.advance.trace line with
        machine := state.advance.machine.writeFrom target (.list ref, later) }, .done ()) := by
      rw [hexecutes.step_eq, houtcome]
      rfl
    have hrun := runFor_of_done hexecutes.next (congrArg Prod.snd hstep)
    refine ⟨_, ref, hstep, rfl, ⟨hfresh, fun other hlt => hgrows.items_eq hlt⟩, hblank, ?_⟩
    intro puts order stretch hrange hfits hperm hputs hfaces
    have hplaces : ∀ put ∈ puts, put.place < (later.items ref).length := by
      intro put hput
      have hmem : put.place ∈ puts.map (·.place) := List.mem_map_of_mem hput
      rw [hrange, List.mem_range] at hmem
      rwa [hblank, List.length_replicate]
    obtain ⟨after, hmore, hafter⟩ :=
      runFor_overwrite (hrange ▸ List.nodup_range) hfits hplaces hperm hputs hfaces
    refine ⟨after, ?_, ?_, ?_, ?_⟩
    · intro more
      rw [hrun, hstep]
      exact hmore more
    · rw [hafter]
    · rw [hafter]
      calc _ = overwrite puts (later.items ref) :=
            Heap.items_write_of_length_eq (length_overwrite ..)
        _ = puts.map (·.item) := by rw [hblank, overwrite_range hrange]
    · intro other hne
      rw [hafter]
      exact Heap.items_write_of_ne _ hne.symm _

/-- The places of a new array are written from the last one on, and so are two of a list that two
registers hold. -/
def fillingListing : List String := [
  "new-array a, size, [I", "", "aput v1, a, i1", "aput v0, a, i0",
  "aput v1, p1, i1", "aput v0, p0, i0"]

def filling (line : Int) : Emulator where
  machine := {
    registers := [("p0", .list 0), ("p1", .list 0), ("size", .int 2), ("i0", .int 0),
      ("i1", .int 1), ("v0", .int 10), ("v1", .int 20)]
    heap := { sequences := #[[.int 7, .int 8, .int 9]] }
    pc := line }
  source := some fillingListing

/-- The items that are put into an array, by their places. -/
def fillingPuts (first second : String) : List ItemPut :=
  [⟨"v0", first, "i0", 0, .int 10⟩, ⟨"v1", second, "i1", 1, .int 20⟩]

theorem filling_facts :
    ((filling 0).nextLine? = some "new-array a, size, [I" ∧
      Listing.isPassive "new-array a, size, [I" = false ∧
      Instruction.ofLine? "new-array a, size, [I" = some (.newArray "a" "size" "[I")) ∧
    (((filling 0).step "new-array a, size, [I").1.machine.stopped = false ∧
      ((filling 0).step "new-array a, size, [I").1.machine.pc = 1) ∧
    (["", "aput v1, a, i1", "aput v0, a, i0"].filter fun line => !Listing.isPassive line).map
        Instruction.ofLine? =
      (fillingPuts "a" "a").reverse.map (fun put => some put.instruction) ∧
    (["aput v1, p1, i1", "aput v0, p0, i0"].filter fun line => !Listing.isPassive line).map
        Instruction.ofLine? =
      (fillingPuts "p0" "p1").reverse.map fun put => some put.instruction := by
  decide +kernel

theorem array_puts_commute_filling :
    (∃ after : Emulator, (∀ more, runFor (2 + more) (filling 4) = runFor more after) ∧
      after.machine.registers = (filling 4).machine.registers ∧
      after.machine.heap.items 0 = [.int 10, .int 20, .int 9]) ∧
    ∃ (after : Emulator) (ref : Ref),
      (∀ more, runFor (3 + more + 1) (filling 0) = runFor more after) ∧
      after.machine.registers.get? "a" = some (.list ref) ∧
      after.machine.heap.items ref = [.int 10, .int 20] := by
  obtain ⟨⟨hnext, hactive, hread⟩, ⟨hrunning, hpc⟩, hnewPuts, holdPuts⟩ := filling_facts
  constructor
  · have hfits : ∀ put ∈ fillingPuts "p0" "p1", put.Fits (filling 4).machine 0 :=
      List.forall_mem_cons.mpr ⟨⟨rfl, rfl, rfl⟩, List.forall_mem_singleton.mpr ⟨rfl, rfl, rfl⟩⟩
    obtain ⟨after, hmore, hafter, ⟨hitems, -⟩, -⟩ := (array_puts_commute (filling 4)).1 0
      (fillingPuts "p0" "p1") _ _ (by decide) hfits (by decide) (List.reverse_perm _) holdPuts
      ⟨rfl, fillingListing, 4, rfl, rfl, [], rfl⟩
    exact ⟨after, hmore, by rw [hafter], hitems⟩
  · obtain ⟨made, ref, hstep, hregisters, -, -, hfill⟩ :=
      (array_puts_commute (filling 0)).2 _ _ _ _ 2 _ ⟨hnext, hactive, hread⟩ rfl rfl
    have hmade : ((filling 0).step "new-array a, size, [I").1 = made := congrArg Prod.fst hstep
    rw [hmade] at hrunning hpc
    have harray : made.machine.registers.get? "a" = some (.list ref) := by
      rw [hregisters]
      exact Table.get?_insert_self ..
    have hothers : ∀ name ≠ "a", made.machine.registers.get? name =
        (filling 0).machine.registers.get? name := by
      intro name hne
      rw [hregisters, Table.get?_insert_of_ne _ _ hne]
    have hfits : ∀ put ∈ fillingPuts "a" "a", put.Fits made.machine ref :=
      List.forall_mem_cons.mpr
        ⟨⟨harray, hothers "i0" (by decide), hothers "v0" (by decide)⟩,
          List.forall_mem_singleton.mpr
            ⟨harray, hothers "i1" (by decide), hothers "v1" (by decide)⟩⟩
    obtain ⟨after, hmore, hsame, hitems, -⟩ := hfill (fillingPuts "a" "a") _ _ rfl hfits
      (List.reverse_perm _) hnewPuts
      ⟨hrunning, fillingListing, 1, hmade ▸ (step_tables _ _).1, hpc, _, rfl⟩
    exact ⟨after, ref, hmore, hsame ▸ harray, hitems⟩

end Emulator

end Dalvik
