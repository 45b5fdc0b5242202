import Dalvik.Proofs.GivenValues

/-!
# Bounds of lists and texts

An access beyond the last item of a list or the last character of a text is a fault, and so is one
that counts back beyond the first. A fault leaves all registers and lists alone and goes to the
handler around the line. Only a list that is written right behind its last item has room there: it
grows by the item, and what was written can be read at its index.
-/

namespace Dalvik

theorem Heap.items_write {heap : Heap} {ref : Ref} (hstored : ref < heap.sequences.size)
    (items : List Value) : (heap.write ref items).items ref = items := by
  simp [Heap.items, write, hstored]

namespace Value

variable {length : Nat} {i : Int}

/-- An index means no place if it lies beyond one of the ends. -/
theorem resolve_eq_none_iff : resolve length i = none ↔ i < -length ∨ length ≤ i := by
  unfold resolve
  by_cases hnonneg : 0 ≤ i
  · rw [if_pos hnonneg]
    by_cases hlt : i < length
    · rw [if_pos hlt]
      exact iff_of_false (Option.some_ne_none _) (by omega)
    · rw [if_neg hlt]
      exact iff_of_true rfl (by omega)
  · rw [if_neg hnonneg]
    by_cases hback : 0 ≤ i + length
    · rw [if_pos hback]
      exact iff_of_false (Option.some_ne_none _) (by omega)
    · rw [if_neg hback]
      exact iff_of_true rfl (by omega)

theorem resolve_lt {place : Nat} (hplace : resolve length i = some place) : place < length := by
  unfold resolve at hplace
  split_ifs at hplace
  · cases hplace
    omega
  · cases hplace
    omega

variable {α : Type} (kind : ValueKind) {items : List α}

theorem exists_itemAt_error (hbeyond : i < -items.length ∨ items.length ≤ i) :
    ∃ cause, itemAt kind items (.int i) = .error cause := by
  refine ⟨if fitsIndex i then .outOfRange kind else .indexTooWide, ?_⟩
  simp only [itemAt, asInt?, resolve_eq_none_iff.mpr hbeyond, Option.bind_none]

theorem exists_itemAt_ok (hrange : 0 ≤ i ∧ i < items.length) :
    ∃ item, items[i.toNat]? = some item ∧ itemAt kind items (.int i) = .ok item := by
  obtain ⟨hnonneg, hlt⟩ := hrange
  have hitem : items[i.toNat]? = some _ := List.getElem?_eq_getElem (by omega)
  refine ⟨_, hitem, ?_⟩
  rw [← itemAt_int kind hitem, Int.toNat_of_nonneg hnonneg]

end Value

namespace Instruction

open Value

variable {heap : Heap} {ref : Ref} {i : Int}

/-! ### Putting an item into a list -/

theorem storeItem_list (heap : Heap) (ref : Ref) (i : Int) (item : Value) :
    storeItem heap (.list ref) i item =
      if i < (heap.items ref).length then assign heap (.list ref) i item
      else if i = (heap.items ref).length then .ok (heap.write ref (heap.items ref ++ [item]))
      else .ok heap :=
  rfl

theorem storeItem_of_resolve (item : Value) {place : Nat} (hlt : i < (heap.items ref).length)
    (hplace : resolve (heap.items ref).length i = some place) :
    storeItem heap (.list ref) i item = .ok (heap.write ref ((heap.items ref).set place item)) := by
  rw [storeItem_list, if_pos hlt]
  simp only [assign, hplace]

theorem storeItem_of_lt (item : Value) {place : Nat} (hplace : place < (heap.items ref).length) :
    storeItem heap (.list ref) place item =
      .ok (heap.write ref ((heap.items ref).set place item)) := by
  apply storeItem_of_resolve item
  · omega
  · simp [resolve, hplace]

theorem storeItem_length (heap : Heap) (ref : Ref) (item : Value) :
    storeItem heap (.list ref) (heap.items ref).length item =
      .ok (heap.write ref (heap.items ref ++ [item])) := by
  rw [storeItem_list, if_neg (by omega), if_pos rfl]

theorem exists_storeItem_error (item : Value) (hbeyond : i < -(heap.items ref).length) :
    ∃ cause, storeItem heap (.list ref) i item = .error cause := by
  refine ⟨if fitsIndex i then .assignmentOutOfRange else .indexTooWide, ?_⟩
  rw [storeItem_list, if_pos (by omega)]
  simp only [assign, resolve_eq_none_iff.mpr (Or.inl hbeyond)]

/-- An item that was put into a list is read at its index. -/
theorem itemAt_of_storeItem {later : Heap} {item : Value} (hstored : ref < heap.sequences.size)
    (hle : i ≤ (heap.items ref).length) (hstore : storeItem heap (.list ref) i item = .ok later) :
    itemAt .list (later.items ref) (.int i) = .ok item := by
  rcases Int.lt_or_eq_of_le hle with hlt | rfl
  · cases hplace : resolve (heap.items ref).length i with
    | none =>
        have hbefore := (resolve_eq_none_iff.mp hplace).resolve_right (by omega)
        obtain ⟨cause, herror⟩ := exists_storeItem_error item hbefore
        cases herror.symm.trans hstore
    | some place =>
        have hbound := resolve_lt hplace
        rw [storeItem_of_resolve item hlt hplace] at hstore
        cases hstore
        rw [Heap.items_write hstored]
        simp only [itemAt, asInt?, List.length_set, hplace, Option.bind_some,
          List.getElem?_set_self hbound]
  · rw [storeItem_length] at hstore
    cases hstore
    rw [Heap.items_write hstored]
    exact itemAt_int .list List.getElem?_concat_length

/-! ### The instructions -/

variable (machine : Machine) {source array index this callee : String} {rest : List String}
  {item : Value}

theorem outcome_arrayGet (target : String)
    (harray : machine.registers.get? array = some (.list ref))
    (hindex : machine.registers.get? index = some (.int i)) :
    (arrayGet target array index).outcome machine =
      (liftM (itemAt .list (machine.heap.items ref) (.int i)) : Except Halt Value) >>= fun item =>
        pure (machine.write target item) := by
  simp only [outcome, Machine.read_eq_ok.mpr harray, Machine.read_eq_ok.mpr hindex,
    Emulator.lift_ok_bind, subscript]

/-- The array is bound to its register once more, which changes nothing. -/
theorem outcome_arrayPut (harray : machine.registers.get? array = some (.list ref))
    (hindex : machine.registers.get? index = some (.int i))
    (hsource : machine.registers.get? source = some item) :
    (arrayPut source array index).outcome machine =
      (liftM (storeItem machine.heap (.list ref) i item) : Except Halt Heap) >>= fun later =>
        pure { machine with heap := later } := by
  simp only [outcome, Machine.read_eq_ok.mpr harray, Machine.read_eq_ok.mpr hindex,
    Machine.read_eq_ok.mpr hsource, Emulator.lift_ok_bind, toInt, Machine.writeFrom, Machine.write,
    Table.insert_of_get? harray]

theorem outcome_charAt {s : String} (hcallee : machine.callee callee = .ok .charAt)
    (hthis : machine.registers.get? this = some (.text s))
    (hindex : machine.registers.get? index = some (.int i)) :
    (invoke (this :: index :: rest) callee).outcome machine =
      (liftM ((itemAt .text s.toList (.int i)).map ofChar) : Except Halt Value) >>= fun char =>
        pure (machine.give char) := by
  have hargument : machine.argument (index :: rest) 0 = .ok (.int i) :=
    Machine.read_eq_ok.mpr hindex
  rw [outcome, hcallee]
  change Method.charAt.outcome machine this (index :: rest) = _
  simp only [Method.outcome, hargument, Machine.read_eq_ok.mpr hthis, Emulator.lift_ok_bind,
    subscript]

end Instruction

namespace Emulator

open Value Instruction

/-- The line does its work and leaves the machine given. -/
def Completes (state : Emulator) (line : String) (after : Machine) : Prop :=
  (state.step line).1.machine = after ∧ (state.step line).2 = .done ()

/-- The line raises a fault, which is kept and handed on, and changes nothing else but the place. -/
def Refuses (state : Emulator) (line : String) : Prop :=
  ∃ cause, (state.step line).1.machine =
      { state.machine.keep cause with pc := (state.step line).1.machine.pc } ∧
    HandedOn state.advance cause () (state.step line).1 (state.step line).2

variable {state : Emulator} {line : String} {instruction : Instruction}

theorem Executes.refuses {cause : Fault} (hexecutes : state.Executes line instruction)
    (houtcome : instruction.outcome state.advance.machine = .error (.fault cause)) :
    state.Refuses line := by
  obtain ⟨after, ending, hthrow, hmachine, -, hhanded⟩ :=
    @throw_handedOn state.advance cause _ (trace_machine state.advance line)
      (trace_source state.advance line)
  have hstep : state.step line = (after, ending) := by
    rw [hexecutes.step_eq, houtcome]
    exact hthrow
  refine ⟨cause, ?_, ?_⟩
  · rw [hstep]
    exact hmachine
  · rw [hstep]
    exact hhanded

/-- An instruction that asks for a value and then writes it completes if there is one, and refuses
to if there is a fault instead. -/
theorem Executes.settles {α : Type} {result : Except Fault α} {next : α → Machine}
    (hexecutes : state.Executes line instruction)
    (houtcome : instruction.outcome state.advance.machine =
      (liftM result : Except Halt α) >>= fun value => pure (next value)) :
    (∀ value, result = .ok value → state.Completes line (next value)) ∧
      ∀ cause, result = .error cause → state.Refuses line := by
  constructor
  · intro value hvalue
    apply hexecutes.step_of_ok
    rw [houtcome, hvalue]
    rfl
  · intro cause hcause
    have hfault : instruction.outcome state.advance.machine = .error (.fault cause) := by
      rw [houtcome, hcause]
      rfl
    exact hexecutes.refuses hfault

theorem Executes.arrayGet_completes {target array index : String} {ref : Ref} {i : Int}
    {item : Value} (hexecutes : state.Executes line (.arrayGet target array index))
    (harray : state.machine.registers.get? array = some (.list ref))
    (hindex : state.machine.registers.get? index = some (.int i))
    (hitem : itemAt .list (state.machine.heap.items ref) (.int i) = .ok item) :
    state.Completes line (state.advance.machine.write target item) :=
  (hexecutes.settles (outcome_arrayGet state.advance.machine target harray hindex)).1 item hitem

/-- What a line leaves in the lists is what the next one reads from them. -/
theorem Completes.arrayGet_next {next target array index : String} {ref : Ref} {i : Int}
    {item : Value} {later : Heap}
    (hcompletes : state.Completes line { state.advance.machine with heap := later })
    (hnext : (state.step line).1.Executes next (.arrayGet target array index))
    (harray : state.machine.registers.get? array = some (.list ref))
    (hindex : state.machine.registers.get? index = some (.int i))
    (hitem : itemAt .list (later.items ref) (.int i) = .ok item) :
    (state.step line).1.Completes next
      ((state.step line).1.advance.machine.write target item) := by
  have hregisters : (state.step line).1.machine.registers = state.machine.registers := by
    rw [hcompletes.1]
    rfl
  have hread : itemAt .list ((state.step line).1.machine.heap.items ref) (.int i) = .ok item := by
    rw [hcompletes.1]
    exact hitem
  exact hnext.arrayGet_completes (hregisters ▸ harray) (hregisters ▸ hindex) hread

/-- **Bounds.** Reading an item of a list or a character of a text completes inside of the bounds,
and raises a fault beyond the last place as well as before the first one. Putting an item into a
list completes inside of the bounds, and right behind the last item, where the list grows by it;
before the first place it raises a fault. Unless it raised one, what was put at an index can be read
there. -/
theorem accesses_keep_bounds (state : Emulator) (index : String) (i : Int)
    (hindex : state.machine.registers.get? index = some (.int i)) :
    (∀ array ref, state.machine.registers.get? array = some (.list ref) →
      ref < state.machine.heap.sequences.size →
      let items := state.machine.heap.items ref
      (∀ line target, state.Executes line (.arrayGet target array index) →
        (0 ≤ i ∧ i < items.length → ∃ item, items[i.toNat]? = some item ∧
          state.Completes line (state.advance.machine.write target item)) ∧
        (i < -items.length ∨ items.length ≤ i → state.Refuses line)) ∧
      ∀ line source item, state.Executes line (.arrayPut source array index) →
        state.machine.registers.get? source = some item →
        (0 ≤ i ∧ i < items.length → state.Completes line { state.advance.machine with
          heap := state.machine.heap.write ref (items.set i.toNat item) }) ∧
        (i = items.length → state.Completes line { state.advance.machine with
          heap := state.machine.heap.write ref (items ++ [item]) }) ∧
        (i < -items.length → state.Refuses line) ∧
        (i ≤ items.length → state.Refuses line ∨
          ∀ next target, (state.step line).1.Executes next (.arrayGet target array index) →
            (state.step line).1.Completes next
              ((state.step line).1.advance.machine.write target item))) ∧
    ∀ line this callee rest s, state.Executes line (.invoke (this :: index :: rest) callee) →
      state.machine.callee callee = .ok .charAt →
      state.machine.registers.get? this = some (.text s) →
      (0 ≤ i ∧ i < s.length → ∃ char, s.toList[i.toNat]? = some char ∧
        state.Completes line (state.advance.machine.give (.ofChar char))) ∧
      (i < -s.length ∨ s.length ≤ i → state.Refuses line) := by
  refine ⟨fun array ref harray hstored => ⟨?_, ?_⟩, ?_⟩
  · intro line target hexecutes
    constructor
    · intro hrange
      obtain ⟨item, hitem, hread⟩ := exists_itemAt_ok .list hrange
      exact ⟨item, hitem, hexecutes.arrayGet_completes harray hindex hread⟩
    · intro hbeyond
      obtain ⟨cause, hcause⟩ := exists_itemAt_error .list hbeyond
      have houtcome := outcome_arrayGet state.advance.machine target harray hindex
      exact (hexecutes.settles houtcome).2 cause hcause
  · intro line source item hexecutes hsource
    obtain ⟨hcompletes, hrefuses⟩ :=
      hexecutes.settles (outcome_arrayPut state.advance.machine harray hindex hsource)
    refine ⟨?_, ?_, ?_, ?_⟩
    · intro ⟨hnonneg, hlt⟩
      obtain ⟨place, rfl⟩ := Int.eq_ofNat_of_zero_le hnonneg
      exact hcompletes _ (storeItem_of_lt item (Int.ofNat_lt.mp hlt))
    · rintro rfl
      exact hcompletes _ (storeItem_length _ ref item)
    · intro hbeyond
      obtain ⟨cause, hcause⟩ := exists_storeItem_error item hbeyond
      exact hrefuses cause hcause
    · intro hle
      cases hstore : storeItem state.machine.heap (.list ref) i item with
      | error cause => exact Or.inl (hrefuses cause hstore)
      | ok later =>
          right
          intro next target hnext
          have hread := itemAt_of_storeItem hstored hle hstore
          exact (hcompletes later hstore).arrayGet_next hnext harray hindex hread
  · intro line this callee rest s hexecutes hcallee hthis
    obtain ⟨hcompletes, hrefuses⟩ :=
      hexecutes.settles (outcome_charAt state.advance.machine hcallee hthis hindex)
    rw [← String.length_toList]
    constructor
    · intro hrange
      obtain ⟨char, hchar, hread⟩ := exists_itemAt_ok .text hrange
      refine ⟨char, hchar, hcompletes _ ?_⟩
      rw [hread]
      rfl
    · intro hbeyond
      obtain ⟨cause, hcause⟩ := exists_itemAt_error .text hbeyond
      apply hrefuses cause
      rw [hcause]
      rfl

/-- A list is written and read right behind its last item, and a text is read there. -/
def endListing : List String := [
  "aput p2, p0, p1", "aget v0, p0, p1",
  "invoke-virtual \x7bp3, p1\x7d, Ljava/lang/String;->charAt(I)C"]

def atEnd (line : Int) : Emulator where
  machine := {
    registers := [("p0", .list 0), ("p1", .int 2), ("p2", .int 9), ("p3", .text "hi")]
    heap := { sequences := #[[.int 7, .int 8]] }
    pc := line }
  source := some endListing

theorem atEnd_facts :
    ((atEnd 0).nextLine? = some "aput p2, p0, p1" ∧
      Listing.isPassive "aput p2, p0, p1" = false ∧
      Instruction.ofLine? "aput p2, p0, p1" = some (.arrayPut "p2" "p0" "p1")) ∧
    (((atEnd 0).step "aput p2, p0, p1").1.nextLine? = some "aget v0, p0, p1" ∧
      Listing.isPassive "aget v0, p0, p1" = false ∧
      Instruction.ofLine? "aget v0, p0, p1" = some (.arrayGet "v0" "p0" "p1")) ∧
    ((atEnd 2).nextLine? =
        some "invoke-virtual \x7bp3, p1\x7d, Ljava/lang/String;->charAt(I)C" ∧
      Listing.isPassive "invoke-virtual \x7bp3, p1\x7d, Ljava/lang/String;->charAt(I)C" = false ∧
      Instruction.ofLine? "invoke-virtual \x7bp3, p1\x7d, Ljava/lang/String;->charAt(I)C" =
        some (.invoke ["p3", "p1"] "Ljava/lang/String;->charAt(I)C")) ∧
    (atEnd 2).machine.callee "Ljava/lang/String;->charAt(I)C" = .ok .charAt := by
  decide +kernel

theorem accesses_keep_bounds_atEnd :
    ((atEnd 0).Executes "aput p2, p0, p1" (.arrayPut "p2" "p0" "p1") ∧
      (atEnd 0).Completes "aput p2, p0, p1" { (atEnd 1).machine with
        heap := { sequences := #[[.int 7, .int 8, .int 9]] } } ∧
      ((atEnd 0).step "aput p2, p0, p1").1.Executes "aget v0, p0, p1"
        (.arrayGet "v0" "p0" "p1") ∧
      ((atEnd 0).step "aput p2, p0, p1").1.Completes "aget v0, p0, p1"
        (((atEnd 0).step "aput p2, p0, p1").1.advance.machine.write "v0" (.int 9))) ∧
    (atEnd 2).Executes "invoke-virtual \x7bp3, p1\x7d, Ljava/lang/String;->charAt(I)C"
        (.invoke ["p3", "p1"] "Ljava/lang/String;->charAt(I)C") ∧
      (atEnd 2).Refuses "invoke-virtual \x7bp3, p1\x7d, Ljava/lang/String;->charAt(I)C" := by
  obtain ⟨⟨hput, hputs, hputRead⟩, ⟨hget, hgets, hgetRead⟩, ⟨hcall, hcalls, hcallRead⟩, hcallee⟩ :=
    atEnd_facts
  obtain ⟨-, hgrows, -, hvisible⟩ := ((accesses_keep_bounds (atEnd 0) "p1" 2 rfl).1 "p0" 0 rfl
    (by decide)).2 _ "p2" (.int 9) ⟨hput, hputs, hputRead⟩ rfl
  have hcompletes := hgrows rfl
  refine ⟨⟨⟨hput, hputs, hputRead⟩, hcompletes, ⟨hget, hgets, hgetRead⟩, ?_⟩,
    ⟨hcall, hcalls, hcallRead⟩, ?_⟩
  · rcases hvisible (by decide) with ⟨cause, hkept, -⟩ | hread
    · have hpending := congrArg Machine.pending (hkept.symm.trans hcompletes.1)
      cases hpending
    · exact hread _ "v0" ⟨hget, hgets, hgetRead⟩
  · exact ((accesses_keep_bounds (atEnd 2) "p1" 2 rfl).2 _ "p3" _ [] "hi"
      ⟨hcall, hcalls, hcallRead⟩ hcallee rfl).2 (by decide)

/-- The index is not below the length of the list, but the item is put there and there is no fault. -/
theorem atEnd_is_written :
    ((atEnd 0).machine.registers.get? "p1" = some (.int 2) ∧
      (atEnd 0).machine.registers.get? "p0" = some (.list 0) ∧
      ((atEnd 0).machine.heap.items 0).length = 2) ∧
    (atEnd 0).Executes "aput p2, p0, p1" (.arrayPut "p2" "p0" "p1") ∧
    ¬(atEnd 0).Refuses "aput p2, p0, p1" ∧
    ((atEnd 0).step "aput p2, p0, p1").1.machine.heap.items 0 = [.int 7, .int 8, .int 9] := by
  have hexecutes : (atEnd 0).Executes "aput p2, p0, p1" (.arrayPut "p2" "p0" "p1") :=
    ⟨atEnd_facts.1.1, atEnd_facts.1.2.1, atEnd_facts.1.2.2⟩
  have houtcome : (Instruction.arrayPut "p2" "p0" "p1").outcome (atEnd 0).advance.machine =
      .ok { (atEnd 1).machine with heap := { sequences := #[[.int 7, .int 8, .int 9]] } } := rfl
  have hmachine := (hexecutes.step_of_ok houtcome).1
  refine ⟨⟨rfl, rfl, rfl⟩, hexecutes, ?_, by rw [hmachine]; rfl⟩
  rintro ⟨cause, hkept, -⟩
  have hpending := congrArg Machine.pending (hkept.symm.trans hmachine)
  cases hpending

end Emulator

end Dalvik
