import Dalvik.Proofs.Blocks
import Dalvik.Proofs.Operators
import Dalvik.Proofs.Outcomes
import Dalvik.Proofs.Runs
import Dalvik.Proofs.Steps

/-!
# What one instruction may change

An instruction that completes binds at most one register and changes at most one list or table in
place. Everything else of the machine is touched by few instructions: the result by calls and
returns, the faults that are kept by the one that takes them, the place by jumps. What the listing
declares stays as it is.
-/

namespace Dalvik

namespace Heap

/-- Whatever the store has is still there, with the same contents; one list or table is excepted. -/
structure Keeps (heap later : Heap) (changed? : Option Value) : Prop where
  items : ∀ ref < heap.sequences.size, changed? ≠ some (.list ref) →
    later.items ref = heap.items ref
  members : ∀ ref < heap.sets.size, later.members ref = heap.members ref
  entries : ∀ ref < heap.tables.size, changed? ≠ some (.dict ref) →
    later.entries ref = heap.entries ref
  sequences_size : heap.sequences.size ≤ later.sequences.size

variable {heap later : Heap} {changed? : Option Value}

theorem getElem?_of_toList_prefix {α : Type} {first second : Array α}
    (hfront : first.toList <+: second.toList) {place : Nat} (hplace : place < first.size) :
    second[place]? = first[place]? := by
  obtain ⟨added, hadded⟩ := hfront
  rw [← Array.getElem?_toList, ← hadded, List.getElem?_append_left (by simpa using hplace),
    Array.getElem?_toList]

theorem Grows.keeps (hgrows : heap.Grows later) : heap.Keeps later changed? where
  items ref hlt _ := hgrows.items_eq hlt
  members ref hlt := by
    simp only [Heap.members, getElem?_of_toList_prefix hgrows.sets hlt]
  entries ref hlt _ := by
    simp only [Heap.entries, getElem?_of_toList_prefix hgrows.tables hlt]
  sequences_size := by simpa using hgrows.sequences.length_le

theorem items_write_of_ne (heap : Heap) {ref other : Ref} (hne : ref ≠ other) (items : List Value) :
    (heap.write ref items).items other = heap.items other := by
  simp only [Heap.items, write, Array.getElem?_setIfInBounds_ne hne]

theorem keeps_write (heap : Heap) (ref : Ref) (items : List Value) :
    heap.Keeps (heap.write ref items) (some (.list ref)) where
  items other _ hne := by
    have hother : ref ≠ other := fun heq => hne (heq ▸ rfl)
    exact heap.items_write_of_ne hother items
  members _ _ := rfl
  entries _ _ _ := rfl
  sequences_size := by simp [write]

theorem keeps_writeTable (heap : Heap) (ref : Ref) (entries : List (Value × Value)) :
    heap.Keeps (heap.writeTable ref entries) (some (.dict ref)) where
  items _ _ _ := rfl
  members _ _ := rfl
  entries other _ hne := by
    have hother : ref ≠ other := fun heq => hne (heq ▸ rfl)
    simp only [Heap.entries, writeTable, Array.getElem?_setIfInBounds_ne hother]
  sequences_size := le_rfl

end Heap

namespace Value

theorem assign_keeps {heap later : Heap} {value item : Value} {index : Int}
    (hassign : value.assign heap index item = .ok later) : heap.Keeps later (some value) := by
  unfold assign at hassign
  split at hassign
  · split at hassign
    · cases hassign
      exact heap.keeps_write _ _
    · cases hassign
  · obtain ⟨entries, _, hwrite⟩ := bind_eq_ok.mp hassign
    cases hwrite
    exact heap.keeps_writeTable _ _
  · cases hassign

theorem append_keeps {heap later : Heap} {value item : Value}
    (happend : value.append heap item = .ok later) : heap.Keeps later (some value) := by
  unfold append at happend
  split at happend
  · cases happend
    exact heap.keeps_write _ _
  · cases happend

theorem addInPlace_keeps {heap : Heap} {value addend : Value} {made : Value × Heap}
    (hadd : value.addInPlace heap addend = .ok made) : heap.Keeps made.2 (some value) := by
  unfold addInPlace at hadd
  split at hadd
  · obtain ⟨items, _, hwrite⟩ := bind_eq_ok.mp hadd
    cases hwrite
    exact heap.keeps_write _ _
  · exact (add_extends heap _ _ addend made hadd).keeps

end Value

theorem Instruction.storeItem_keeps {heap later : Heap} {array item : Value} {index : Int}
    (hstore : storeItem heap array index item = .ok later) : heap.Keeps later (some array) := by
  obtain ⟨length, _, hstore⟩ := bind_eq_ok.mp hstore
  split at hstore
  · exact Value.assign_keeps hstore
  · split at hstore
    · exact Value.append_keeps hstore
    · cases hstore
      exact (Heap.Grows.refl heap).keeps

theorem Machine.read_eq_ok {machine : Machine} {register : String} {value : Value} :
    machine.read register = .ok value ↔ machine.registers.get? register = some value := by
  unfold read
  cases machine.registers.get? register with
  | some other => simp
  | none => simp

/-- Methods that write the register of their receiver. -/
def Method.rebinds : Method → Bool
  | .textOfChars | .append => true
  | _ => false

theorem Method.rebinds_iff {method : Method} :
    method.rebinds = true ↔ method = .textOfChars ∨ method = .append := by
  cases method <;> simp [rebinds]

namespace Instruction

/-! ### What an instruction names -/

/-- The register that an instruction binds. -/
def target? (machine : Machine) : Instruction → Option String
  | .const target _ | .constString target _ | .move target _ | .moveResult target
  | .moveException target | .arrayLength target _ | .fillArray target _ | .newArray target _ _
  | .arrayGet target _ _ | .arithmetic _ target _ _ | .literalArithmetic _ target _ _
  | .xorInto target _ | .convert _ target _ | .staticGet target _ | .newInstance target _ =>
    some target
  | .arrayPut _ array _ => some array
  | .staticPut _ field => some field
  | .invoke registers callee =>
    match machine.callee callee with
    | .ok method => if method.rebinds then some (registers.headD "") else none
    | .error _ => none
  | .branch .. | .branchZero .. | .goto .. | .packedSwitch .. | .exit .. => none

/-- The list or table that an instruction changes in place. -/
def changed? (machine : Machine) : Instruction → Option Value
  | .arrayPut _ array _ => machine.registers.get? array
  | .invoke registers callee =>
    match machine.callee callee with
    | .ok .append => machine.registers.get? (registers.headD "")
    | _ => none
  | _ => none

/-- Calls and returns. -/
def gives : Instruction → Bool
  | .invoke .. | .exit .. => true
  | _ => false

def leaves : Instruction → Bool
  | .exit .. => true
  | _ => false

def takesPending : Instruction → Bool
  | .moveException _ => true
  | _ => false

/-! ### The frame -/

/-- What an instruction that completes may have changed. -/
structure Frame (instruction : Instruction) (before after : Machine) : Prop
    extends before.SameTables after where
  registers : after.registers = before.registers ∨
    ∃ target value, instruction.target? before = some target ∧
      after.registers = before.registers.insert target value
  rebound : ∀ source array index, instruction = .arrayPut source array index →
    after.registers.get? array = before.registers.get? array
  heap : before.heap.Keeps after.heap (instruction.changed? before)
  result : instruction.gives = false → after.result = before.result
  stopped : instruction.leaves = false → after.stopped = before.stopped
  pending : instruction.takesPending = false → after.pending = before.pending
  taken : instruction.takesPending = true → ∃ thrown, before.pending = after.pending ++ [thrown]
  pc : instruction.jumps = false → after.pc = before.pc
  thrownCount : after.thrownCount = before.thrownCount
  library : after.library = before.library

variable {instruction : Instruction} {before after : Machine}

theorem Frame.refl (htakes : instruction.takesPending = false) : Frame instruction before before where
  toSameTables := ⟨rfl, rfl, rfl, rfl⟩
  registers := Or.inl rfl
  rebound _ _ _ _ := rfl
  heap := (Heap.Grows.refl before.heap).keeps
  result _ := rfl
  stopped _ := rfl
  pending _ := rfl
  taken htaken := absurd (htaken.symm.trans htakes) nofun
  pc _ := rfl
  thrownCount := rfl
  library := rfl

/-- A register is bound to a value of a store that keeps what it should. -/
theorem Frame.ofWrite {target : String} {made : Value × Heap}
    (htarget : instruction.target? before = some target)
    (hheap : before.heap.Keeps made.2 (instruction.changed? before))
    (hput : ∀ source array index, instruction = .arrayPut source array index →
      before.registers.get? array = some made.1)
    (htakes : instruction.takesPending = false) :
    Frame instruction before (before.writeFrom target made) where
  toSameTables := ⟨rfl, rfl, rfl, rfl⟩
  registers := Or.inr ⟨target, made.1, htarget, rfl⟩
  rebound source array index hinstruction := by
    have harray : array = target := by
      rw [hinstruction] at htarget
      exact Option.some.inj htarget
    rw [hput source array index hinstruction, harray]
    exact Table.get?_insert_self before.registers target made.1
  heap := hheap
  result _ := rfl
  stopped _ := rfl
  pending _ := rfl
  taken htaken := absurd (htaken.symm.trans htakes) nofun
  pc _ := rfl
  thrownCount := rfl
  library := rfl

/-- A register is bound to a value, and nothing else happens. -/
theorem Frame.ofPlainWrite {target : String} (value : Value)
    (htarget : instruction.target? before = some target)
    (hput : ∀ source array index, instruction ≠ .arrayPut source array index)
    (htakes : instruction.takesPending = false) :
    Frame instruction before (before.write target value) := by
  have hkeeps : before.heap.Keeps (value, before.heap).2 (instruction.changed? before) :=
    (Heap.Grows.refl before.heap).keeps
  exact Frame.ofWrite htarget hkeeps
    (fun source array index heq => absurd heq (hput source array index)) htakes

/-- Lists and tables were made, but none was bound. -/
theorem Frame.ofGrows {later : Heap} (hgrows : before.heap.Grows later)
    (htakes : instruction.takesPending = false) :
    Frame instruction before { before with heap := later } :=
  { Frame.refl htakes with heap := hgrows.keeps }

/-- A call may give a result besides. -/
theorem Frame.give {machine : Machine} {registers : List String} {callee : String}
    (hframe : Frame (.invoke registers callee) before machine) (value : Value) :
    Frame (.invoke registers callee) before (machine.give value) :=
  { hframe with result := nofun }

theorem Frame.ofJump {label : String} (hjumps : instruction.jumps = true)
    (htakes : instruction.takesPending = false) (hjump : before.jumpTo label = .ok after) :
    Frame instruction before after := by
  unfold Machine.jumpTo at hjump
  split at hjump
  · cases hjump
    have hstays : instruction.jumps ≠ false := by rw [hjumps]; nofun
    exact { Frame.refl htakes with pc := fun hpc => absurd hpc hstays }
  · cases hjump

theorem Frame.ofLeave (kind source : Option String) (value : Value) :
    Frame (.exit kind source) before (before.leaveWith value) :=
  have hsame : Frame (.exit kind source) before before := Frame.refl rfl
  { hsame with result := nofun, stopped := nofun }

end Instruction

open Instruction

section Calls

variable {before after : Machine} {registers : List String} {callee : String}

theorem Machine.giveSlice_frame {value : Value} {arguments : List String}
    (hgive : before.giveSlice value arguments = .ok after) :
    Frame (.invoke registers callee) before after := by
  simp only [Machine.giveSlice, bind_eq_ok, pure_eq_ok, lift_eq_ok] at hgive
  obtain ⟨_, -, first, -, _, -, last, -, made, hmade, rfl⟩ := hgive
  exact (Frame.ofGrows (Value.slice_extends _ _ _ _ made hmade) rfl).give made.1

/-- What a method may change. -/
theorem Method.outcome_frame {method : Method} (hcallee : before.callee callee = .ok method)
    (houtcome : method.outcome before (registers.headD "") registers.tail = .ok after) :
    Frame (.invoke registers callee) before after := by
  have hsame : Frame (.invoke registers callee) before before := Frame.refl rfl
  cases method with
  | create className => cases houtcome
  | textOfChars =>
      simp only [Method.outcome, bind_eq_ok, pure_eq_ok] at houtcome
      obtain ⟨chars, -, text, -, rfl⟩ := houtcome
      refine Frame.ofPlainWrite (.text text) ?_ (by simp) rfl
      simp only [target?, hcallee, Method.rebinds, if_true]
  | charAt =>
      simp only [Method.outcome, bind_eq_ok, pure_eq_ok] at houtcome
      obtain ⟨index, -, value, -, char, -, rfl⟩ := houtcome
      exact hsame.give char
  | toChars =>
      simp only [Method.outcome, bind_eq_ok, pure_eq_ok] at houtcome
      obtain ⟨value, -, items, -, rfl⟩ := houtcome
      exact (Frame.ofGrows (before.heap.grows_newList items) rfl).give _
  | intern =>
      simp only [Method.outcome, bind_eq_ok, pure_eq_ok] at houtcome
      obtain ⟨value, -, text, -, rfl⟩ := houtcome
      exact hsame.give (.text text)
  | textOfRange =>
      simp only [Method.outcome, bind_eq_ok] at houtcome
      obtain ⟨chars, -, text, -, hgive⟩ := houtcome
      exact Machine.giveSlice_frame hgive
  | length =>
      simp only [Method.outcome, bind_eq_ok, pure_eq_ok] at houtcome
      obtain ⟨value, -, length, -, rfl⟩ := houtcome
      exact hsame.give (.int length)
  | substring =>
      simp only [Method.outcome, bind_eq_ok] at houtcome
      obtain ⟨value, -, hgive⟩ := houtcome
      exact Machine.giveSlice_frame hgive
  | initBuilder =>
      cases houtcome
      exact hsame
  | append =>
      simp only [Method.outcome, bind_eq_ok, pure_eq_ok, lift_eq_ok] at houtcome
      obtain ⟨value, hvalue, addend, -, made, hmade, rfl⟩ := houtcome
      have hchanged : changed? before (.invoke registers callee) = some value := by
        simp only [changed?, hcallee]
        exact Machine.read_eq_ok.mp hvalue
      have htarget : target? before (.invoke registers callee) = some (registers.headD "") := by
        simp only [target?, hcallee, Method.rebinds, if_true]
      have hheap := hchanged ▸ Value.addInPlace_keeps hmade
      exact (Frame.ofWrite htarget hheap (by simp) rfl).give made.1
  | builderText =>
      simp only [Method.outcome, bind_eq_ok, pure_eq_ok] at houtcome
      obtain ⟨value, -, text, -, rfl⟩ := houtcome
      exact hsame.give (.text text)
  | parseInt =>
      simp only [Method.outcome, bind_eq_ok, pure_eq_ok] at houtcome
      obtain ⟨value, -, number, -, rfl⟩ := houtcome
      exact hsame.give (.int number)
  | parseDecimal =>
      simp only [Method.outcome, bind_eq_ok, pure_eq_ok] at houtcome
      obtain ⟨value, -, number, -, rfl⟩ := houtcome
      exact hsame.give (.int number)

end Calls

namespace Instruction

variable {instruction : Instruction} {before after : Machine}

theorem leaveOutcome_frame {kind source : Option String}
    (houtcome : leaveOutcome before kind source = .ok after) :
    Frame (.exit kind source) before after := by
  unfold leaveOutcome at houtcome
  split at houtcome
  · cases houtcome
    exact Frame.ofLeave _ _ _
  · cases houtcome
    exact Frame.ofLeave _ _ _
  · simp only [bind_eq_ok, pure_eq_ok] at houtcome
    obtain ⟨value, -, rfl⟩ := houtcome
    exact Frame.ofLeave _ _ _
  · simp only [bind_eq_ok, pure_eq_ok] at houtcome
    obtain ⟨value, -, rfl⟩ := houtcome
    exact Frame.ofLeave _ _ _
  · simp only [bind_eq_ok, pure_eq_ok] at houtcome
    obtain ⟨value, -, rfl⟩ := houtcome
    exact Frame.ofLeave _ _ _
  · cases houtcome
  · cases houtcome
  · cases houtcome

theorem narrowOutcome_frame {kind target source : String}
    (houtcome : narrowOutcome before kind target source = .ok after) :
    Frame (.convert kind target source) before after := by
  unfold narrowOutcome at houtcome
  split at houtcome
  · simp only [bind_eq_ok, pure_eq_ok] at houtcome
    obtain ⟨value, -, char, -, rfl⟩ := houtcome
    exact Frame.ofPlainWrite char rfl (by simp) rfl
  · simp only [bind_eq_ok, pure_eq_ok] at houtcome
    obtain ⟨value, -, byte, -, rfl⟩ := houtcome
    exact Frame.ofPlainWrite byte rfl (by simp) rfl
  · cases houtcome

/-- What an instruction may change. -/
theorem outcome_frame (houtcome : instruction.outcome before = .ok after) :
    Frame instruction before after := by
  cases instruction with
  | const target literal =>
      simp only [outcome, bind_eq_ok, pure_eq_ok, lift_eq_ok] at houtcome
      obtain ⟨made, hmade, rfl⟩ := houtcome
      exact Frame.ofWrite rfl (Expr.readLiteral_grows hmade).keeps (by simp) rfl
  | constString => cases houtcome
  | move target source =>
      simp only [outcome, bind_eq_ok, pure_eq_ok] at houtcome
      obtain ⟨value, -, rfl⟩ := houtcome
      exact Frame.ofPlainWrite value rfl (by simp) rfl
  | moveResult target =>
      cases houtcome
      exact Frame.ofPlainWrite before.result rfl (by simp) rfl
  | moveException target =>
      simp only [outcome] at houtcome
      split at houtcome
      · rename_i thrown hlast
        cases houtcome
        have hpending : before.pending = before.pending.dropLast ++ [thrown] :=
          (List.dropLast_append_getLast? thrown hlast).symm
        -- but for the fault that is taken, this is the frame of a move
        have hwrite : Frame (.moveResult target) before
            (before.write target (.raised thrown.cause thrown.serial)) :=
          Frame.ofPlainWrite _ rfl (by simp) rfl
        exact { hwrite with
          rebound := by simp
          result := fun _ => rfl
          stopped := fun _ => rfl
          pending := by simp [takesPending]
          taken := fun _ => ⟨thrown, hpending⟩
          pc := fun _ => rfl }
      · cases houtcome
  | branch test left right label =>
      simp only [outcome, bind_eq_ok] at houtcome
      obtain ⟨x, -, y, -, taken, -, hjump⟩ := houtcome
      cases taken with
      | true => exact Frame.ofJump rfl rfl hjump
      | false =>
          cases hjump
          exact Frame.refl rfl
  | branchZero test source label =>
      simp only [outcome, bind_eq_ok] at houtcome
      obtain ⟨x, -, taken, -, hjump⟩ := houtcome
      cases taken with
      | true => exact Frame.ofJump rfl rfl hjump
      | false =>
          cases hjump
          exact Frame.refl rfl
  | goto label => exact Frame.ofJump rfl rfl houtcome
  | packedSwitch source table =>
      simp only [outcome, bind_eq_ok] at houtcome
      obtain ⟨value, -, label?, -, hjump⟩ := houtcome
      cases label? with
      | some label => exact Frame.ofJump rfl rfl hjump
      | none =>
          cases hjump
          exact Frame.refl rfl
  | arrayLength target array =>
      simp only [outcome, bind_eq_ok, pure_eq_ok] at houtcome
      obtain ⟨value, -, length, -, rfl⟩ := houtcome
      exact Frame.ofPlainWrite (.int length) rfl (by simp) rfl
  | fillArray target label =>
      simp only [outcome] at houtcome
      split at houtcome
      · cases houtcome
        exact Frame.ofPlainWrite _ rfl (by simp) rfl
      · cases houtcome
  | newArray target size className =>
      simp only [outcome, bind_eq_ok, pure_eq_ok, lift_eq_ok] at houtcome
      obtain ⟨count, -, made, hmade, rfl⟩ := houtcome
      have hgrows := (before.heap.grows_newList [.text ""]).trans
        (Value.operate_extends _ _ _ _ made hmade)
      exact Frame.ofWrite rfl hgrows.keeps (by simp) rfl
  | arrayGet target array index =>
      simp only [outcome, bind_eq_ok, pure_eq_ok] at houtcome
      obtain ⟨sequence, -, place, -, item, -, rfl⟩ := houtcome
      exact Frame.ofPlainWrite item rfl (by simp) rfl
  | arrayPut source array index =>
      simp only [outcome, bind_eq_ok, pure_eq_ok, lift_eq_ok] at houtcome
      obtain ⟨_, -, place, -, sequence, hsequence, item, -, heap, hheap, rfl⟩ := houtcome
      have harray := Machine.read_eq_ok.mp hsequence
      refine Frame.ofWrite rfl ?_ ?_ rfl
      · rw [changed?, harray]
        exact storeItem_keeps hheap
      · rintro _ _ _ ⟨⟩
        exact harray
  | arithmetic operation target left right =>
      simp only [outcome, bind_eq_ok, pure_eq_ok, lift_eq_ok] at houtcome
      obtain ⟨x, -, y, -, made, hmade, rfl⟩ := houtcome
      have hgrows := apply_extends operation before.heap x y made hmade
      exact Frame.ofWrite rfl hgrows.keeps (by simp) rfl
  | literalArithmetic operation target source literal =>
      simp only [outcome, bind_eq_ok, pure_eq_ok, lift_eq_ok] at houtcome
      obtain ⟨made, hmade, rfl⟩ := houtcome
      have hgrows := literalResult_extends before operation target source literal made hmade
      exact Frame.ofWrite rfl hgrows.keeps (by simp) rfl
  | xorInto target source =>
      simp only [outcome, bind_eq_ok, pure_eq_ok, lift_eq_ok] at houtcome
      obtain ⟨y, -, x, -, number, -, made, hmade, rfl⟩ := houtcome
      have hgrows := Value.bitXor_extends before.heap _ x number made hmade
      exact Frame.ofWrite rfl hgrows.keeps (by simp) rfl
  | convert kind target source => exact narrowOutcome_frame houtcome
  | staticGet target field =>
      simp only [outcome, bind_eq_ok, pure_eq_ok] at houtcome
      obtain ⟨value, -, rfl⟩ := houtcome
      exact Frame.ofPlainWrite value rfl (by simp) rfl
  | staticPut source field =>
      simp only [outcome, bind_eq_ok, pure_eq_ok] at houtcome
      obtain ⟨value, -, rfl⟩ := houtcome
      exact Frame.ofPlainWrite value rfl (by simp) rfl
  | newInstance target className =>
      simp only [outcome, bind_eq_ok, pure_eq_ok] at houtcome
      obtain ⟨object, -, rfl⟩ := houtcome
      exact Frame.ofPlainWrite object rfl (by simp) rfl
  | invoke registers callee =>
      simp only [outcome, bind_eq_ok] at houtcome
      obtain ⟨method, hcallee, houtcome⟩ := houtcome
      exact Method.outcome_frame hcallee houtcome
  | exit kind source => exact leaveOutcome_frame houtcome

end Instruction

/-! ### Where the methods that write their receiver are -/

namespace Library

/-- Every method stands where the standard library has it. -/
def Within (library : Library) : Prop :=
  ∀ className methods signature method, library.get? className = some methods →
    methods.get? signature = some method →
    ∃ original, standard.get? className = some original ∧ original.get? signature = some method

/-- The class and the signature that make texts of characters. -/
def fromChars : String × String :=
  (stringClass, "<init>([C)V")

/-- The class and the signatures that add to a builder. -/
def appending : List (String × String) := [
  (stringBuilderClass, "append(Ljava/lang/String;)Ljava/lang/StringBuilder;"),
  (stringBuilderClass, "append(C)Ljava/lang/StringBuilder;")]

theorem standard_within : Within standard :=
  fun _ methods _ _ hmethods hmethod => ⟨methods, hmethods, hmethod⟩

theorem standard_entries : ∀ entry ∈ standard, ∀ item ∈ entry.2,
    (item.2 = .textOfChars → (entry.1, item.1) = fromChars) ∧
      (item.2 = .append → (entry.1, item.1) ∈ appending) := by
  decide +kernel

theorem Within.entry {library : Library} (hwithin : library.Within) {className signature : String}
    {methods : Table Method} {method : Method} (hmethods : library.get? className = some methods)
    (hmethod : methods.get? signature = some method) :
    (method = .textOfChars → (className, signature) = fromChars) ∧
      (method = .append → (className, signature) ∈ appending) := by
  obtain ⟨original, horiginal, hsame⟩ := hwithin className methods signature method hmethods hmethod
  exact standard_entries (className, original) (Table.mem_of_get? horiginal) (signature, method)
    (Table.mem_of_get? hsame)

end Library

/-- A callee that is written with one of the given classes and signatures. -/
def Instruction.Names (callee : String) (methods : List (String × String)) : Prop :=
  ∃ descriptor signature className, calleeParts callee = .ok (descriptor, signature) ∧
    ClassName.ofDescriptor descriptor = .ok className ∧ (className, signature) ∈ methods

theorem Instruction.Names.mono {callee : String} {methods others : List (String × String)}
    (hnames : Names callee methods) (hsubset : methods ⊆ others) : Names callee others := by
  obtain ⟨descriptor, signature, className, hparts, hclass, hmem⟩ := hnames
  exact ⟨descriptor, signature, className, hparts, hclass, hsubset hmem⟩

theorem Machine.callee_names {machine : Machine} (hwithin : machine.library.Within) {callee : String}
    {method : Method} (hcallee : machine.callee callee = .ok method) :
    (method = .textOfChars → Names callee [Library.fromChars]) ∧
      (method = .append → Names callee Library.appending) := by
  simp only [Machine.callee, bind_eq_ok, lift_eq_ok] at hcallee
  obtain ⟨⟨descriptor, signature⟩, hparts, className, hclass, hmethod⟩ := hcallee
  unfold Machine.method? at hmethod
  split at hmethod
  · cases hmethod
  · rename_i methods hmethods
    split at hmethod
    · cases hmethod
    · rename_i other hother
      cases hmethod
      have hentry := hwithin.entry hmethods hother
      refine ⟨fun htext => ⟨descriptor, signature, className, hparts, hclass, ?_⟩,
        fun happend => ⟨descriptor, signature, className, hparts, hclass, hentry.2 happend⟩⟩
      exact List.mem_singleton.mpr (hentry.1 htext)

namespace Instruction

/-- With methods where the standard library has them, a call writes its receiver only to make a text
of characters or to append, and changes a list only to append. -/
theorem invoke_names {machine : Machine} (hwithin : machine.library.Within)
    {registers : List String} {callee : String} :
    (∀ register, target? machine (.invoke registers callee) = some register →
      register = registers.headD "" ∧ Names callee (Library.fromChars :: Library.appending)) ∧
    ∀ object, changed? machine (.invoke registers callee) = some object →
      machine.registers.get? (registers.headD "") = some object ∧
        Names callee Library.appending := by
  constructor
  · intro register htarget
    simp only [target?] at htarget
    split at htarget
    · rename_i method hcallee
      have hnames := Machine.callee_names hwithin hcallee
      obtain ⟨hrebinds, hregister⟩ := Option.ite_none_right_eq_some.mp htarget
      refine ⟨(Option.some.inj hregister).symm, ?_⟩
      rcases Method.rebinds_iff.mp hrebinds with hmethod | hmethod
      · exact (hnames.1 hmethod).mono (by simp)
      · exact (hnames.2 hmethod).mono (by simp)
    · cases htarget
  · intro object hchanged
    simp only [changed?] at hchanged
    split at hchanged
    · rename_i hcallee
      exact ⟨hchanged, (Machine.callee_names hwithin hcallee).2 rfl⟩
    · cases hchanged

end Instruction

namespace Emulator

theorem perform_eq_done {emulator after : Emulator} {α : Type} {action : Action α} {value : α}
    (hdone : emulator.perform action = (after, .done value)) :
    ∃ machine, action emulator.machine = .ok value machine ∧
      after = { emulator with machine := machine } := by
  cases hrun : action emulator.machine with
  | ok other machine =>
      rw [perform_of_ok hrun] at hdone
      cases hdone
      exact ⟨machine, rfl, rfl⟩
  | error halt machine =>
      cases halt with
      | fault cause =>
          rw [perform_of_fault hrun] at hdone
          cases hdone
      | fatal message =>
          simp only [perform, hrun] at hdone
          exact absurd (congrArg Prod.snd hdone) (report_ne_done _ message value)

/-- As long as none of the emulator's lists is shared, an instruction that completes changes no more
than its frame allows. A text that it evaluates is self-contained. -/
theorem executeForm_frame (before after : Emulator) (form : Form) (line : String)
    (instruction : Instruction) (hshared : before.shared = [])
    (hread : form.read? line = some instruction)
    (hself : instruction.evaluatesSelfContained before.machine = true)
    (hdone : (before.trace line).perform instruction.execute = (after, .done ())) :
    Shared.executeForm before form line = (after, .done true) ∧
      instruction.Frame before.machine after.machine ∧
      (before.machine.library.Within →
        ∀ registers callee, instruction = .invoke registers callee →
          (∀ register, instruction.target? before.machine = some register →
            register = registers.headD "" ∧
              Names callee (Library.fromChars :: Library.appending)) ∧
          ∀ object, instruction.changed? before.machine = some object →
            before.machine.registers.get? (registers.headD "") = some object ∧
              Names callee Library.appending) ∧
      after.source = before.source ∧ after.steps = before.steps := by
  have hending : ∀ cause, (.done () : Ending Unit) ≠ .raised cause := by
    intro cause hraised
    cases hraised
  have hexecute : (before.trace line).execute instruction = (after, .done ()) :=
    (execute_of_perform hdone hending).1
  have hform : Shared.executeForm before form line = (after, .done true) := by
    rw [Shared.executeForm_eq hshared hread hself]
    simp only [executeForm, attempt, hread, hexecute, andThen]
  obtain ⟨machine, hrun, hafter⟩ := perform_eq_done hdone
  rw [trace_machine] at hrun
  have hmachine : after.machine = machine := by rw [hafter]
  have hsource : after.source = before.source := by rw [hafter, ← trace_source before line]
  have hsteps : after.steps = before.steps := by rw [hafter, ← trace_steps before line]
  have hframe : instruction.Frame before.machine after.machine := by
    rw [hmachine]
    exact outcome_frame (execute_eq_ok_iff.mp hrun)
  refine ⟨hform, hframe, ?_, hsource, hsteps⟩
  rintro hwithin registers callee rfl
  exact invoke_names hwithin

/-- The characters of a text are added to whatever the first register holds. -/
def appendLine : String :=
  "invoke-virtual {v0, v1}, " ++
    "Ljava/lang/StringBuilder;->append(Ljava/lang/String;)Ljava/lang/StringBuilder;"

def appendCall : Instruction :=
  .invoke ["v0", "v1"]
    "Ljava/lang/StringBuilder;->append(Ljava/lang/String;)Ljava/lang/StringBuilder;"

/-- Two registers hold one list, and characters are about to be added to it. -/
def sharingList : Emulator where
  machine := {
    registers := [("v0", .list 0), ("v1", .text "bc"), ("v2", .list 0), ("v3", .list 1)]
    heap := { sequences := #[[.text "a"], [.int 7]] }
    pending := [⟨.emptyPop, 0⟩]
    pc := 1 }
  source := some [appendLine]

theorem executeForm_frame_sharingList :
    (Form.invoke.read? appendLine = some appendCall ∧
      ((sharingList.trace appendLine).perform appendCall.execute).2 = .done ()) ∧
    ∃ after, Shared.executeForm sharingList .invoke appendLine = (after, .done true) ∧
      appendCall.Frame sharingList.machine after.machine ∧
      ∀ object, appendCall.changed? sharingList.machine = some object →
        sharingList.machine.registers.get? "v0" = some object ∧
          Names "Ljava/lang/StringBuilder;->append(Ljava/lang/String;)Ljava/lang/StringBuilder;"
            Library.appending := by
  have hread : Form.invoke.read? appendLine = some appendCall := by decide +kernel
  have hdone : ((sharingList.trace appendLine).perform appendCall.execute).2 = .done () := by
    decide +kernel
  obtain ⟨hform, hframe, hnames, -⟩ :=
    executeForm_frame sharingList _ .invoke appendLine appendCall rfl hread rfl
      (eq_mk_of_snd_eq hdone)
  exact ⟨⟨hread, hdone⟩, _, hform, hframe, (hnames Library.standard_within _ _ rfl).2⟩

/-- The text of a product reaches the list of guarded blocks, and an item is put into it. -/
def lentBlocksListing : List String := [
  "mul-int/lit8 v0, p0, 0 or vm.catch_blocks", "const v1, 0", "aput p1, v0, v1"]

def lentBlocksRun : Emulator × Ending Value :=
  Shared.run {} lentBlocksListing (({} : Machine).load
    [("p0", .int 1), ("p1", .tuple [.int 0, .int 1, .text ":end"])]) false 2

/-- The list that the line puts an item into is that of the guarded blocks. -/
theorem lentBlocksListing_adds_block :
    Form.arrayPut.read? "aput p1, v0, v1" = some (.arrayPut "p1" "v0" "v1") ∧
      lentBlocksRun.1.machine.catchBlocks = [] ∧
      (Shared.executeForm lentBlocksRun.1 .arrayPut "aput p1, v0, v1").2 = .done true ∧
      (Shared.executeForm lentBlocksRun.1 .arrayPut "aput p1, v0, v1").1.machine.catchBlocks =
        [⟨0, 1, some ":end"⟩] := by
  decide +kernel

end Emulator

end Dalvik
