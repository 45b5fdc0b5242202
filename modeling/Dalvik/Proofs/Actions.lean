import Dalvik.Machine.Action
import Dalvik.Proofs.Table
import Mathlib.Logic.Basic

/-!
# Actions that change all or nothing

An action may read many things and change several. It changes all or nothing if everything that can
halt it comes before the first change. This is told from its parts: parts that never change the
machine may come first, parts that never halt may come last. None of these parts moves the machine
to another line; what does so is a jump.
-/

namespace Dalvik

namespace Machine

/-- What the listing declares is still the same. -/
structure SameTables (before after : Machine) : Prop where
  labels : after.labels = before.labels
  catchBlocks : after.catchBlocks = before.catchBlocks
  switches : after.switches = before.switches
  arrays : after.arrays = before.arrays

/-- The machine is at the same line of the same program. -/
structure SamePlace (before after : Machine) : Prop extends SameTables before after where
  pc : after.pc = before.pc

variable {first second third : Machine}

theorem SameTables.trans (hfirst : first.SameTables second) (hsecond : second.SameTables third) :
    first.SameTables third :=
  ⟨hsecond.labels.trans hfirst.labels, hsecond.catchBlocks.trans hfirst.catchBlocks,
    hsecond.switches.trans hfirst.switches, hsecond.arrays.trans hfirst.arrays⟩

theorem SamePlace.refl (machine : Machine) : machine.SamePlace machine :=
  ⟨⟨rfl, rfl, rfl, rfl⟩, rfl⟩

theorem SamePlace.trans (hfirst : first.SamePlace second) (hsecond : second.SamePlace third) :
    first.SamePlace third :=
  ⟨hfirst.toSameTables.trans hsecond.toSameTables, hsecond.pc.trans hfirst.pc⟩

end Machine

namespace Action

variable {α β : Type} {action : Action α} {next : α → Action β}

/-- An action that never changes the machine. -/
def Silent (action : Action α) : Prop :=
  ∀ machine, (∃ value, action machine = .ok value machine) ∨
    ∃ halt, action machine = .error halt machine

/-- An action that never halts, and stays at its place. -/
def Sure (action : Action α) : Prop :=
  ∀ machine, ∃ value left, action machine = .ok value left ∧ machine.SamePlace left

/-- An action that comes to its end at its place, or halts and has changed nothing. -/
def Orderly (action : Action α) : Prop :=
  ∀ machine, (∃ value left, action machine = .ok value left ∧ machine.SamePlace left) ∨
    ∃ halt, action machine = .error halt machine

theorem Silent.orderly (hsilent : Silent action) : Orderly action := by
  intro machine
  rcases hsilent machine with ⟨value, hok⟩ | herror
  · exact Or.inl ⟨value, machine, hok, .refl machine⟩
  · exact Or.inr herror

theorem Sure.orderly (hsure : Sure action) : Orderly action :=
  fun machine => Or.inl (hsure machine)

theorem bind_of_ok {machine middle : Machine} {value : α} (hfirst : action machine = .ok value middle) :
    (action >>= next) machine = next value middle := by
  simp only [bind, EStateM.bind, hfirst]

theorem bind_of_error {machine left : Machine} {halt : Halt}
    (hfirst : action machine = .error halt left) :
    (action >>= next) machine = .error halt left := by
  simp only [bind, EStateM.bind, hfirst]

theorem Silent.bind (hsilent : Silent action) (hnext : ∀ value, Silent (next value)) :
    Silent (action >>= next) := by
  intro machine
  rcases hsilent machine with ⟨value, hok⟩ | ⟨halt, herror⟩
  · rw [bind_of_ok hok]
    exact hnext value machine
  · exact Or.inr ⟨halt, bind_of_error herror⟩

theorem Sure.bind (hsure : Sure action) (hnext : ∀ value, Sure (next value)) :
    Sure (action >>= next) := by
  intro machine
  obtain ⟨value, middle, hfirst, hmiddle⟩ := hsure machine
  obtain ⟨result, left, hrest, hleft⟩ := hnext value middle
  exact ⟨result, left, (bind_of_ok hfirst).trans hrest, hmiddle.trans hleft⟩

/-- Looking first does no harm. -/
theorem Silent.bind_orderly (hsilent : Silent action) (hnext : ∀ value, Orderly (next value)) :
    Orderly (action >>= next) := by
  intro machine
  rcases hsilent machine with ⟨value, hok⟩ | ⟨halt, herror⟩
  · rw [bind_of_ok hok]
    exact hnext value machine
  · exact Or.inr ⟨halt, bind_of_error herror⟩

/-- Once the rest cannot halt any more, only the first part can. -/
theorem Orderly.bind_sure (horderly : Orderly action) (hnext : ∀ value, Sure (next value)) :
    Orderly (action >>= next) := by
  intro machine
  rcases horderly machine with ⟨value, middle, hfirst, hmiddle⟩ | ⟨halt, herror⟩
  · obtain ⟨result, left, hrest, hleft⟩ := hnext value middle
    exact Or.inl ⟨result, left, (bind_of_ok hfirst).trans hrest, hmiddle.trans hleft⟩
  · exact Or.inr ⟨halt, bind_of_error herror⟩

theorem Silent.bind_sure (hsilent : Silent action) (hnext : ∀ value, Sure (next value)) :
    Orderly (action >>= next) :=
  hsilent.orderly.bind_sure hnext

/-! ### The parts that actions are made of -/

theorem get_apply (machine : Machine) : (get : Action Machine) machine = .ok machine machine := rfl

theorem silent_get : Silent get := fun machine => Or.inl ⟨machine, rfl⟩

theorem silent_throw (halt : Halt) : Silent (throw halt : Action α) := fun _ => Or.inr ⟨halt, rfl⟩

theorem silent_ofExcept (result : Except Halt α) : Silent (ofExcept result) := by
  cases result with
  | ok value => exact fun _ => Or.inl ⟨value, rfl⟩
  | error halt => exact silent_throw halt

theorem silent_liftFault (result : Except Fault α) : Silent (liftM result : Action α) :=
  silent_ofExcept (liftM result)

theorem silent_liftHalt (result : Except Halt α) : Silent (liftM result : Action α) :=
  silent_ofExcept result

theorem silent_fetch (register : String) : Silent (fetch register) :=
  silent_get.bind fun machine => silent_liftFault (machine.read register)

theorem sure_pure (value : α) : Sure (pure value) := fun machine => ⟨value, machine, rfl, .refl machine⟩

theorem sure_modify {change : Machine → Machine}
    (hchange : ∀ machine : Machine, machine.SamePlace (change machine)) : Sure (modify change) :=
  fun machine => ⟨(), change machine, rfl, hchange machine⟩

theorem sure_store (register : String) (value : Value) : Sure (store register value) :=
  sure_modify fun _ => ⟨⟨rfl, rfl, rfl, rfl⟩, rfl⟩

theorem sure_storeFrom (register : String) (made : Value × Heap) : Sure (storeFrom register made) :=
  sure_modify fun _ => ⟨⟨rfl, rfl, rfl, rfl⟩, rfl⟩

theorem sure_give (value : Value) : Sure (give value) :=
  sure_modify fun _ => ⟨⟨rfl, rfl, rfl, rfl⟩, rfl⟩

theorem sure_giveFrom (made : Value × Heap) : Sure (giveFrom made) :=
  sure_modify fun _ => ⟨⟨rfl, rfl, rfl, rfl⟩, rfl⟩

theorem sure_stop : Sure stop :=
  sure_modify fun _ => ⟨⟨rfl, rfl, rfl, rfl⟩, rfl⟩

theorem sure_install (made : Value × Heap) : Sure (install made) := by
  refine Sure.bind (sure_modify fun _ => ?_) fun _ => sure_pure made.1
  exact ⟨⟨rfl, rfl, rfl, rfl⟩, rfl⟩

theorem orderly_changeHeap (change : Heap → Except Fault Heap) : Orderly (changeHeap change) :=
  silent_get.bind_orderly fun machine =>
    (silent_liftFault (change machine.heap)).bind_sure fun _ =>
      sure_modify fun _ => ⟨⟨rfl, rfl, rfl, rfl⟩, rfl⟩

theorem orderly_takePending : Orderly takePending := by
  refine silent_get.bind_orderly fun machine => ?_
  cases machine.pending.getLast? with
  | none => exact (silent_throw _).orderly
  | some thrown =>
      refine (Sure.bind (sure_modify fun _ => ?_) fun _ => sure_pure thrown).orderly
      exact ⟨⟨rfl, rfl, rfl, rfl⟩, rfl⟩

/-- An action that only tells a result. -/
def Tells (action : Action α) (machine : Machine) : Except Fault α → Prop
  | .ok value => action machine = .ok value machine
  | .error cause => action machine = .error (.fault cause) machine

theorem tells_lift (result : Except Fault α) (machine : Machine) :
    Tells (liftM result) machine result := by
  cases result <;> rfl

theorem tells_fetch (register : String) (machine : Machine) :
    Tells (fetch register) machine (machine.read register) := by
  have hfetch : fetch register machine = (liftM (machine.read register) : Action Value) machine :=
    bind_of_ok (get_apply machine)
  unfold Tells
  rw [hfetch]
  exact tells_lift (machine.read register) machine

/-- A register that was just written can be read. -/
theorem store_fetch (register : String) (value : Value) (rest : Value → Action β) :
    (store register value >>= fun _ => fetch register >>= rest) =
      (store register value >>= fun _ => rest value) := by
  funext machine
  have hstore : store register value machine = .ok () (machine.write register value) := rfl
  have hread : (machine.write register value).read register = .ok value := by
    simp [Machine.write, Machine.read]
  have hfetch := tells_fetch register (machine.write register value)
  rw [hread] at hfetch
  rw [bind_of_ok hstore, bind_of_ok hstore, bind_of_ok hfetch]

/-! ### Going to another line -/

theorem jump_of_some {machine : Machine} {label : String} {index : Int}
    (hlabel : machine.labels.get? label = some index) :
    jump label machine = .ok () { machine with pc := index } := by
  rw [jump, bind_of_ok (get_apply machine), hlabel]
  rfl

theorem jump_of_none {machine : Machine} {label : String}
    (hlabel : machine.labels.get? label = none) :
    jump label machine = .error (.fault (.missing (Text.quote label))) machine := by
  rw [jump, bind_of_ok (get_apply machine), hlabel]
  rfl

/-- An action that jumps to the label that was chosen, if any, and does nothing else. -/
def Follows (action : Action Unit) (machine : Machine) : Except Fault (Option String) → Prop
  | .ok (some label) => action machine = jump label machine
  | .ok none => action machine = .ok () machine
  | .error cause => action machine = .error (.fault cause) machine

theorem follows_get {next : Machine → Action Unit} {machine : Machine}
    {choice : Except Fault (Option String)} (hnext : Follows (next machine) machine choice) :
    Follows (get >>= next) machine choice := by
  unfold Follows at hnext ⊢
  rw [bind_of_ok (get_apply machine)]
  exact hnext

theorem Tells.bind_follows {next : α → Action Unit} {machine : Machine} {result : Except Fault α}
    {choice : α → Except Fault (Option String)} (htells : Tells action machine result)
    (hnext : ∀ value, Follows (next value) machine (choice value)) :
    Follows (action >>= next) machine (result >>= choice) := by
  cases result with
  | ok value =>
      have hvalue := hnext value
      unfold Follows at hvalue ⊢
      rw [bind_of_ok htells]
      exact hvalue
  | error cause => exact bind_of_error htells

theorem Tells.follows {action : Action (Option String)} {next : Option String → Action Unit}
    {machine : Machine} {choice : Except Fault (Option String)} (htells : Tells action machine choice)
    (hnext : ∀ label?, Follows (next label?) machine (pure label?)) :
    Follows (action >>= next) machine choice := by
  simpa only [bind_pure] using htells.bind_follows hnext

/-- A handler is entered at the line of its label, if there is such a line. -/
theorem enter_cases (block : CatchBlock) (machine : Machine) :
    (∃ label index, block.handler = some label ∧ machine.labels.get? label = some index ∧
      enter block machine = .ok () { machine with pc := index }) ∨
    ((∀ label, block.handler = some label → machine.labels.get? label = none) ∧
      enter block machine =
        .error (.fault (.missing ((block.handler.map Text.quote).getD "None"))) machine) := by
  unfold enter
  cases block.handler with
  | none => exact Or.inr ⟨fun _ hnone => (nomatch hnone), rfl⟩
  | some label =>
      cases hlabel : machine.labels.get? label with
      | some index => exact Or.inl ⟨label, index, rfl, hlabel, jump_of_some hlabel⟩
      | none =>
          refine Or.inr ⟨fun other hother => ?_, jump_of_none hlabel⟩
          cases hother
          exact hlabel

end Action

end Dalvik
