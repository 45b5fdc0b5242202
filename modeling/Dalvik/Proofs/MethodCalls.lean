import Dalvik.Proofs.ArrayAccess

/-!
# Calls of methods

A line that calls a method does what the method does to the object, the first of its registers, and
hands the answer on as the result, which the next line may take. Lines that complete lead from one
state of a run to another.
-/

namespace Dalvik

namespace Callee

/-- The parts of a callee have no arrow between them but their own. -/
structure Written (className method : String) : Prop where
  solid : (className ++ ";->" ++ method).toList.all Text.isSolid = true
  plain : ';' ∉ className.toList
  single : Text.cut ";->".toList method.toList = none

instance (className method : String) : Decidable (Written className method) :=
  decidable_of_iff
    ((className ++ ";->" ++ method).toList.all Text.isSolid = true ∧ ';' ∉ className.toList ∧
      Text.cut ";->".toList method.toList = none)
    ⟨fun ⟨solid, plain, single⟩ => ⟨solid, plain, single⟩,
      fun ⟨solid, plain, single⟩ => ⟨solid, plain, single⟩⟩

variable {className method : String}

theorem Written.only_arrow (hwritten : Written className method) {before behind : List Char}
    (hchars : (className ++ ";->" ++ method).toList = before ++ ";->".toList ++ behind) :
    before = className.toList := by
  have harrow : ";->".toList = [';', '-', '>'] := by decide
  rw [String.toList_append, String.toList_append, harrow, List.append_assoc, List.append_assoc]
    at hchars
  rcases List.append_eq_append_iff.mp hchars with ⟨more, hbefore, hmore⟩ | ⟨more, hclass, hmore⟩
  · -- A later arrow would stand in the name of the method.
    match more with
    | [] => rw [hbefore, List.append_nil]
    | [_] => simp at hmore
    | [_, _] => simp at hmore
    | _ :: _ :: _ :: rest =>
        simp only [List.cons_append, List.nil_append, List.cons.injEq] at hmore
        have hmethod : method.toList = rest ++ ";->".toList ++ behind := by
          rw [harrow, List.append_assoc]
          exact hmore.2.2.2
        obtain ⟨_, _, hcut⟩ := Text.exists_cut (by decide) hmethod
        rw [hwritten.single] at hcut
        cases hcut
  · -- An earlier one would bring a semicolon into the name of the class.
    cases more with
    | nil => rw [hclass, List.append_nil]
    | cons c rest =>
        simp only [List.cons_append, List.cons.injEq] at hmore
        have hmem : ';' ∈ className.toList := by simp [hclass, ← hmore.1]
        exact absurd hmem hwritten.plain

theorem parts_ne_empty (className method : String) : className ++ ";->" ++ method ≠ "" := by
  intro hempty
  have hlength := congrArg String.length hempty
  rw [String.length_append, String.length_append] at hlength
  exact absurd hlength (by simp)

def ofParts (className method : String) (hwritten : Written className method) : Callee where
  text := className ++ ";->" ++ method
  ne_empty := parts_ne_empty className method
  solid := hwritten.solid
  className := className
  method := method
  text_eq := rfl
  only_arrow _ _ := hwritten.only_arrow

end Callee

namespace Emulator

variable {first state : Emulator} {line : String}

/-! ### Lines that complete, one after the other -/

/-- Some lines that complete lead from one state to the other. -/
def LeadsTo (first state : Emulator) : Prop :=
  ∃ count, ∀ more, runFor (count + more) first = runFor more state

theorem LeadsTo.refl (state : Emulator) : state.LeadsTo state :=
  ⟨0, fun more => by rw [Nat.zero_add]⟩

theorem LeadsTo.trans {last : Emulator} (hfirst : first.LeadsTo state)
    (hlast : state.LeadsTo last) : first.LeadsTo last := by
  obtain ⟨count, hcount⟩ := hfirst
  obtain ⟨others, hothers⟩ := hlast
  refine ⟨count + others, fun more => ?_⟩
  rw [Nat.add_assoc, hcount, hothers]

theorem LeadsTo.step (hleads : first.LeadsTo state) (hnext : state.nextLine? = some line)
    (hdone : (state.step line).2 = .done ()) : first.LeadsTo (state.step line).1 := by
  refine hleads.trans ⟨1, fun more => ?_⟩
  rw [Nat.add_comm]
  exact runFor_of_done hnext hdone more

/-- A line whose instruction succeeds changes nothing but the machine. -/
theorem Executes.step_eq_of_ok {instruction : Instruction} {after : Machine}
    (hexecutes : state.Executes line instruction)
    (houtcome : instruction.outcome state.advance.machine = .ok after) :
    state.step line = ({ state.advance.trace line with machine := after }, .done ()) := by
  rw [hexecutes.step_eq, houtcome]
  rfl

/-! ### Registers -/

theorem read_advance {register : String} {value : Value}
    (hvalue : state.machine.registers.get? register = some value) :
    state.advance.machine.read register = .ok value :=
  Machine.read_eq_ok.mpr hvalue

theorem Executes.move_completes {target source : String} {value : Value}
    (hexecutes : state.Executes line (.move target source))
    (hsource : state.machine.registers.get? source = some value) :
    state.Completes line (state.advance.machine.write target value) := by
  apply hexecutes.step_of_ok
  rw [Instruction.outcome, read_advance hsource]
  rfl

theorem Executes.moveResult_completes {target : String}
    (hexecutes : state.Executes line (.moveResult target)) :
    state.Completes line (state.advance.machine.write target state.machine.result) :=
  hexecutes.step_of_ok rfl

/-! ### Objects -/

theorem outcome_newInstance {machine : Machine} {target descriptor className : String}
    {method : Method} (hclass : ClassName.ofDescriptor descriptor = .ok className)
    (hmethod : machine.method? className Library.newInstance = .ok method) :
    (Instruction.newInstance target descriptor).outcome machine =
      .ok (machine.write target Method.newObject) := by
  have hmade : machine.newInstance descriptor = .ok Method.newObject := by
    rw [Machine.newInstance, hclass]
    change (machine.method? className Library.newInstance >>= _) = _
    rw [hmethod]
    rfl
  rw [Instruction.outcome, hmade]
  rfl

/-- The line that is run next calls a method with these registers, the object first. -/
def Calls (state : Emulator) (line : String) (method : Method) (registers : List String) : Prop :=
  ∃ callee, state.Executes line (.invoke registers callee) ∧
    state.machine.callee callee = .ok method

theorem Calls.next {method : Method} {registers : List String}
    (hcalls : state.Calls line method registers) : state.nextLine? = some line :=
  hcalls.elim fun _ hcall => hcall.1.next

theorem Calls.step_eq {method : Method} {this : String} {arguments : List String}
    {after : Machine} (hcalls : state.Calls line method (this :: arguments))
    (houtcome : method.outcome state.advance.machine this arguments = .ok after) :
    state.step line = ({ state.advance.trace line with machine := after }, .done ()) := by
  obtain ⟨callee, hexecutes, hcallee⟩ := hcalls
  have hsame : state.advance.machine.callee callee = .ok method := hcallee
  apply hexecutes.step_eq_of_ok
  rw [Instruction.outcome, hsame]
  exact houtcome

theorem Calls.completes {method : Method} {this : String} {arguments : List String}
    {after : Machine} (hcalls : state.Calls line method (this :: arguments))
    (houtcome : method.outcome state.advance.machine this arguments = .ok after) :
    state.Completes line after := by
  rw [Completes, hcalls.step_eq houtcome]
  exact ⟨rfl, rfl⟩

/-- A line gives one value only. -/
theorem Completes.give_inj {value other : Value}
    (hvalue : state.Completes line (state.advance.machine.give value))
    (hother : state.Completes line (state.advance.machine.give other)) : value = other :=
  congrArg Machine.result (hvalue.1.symm.trans hother.1)

/-! ### Calls as they are written -/

theorem blank_space : " ".toList.all (fun c => c = ' ' ∨ c = '\t') = true := by
  decide

/-- A space behind each comma. -/
def spaced (_ : Nat) : Gap :=
  ⟨" ", blank_space⟩

/-- A line as it is printed executes the instruction. -/
theorem Executes.of_print (gaps : Nat → Gap) (statement : Statement)
    (hnext : state.nextLine? = some line) (hline : statement.print gaps = line) :
    state.Executes line statement.instruction := by
  subst hline
  exact ⟨hnext, statement.isPassive_print gaps, statement.ofLine?_print gaps⟩

theorem Calls.of_print (gaps : Nat → Gap) (kind : CallKind) (receiver : Token)
    (registers : List Token) (callee : Callee) (className : String) {method : Method}
    (hnext : state.nextLine? = some line)
    (hline : (Statement.invoke kind receiver registers callee).print gaps = line)
    (hclass : ClassName.ofDescriptor callee.className = .ok className)
    (hmethod : state.machine.method? className callee.method = .ok method) :
    state.Calls line method ((receiver :: registers).map (·.text)) := by
  refine ⟨callee.text, Executes.of_print gaps _ hnext hline, ?_⟩
  rw [Machine.callee, callee.parts]
  change ((liftM (ClassName.ofDescriptor callee.className) : Except Halt String) >>= _) = _
  rw [hclass]
  exact hmethod

/-! ### Methods -/

variable {this argument : String} {rest : List String} {s added : String}

/-- The characters of a text come in a list of their own. -/
theorem Calls.toChars_completes (hcalls : state.Calls line .toChars (this :: rest))
    (hthis : state.machine.registers.get? this = some (.text s)) :
    state.Completes line
      (state.advance.machine.giveFrom (state.machine.heap.newList (s.toList.map .ofChar))) := by
  apply hcalls.completes
  rw [Method.outcome, read_advance hthis]
  rfl

theorem Calls.initBuilder_completes (hcalls : state.Calls line .initBuilder (this :: rest)) :
    state.Completes line state.advance.machine :=
  hcalls.completes rfl

/-- A text grows in the register that it is called through, and comes back as the answer. -/
theorem Calls.append_completes (hcalls : state.Calls line .append (this :: argument :: rest))
    (hthis : state.machine.registers.get? this = some (.text s))
    (hargument : state.machine.registers.get? argument = some (.text added)) :
    state.Completes line
      ((state.advance.machine.write this (.text (s ++ added))).give (.text (s ++ added))) := by
  have hadded : state.advance.machine.argument (argument :: rest) 0 = .ok (.text added) :=
    read_advance hargument
  apply hcalls.completes
  simp only [Method.outcome, read_advance hthis, lift_ok_bind, hadded]
  rfl

theorem Calls.builderText_completes (hcalls : state.Calls line .builderText (this :: rest))
    (hthis : state.machine.registers.get? this = some (.text s)) :
    state.Completes line (state.advance.machine.give (.text s)) := by
  apply hcalls.completes
  rw [Method.outcome, read_advance hthis]
  rfl

theorem Calls.length_completes (hcalls : state.Calls line .length (this :: rest))
    (hthis : state.machine.registers.get? this = some (.text s)) :
    state.Completes line (state.advance.machine.give (.int s.length)) := by
  apply hcalls.completes
  rw [Method.outcome, read_advance hthis]
  rfl

end Emulator

end Dalvik
