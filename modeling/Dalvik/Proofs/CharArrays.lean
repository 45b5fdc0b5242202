import Dalvik.Proofs.ArrayWrites
import Dalvik.Proofs.TextRanges

/-!
# Arrays of characters

The characters of a text come as a list of their own. Characters that are written into the list
through any of the registers that hold it are there for all of them, and the text that is made of
the list has them at their places. The text that the list came from does not change: its characters
and its length are the same as before.
-/

namespace Dalvik

namespace Text

/-- The text with other characters at some of its places; of the edits of a place, the last one
counts. -/
def edited (s : String) (edits : List (Nat × Char)) : String :=
  String.ofList (s.toList.mapIdx fun place old => (edits.reverse.lookup place).getD old)

variable (s : String) (edits : List (Nat × Char))

theorem getElem?_edited (place : Nat) :
    (edited s edits).toList[place]? =
      s.toList[place]?.map fun old => (edits.reverse.lookup place).getD old := by
  rw [edited, String.toList_ofList, List.getElem?_mapIdx]

theorem edited_nil : edited s [] = s := by
  apply String.toList_injective
  apply List.ext_getElem?
  intro place
  rw [getElem?_edited]
  exact Option.map_id' ..

theorem length_edited : (edited s edits).length = s.length := by
  rw [edited, String.length_ofList, List.length_mapIdx, String.length_toList]

/-- One more edit sets its place. -/
theorem toList_edited_concat (place : Nat) (c : Char) :
    (edited s (edits ++ [(place, c)])).toList = (edited s edits).toList.set place c := by
  apply List.ext_getElem?
  intro other
  rw [getElem?_edited, List.reverse_append]
  by_cases heq : place = other
  · subst heq
    rw [List.getElem?_set_self', getElem?_edited]
    cases s.toList[place]? <;> simp
  · have hother : (other == place) = false := by simpa using Ne.symm heq
    rw [List.getElem?_set_ne heq, getElem?_edited]
    simp [List.lookup_cons, hother]

end Text

/-- The register holds the text, and the list its characters with some edits. -/
structure Machine.HoldsEdited (machine : Machine) (this s : String) (ref : Ref)
    (edits : List (Nat × Char)) : Prop where
  text : machine.registers.get? this = some (.text s)
  items : machine.heap.items ref = (Text.edited s edits).toList.map .ofChar

namespace Emulator

open Text

variable {state : Emulator} {line : String} {s this target holder : String} {rest : List String}
  {ref : Ref}

/-- The list is taken from the result, and the other registers are as they were. -/
theorem Calls.toChars_registers {next register : String}
    (hcalls : state.Calls line .toChars (this :: rest))
    (hthis : state.machine.registers.get? this = some (.text s))
    (hnext : (state.step line).1.Executes next (.moveResult target)) (hother : register ≠ target) :
    ((state.step line).1.step next).1.machine.registers.get? register =
      state.machine.registers.get? register := by
  obtain ⟨hmade, -⟩ := hcalls.toChars_completes hthis
  obtain ⟨htaken, -⟩ := hnext.moveResult_completes
  calc ((state.step line).1.step next).1.machine.registers.get? register
      = (state.step line).1.machine.registers.get? register := by
        rw [htaken]
        exact Table.get?_insert_of_ne _ _ hother
    _ = state.machine.registers.get? register := by
        rw [hmade]
        rfl

theorem Calls.textOfChars_completes
    (hcalls : state.Calls line .textOfChars (target :: holder :: rest))
    (hholder : state.machine.registers.get? holder = some (.list ref))
    (hitems : state.machine.heap.items ref = s.toList.map .ofChar) :
    state.Completes line (state.advance.machine.write target (.text s)) := by
  have hargument : state.advance.machine.argument (holder :: rest) 0 = .ok (.list ref) :=
    read_advance hholder
  have hjoin : (Value.list ref).join state.advance.machine.heap = .ok (String.ofList s.toList) :=
    Value.join_chars hitems
  apply hcalls.completes
  simp only [Method.outcome, hargument, lift_ok_bind, hjoin, String.ofList_toList]
  rfl

/-- Lines that write characters into a list of the characters of a text, and lines between them that
leave the text and the list alone, among them those that make new texts; the state that they come
to, with the edits. -/
inductive EditRun (this s : String) (ref : Ref) (first : Emulator) :
    Emulator → List (Nat × Char) → Prop
  | start : EditRun this s ref first first []
  | put {state : Emulator} {line : String} {edits : List (Nat × Char)} {c : Char} (put : ItemPut)
      (hrun : EditRun this s ref first state edits)
      (hexecutes : state.Executes line put.instruction) (hfits : put.Fits state.machine ref)
      (hplace : put.place < s.length) (hitem : put.item = .ofChar c) :
      EditRun this s ref first (state.step line).1 (edits ++ [(put.place, c)])
  | fresh {state : Emulator} {line target descriptor : String} {edits : List (Nat × Char)}
      {method : Method} (hrun : EditRun this s ref first state edits)
      (hexecutes : state.Executes line (.newInstance target descriptor))
      (hclass : ClassName.ofDescriptor descriptor = .ok Library.stringClass)
      (hmethod : state.machine.method? Library.stringClass Library.newInstance = .ok method)
      (hother : target ≠ this) :
      EditRun this s ref first (state.step line).1 edits
  | other {state : Emulator} {line : String} {edits : List (Nat × Char)}
      (hrun : EditRun this s ref first state edits) (hnext : state.nextLine? = some line)
      (hdone : (state.step line).2 = .done ())
      (htext : (state.step line).1.machine.registers.get? this = state.machine.registers.get? this)
      (hitems : (state.step line).1.machine.heap.items ref = state.machine.heap.items ref) :
      EditRun this s ref first (state.step line).1 edits

/-- A character that is put into the list is one more edit. -/
theorem Executes.put_holdsEdited {edits : List (Nat × Char)} {c : Char} {put : ItemPut}
    (hexecutes : state.Executes line put.instruction)
    (hholds : state.machine.HoldsEdited this s ref edits) (hfits : put.Fits state.machine ref)
    (hplace : put.place < s.length) (hitem : put.item = .ofChar c) :
    (state.step line).2 = .done () ∧
      (state.step line).1.machine.HoldsEdited this s ref (edits ++ [(put.place, c)]) := by
  have hlength : (state.machine.heap.items ref).length = s.length := by
    rw [hholds.items, List.length_map, String.length_toList, length_edited]
  have hstore := Instruction.storeItem_of_lt put.item (hlength ▸ hplace)
  have houtcome :=
    Instruction.outcome_arrayPut state.advance.machine hfits.array hfits.index hfits.source
  obtain ⟨hmachine, hdone⟩ := (hexecutes.settles houtcome).1 _ hstore
  refine ⟨hdone, ?_, ?_⟩
  · rw [hmachine]
    exact hholds.text
  · rw [hmachine, toList_edited_concat, List.map_set, ← hholds.items, ← hitem]
    exact Heap.items_write_of_length_eq List.length_set

/-- All lines complete, and the edits are in the list. -/
theorem EditRun.holds {first : Emulator} {edits : List (Nat × Char)}
    (hrun : EditRun this s ref first state edits)
    (hfirst : first.machine.HoldsEdited this s ref []) :
    first.LeadsTo state ∧ state.machine.HoldsEdited this s ref edits := by
  induction hrun with
  | start => exact ⟨LeadsTo.refl first, hfirst⟩
  | put put _ hexecutes hfits hplace hitem ih =>
      obtain ⟨hleads, hholds⟩ := ih
      obtain ⟨hdone, hafter⟩ := hexecutes.put_holdsEdited hholds hfits hplace hitem
      exact ⟨hleads.step hexecutes.next hdone, hafter⟩
  | fresh _ hexecutes hclass hmethod hother ih =>
      obtain ⟨hleads, hholds⟩ := ih
      obtain ⟨hmachine, hdone⟩ := hexecutes.step_of_ok (outcome_newInstance hclass hmethod)
      refine ⟨hleads.step hexecutes.next hdone, ?_, ?_⟩
      · rw [hmachine]
        exact (Table.get?_insert_of_ne _ _ hother.symm).trans hholds.text
      · rw [hmachine]
        exact hholds.items
  | other _ hnext hdone htext hitems ih =>
      obtain ⟨hleads, hholds⟩ := ih
      exact ⟨hleads.step hnext hdone, htext.trans hholds.text, hitems.trans hholds.items⟩

/-- **Conversion.** The characters of a text are called for and taken into another register, some of
them are written over, and a text is made of the list. The new text is the old one with just those
characters replaced. The old text is still there and has the same characters when they are called
for again, and the two have the same length. -/
theorem text_of_edited_chars (s : String) (state : Emulator)
    (line next this array : String) (rest : List String)
    (hcalls : state.Calls line .toChars (this :: rest))
    (hthis : state.machine.registers.get? this = some (.text s))
    (htakes : (state.step line).1.Executes next (.moveResult array)) (harray : this ≠ array) :
    let first := ((state.step line).1.step next).1
    ∃ ref, first.machine.registers.get? array = some (.list ref) ∧
      ∀ after edits, EditRun this s ref first after edits →
        ∀ line target holder rest, after.Calls line .textOfChars (target :: holder :: rest) →
          after.machine.registers.get? holder = some (.list ref) → this ≠ target →
          let made := (after.step line).1
          state.LeadsTo made ∧
          made.machine = after.advance.machine.write target (.text (edited s edits)) ∧
          (edits = [] → edited s edits = s) ∧
          made.machine.registers.get? this = some (.text s) ∧
          ∀ later : Emulator, later.machine.registers.get? target = some (.text (edited s edits)) →
            later.machine.registers.get? this = some (.text s) →
            (∀ line rest, later.Calls line .toChars (this :: rest) →
              later.Completes line (later.advance.machine.giveFrom
                (later.machine.heap.newList (s.toList.map .ofChar)))) ∧
            ∀ text ∈ [this, target], ∀ line rest, later.Calls line .length (text :: rest) →
              later.Completes line (later.advance.machine.give (.int s.length)) := by
  intro first
  obtain ⟨hdone, hdone', ref, hholder, hitems⟩ := hcalls.toChars_holdsChars hthis htakes
  have hkept := (hcalls.toChars_registers hthis htakes harray).trans hthis
  have hstart : first.machine.HoldsEdited this s ref [] := ⟨hkept, by rwa [edited_nil]⟩
  have hleads : state.LeadsTo first :=
    ((LeadsTo.refl state).step hcalls.next hdone).step htakes.next hdone'
  refine ⟨ref, hholder, ?_⟩
  intro after edits hrun line target holder rest hmakes hlist hother made
  obtain ⟨hedits, hedited⟩ := hrun.holds hstart
  obtain ⟨hmachine, hmade⟩ := hmakes.textOfChars_completes hlist hedited.items
  refine ⟨(hleads.trans hedits).step hmakes.next hmade, hmachine, ?_, ?_, ?_⟩
  · rintro rfl
    exact edited_nil s
  · rw [hmachine]
    exact (Table.get?_insert_of_ne _ _ hother).trans hedited.text
  · intro later htarget hsource
    refine ⟨fun line rest hagain => hagain.toChars_completes hsource, ?_⟩
    intro text htext line rest hmeasures
    rcases List.mem_pair.mp htext with rfl | rfl
    · exact hmeasures.length_completes hsource
    · have hlength := hmeasures.length_completes htarget
      rwa [length_edited] at hlength

/-- One of the characters of a text is written over, and a new text is made and measured. -/
def convertingListing : List String := [
  "invoke-virtual \x7bp0\x7d, Ljava/lang/String;->toCharArray()[C",
  "move-result-object v0",
  "aput-char p1, v0, p2",
  "new-instance v1, Ljava/lang/String;",
  "invoke-direct \x7bv1, v0\x7d, Ljava/lang/String;-><init>([C)V",
  "invoke-virtual \x7bv1\x7d, Ljava/lang/String;->length()I"]

def convertingLine (line : Nat) : String :=
  (convertingListing[line]?).getD ""

/-- The emulator before a line of the listing. -/
def converting (line : Nat) (registers : Table Value) (lists : Array (List Value))
    (result : Value) : Emulator where
  machine := {
    registers := ("p0", .text "cat") :: ("p1", .ofChar 'u') :: ("p2", .int 1) :: registers
    heap := { sequences := lists }
    result := result
    pc := line }
  source := some convertingListing
  steps := line

/-- The characters of a text in the first list. -/
def convertingChars (line : Nat) (registers : Table Value) (s : String) : Emulator :=
  converting line (("v0", .list 0) :: registers) #[s.toList.map .ofChar] (.list 0)

theorem converting_calls :
    (converting 0 [] #[] .null).Calls (convertingLine 0) .toChars ["p0"] ∧
    (convertingChars 4 [("v1", .text "")] "cut").Calls (convertingLine 4) .textOfChars
      ["v1", "v0"] ∧
    (convertingChars 5 [("v1", .text "cut")] "cut").Calls (convertingLine 5) .length ["v1"] := by
  refine ⟨?_, ?_, ?_⟩
  · refine .of_print spaced .virtual ⟨"p0", ?_, ?_⟩ []
      (.ofParts "Ljava/lang/String" "toCharArray()[C" ?_)
      Library.stringClass ?_ ?_ ?_ ?_ <;> decide +kernel
  · refine .of_print spaced .direct ⟨"v1", ?_, ?_⟩ [⟨"v0", ?_, ?_⟩]
      (.ofParts "Ljava/lang/String" "<init>([C)V" ?_)
      Library.stringClass ?_ ?_ ?_ ?_ <;> decide +kernel
  · refine .of_print spaced .virtual ⟨"v1", ?_, ?_⟩ []
      (.ofParts "Ljava/lang/String" "length()I" ?_)
      Library.stringClass ?_ ?_ ?_ ?_ <;> decide +kernel

theorem converting_executes :
    (converting 1 [] #["cat".toList.map .ofChar] (.list 0)).Executes (convertingLine 1)
      (.moveResult "v0") ∧
    (convertingChars 2 [] "cat").Executes (convertingLine 2) (.arrayPut "p1" "v0" "p2") ∧
    (convertingChars 3 [] "cut").Executes (convertingLine 3)
      (.newInstance "v1" "Ljava/lang/String;") := by
  refine ⟨?_, ?_, ?_⟩
  · refine .of_print spaced (.moveResult true ⟨"v0", ?_, ?_⟩) ?_ ?_ <;> decide +kernel
  · refine .of_print spaced (.arrayPut (some .char) ⟨"p1", ?_, ?_⟩ ⟨"v0", ?_, ?_⟩
      ⟨"p2", ?_, ?_⟩) ?_ ?_ <;> decide +kernel
  · refine .of_print spaced (.newInstance ⟨"v1", ?_, ?_⟩ ⟨"Ljava/lang/String;", ?_, ?_⟩)
      ?_ ?_ <;> decide +kernel

theorem converting_class :
    ClassName.ofDescriptor "Ljava/lang/String;" = .ok Library.stringClass ∧
    (convertingChars 3 [] "cut").machine.method? Library.stringClass Library.newInstance =
      .ok (.create "String") := by
  decide +kernel

theorem converting_steps :
    (converting 0 [] #[] .null).step (convertingLine 0) =
      (converting 1 [] #["cat".toList.map .ofChar] (.list 0), .done ()) ∧
    (converting 1 [] #["cat".toList.map .ofChar] (.list 0)).step (convertingLine 1) =
      (convertingChars 2 [] "cat", .done ()) ∧
    (convertingChars 2 [] "cat").step (convertingLine 2) = (convertingChars 3 [] "cut", .done ()) ∧
    (convertingChars 3 [] "cut").step (convertingLine 3) =
      (convertingChars 4 [("v1", .text "")] "cut", .done ()) ∧
    (convertingChars 4 [("v1", .text "")] "cut").step (convertingLine 4) =
      (convertingChars 5 [("v1", .text "cut")] "cut", .done ()) := by
  obtain ⟨hchars, hmakes, -⟩ := converting_calls
  obtain ⟨htakes, hputs, hfresh⟩ := converting_executes
  obtain ⟨hclass, hmethod⟩ := converting_class
  exact ⟨hchars.step_eq rfl, htakes.step_eq_of_ok rfl, hputs.step_eq_of_ok rfl,
    hfresh.step_eq_of_ok (outcome_newInstance hclass hmethod), hmakes.step_eq rfl⟩

theorem converting_run :
    EditRun "p0" "cat" 0 (convertingChars 2 [] "cat") (convertingChars 4 [("v1", .text "")] "cut")
      [(1, 'u')] := by
  obtain ⟨-, hputs, hfresh⟩ := converting_executes
  obtain ⟨-, -, hput, hmade, -⟩ := converting_steps
  obtain ⟨hclass, hmethod⟩ := converting_class
  have hstart : EditRun "p0" "cat" 0 (convertingChars 2 [] "cat") (convertingChars 2 [] "cat") [] :=
    .start
  have hrun := hstart.put ⟨"p1", "v0", "p2", 1, .ofChar 'u'⟩ hputs ⟨rfl, rfl, rfl⟩ (by decide) rfl
  rw [hput] at hrun
  have hrun := hrun.fresh hfresh hclass hmethod (by decide)
  rwa [hmade] at hrun

theorem text_of_edited_chars_converting :
    (converting 0 [] #[] .null).Calls (convertingLine 0) .toChars ["p0"] ∧
    (converting 0 [] #[] .null).LeadsTo (convertingChars 5 [("v1", .text "cut")] "cut") ∧
    Text.edited "cat" [(1, 'u')] = "cut" ∧
    (convertingChars 5 [("v1", .text "cut")] "cut").Completes (convertingLine 5)
      ((convertingChars 6 [("v1", .text "cut")] "cut").machine.give (.int 3)) := by
  obtain ⟨hchars, hmakes, hmeasures⟩ := converting_calls
  obtain ⟨hcalled, htaken, -, -, hmade⟩ := converting_steps
  obtain ⟨htakes, -, -⟩ := converting_executes
  have htext : Text.edited "cat" [(1, 'u')] = "cut" := by decide
  have hfirst : (((converting 0 [] #[] .null).step (convertingLine 0)).1.step
      (convertingLine 1)).1 = convertingChars 2 [] "cat" := by
    rw [hcalled]
    exact congrArg Prod.fst htaken
  have hconverts := text_of_edited_chars "cat" (converting 0 [] #[] .null) _ (convertingLine 1) "p0"
    "v0" [] hchars rfl (by rw [hcalled]; exact htakes) (by decide)
  rw [hfirst] at hconverts
  obtain ⟨ref, hlist, hconverts⟩ := hconverts
  have href : some (Value.list 0) = some (.list ref) := hlist
  cases href
  obtain ⟨hleads, -, -, -, htold⟩ :=
    hconverts _ _ converting_run _ "v1" "v0" [] hmakes rfl (by decide)
  rw [hmade] at hleads
  have htarget : (convertingChars 5 [("v1", .text "cut")] "cut").machine.registers.get? "v1" =
      some (.text (Text.edited "cat" [(1, 'u')])) := by
    rw [htext]
    rfl
  obtain ⟨-, hlength⟩ := htold _ htarget rfl
  exact ⟨hchars, hleads, htext, hlength "v1" (by decide) _ [] hmeasures⟩

end Emulator

end Dalvik
