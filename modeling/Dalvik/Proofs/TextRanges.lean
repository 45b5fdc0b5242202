import Dalvik.Proofs.MethodCalls

/-!
# Ranges of texts

A range of a text is written with the places where it begins and ends, or with the place where it
begins and the number of its characters. The method for the first kind takes the characters between
the two places. The one for the second kind, which works on an array of characters, takes its second
number for a place too: the range that it gives has the number of characters that was asked for only
if it begins at the start, or if no character was asked for.
-/

namespace Dalvik

/-- The register holds a list of the characters of a text. -/
def Machine.HoldsChars (machine : Machine) (register s : String) : Prop :=
  ∃ ref, machine.registers.get? register = some (.list ref) ∧
    machine.heap.items ref = s.toList.map .ofChar

namespace Value

theorem joinItems_ofChar (position : Nat) (chars : List Char) :
    joinItems position (chars.map ofChar) = .ok (String.ofList chars) := by
  induction chars generalizing position with
  | nil => rfl
  | cons c rest ih =>
      have hrest := ih (position + 1)
      rw [List.map_cons, ofChar, joinItems, hrest]
      change Except.ok (String.ofList [c] ++ String.ofList rest) = _
      rw [← String.ofList_append]
      rfl

/-- The characters of a list, one after the other, are a text again. -/
theorem join_chars {heap : Heap} {ref : Ref} {chars : List Char}
    (hitems : heap.items ref = chars.map ofChar) :
    join heap (.list ref) = .ok (String.ofList chars) := by
  rw [join, walk?, hitems]
  exact joinItems_ofChar 0 chars

theorem clamp_natCast (length bound : Nat) : clamp length bound = min bound length := by
  rw [clamp, if_pos (Int.natCast_nonneg bound), Int.toNat_natCast]

theorem sliceItems_natCast {α : Type} (items : List α) (first last : Nat) :
    sliceItems items first last = (items.take last).drop first := by
  apply List.ext_getElem?
  intro place
  simp only [sliceItems, clamp_natCast, List.getElem?_drop, List.getElem?_take]
  split_ifs with hclamped hlast hlast
  · have hle : first ≤ items.length := by omega
    rw [Nat.min_eq_left hle]
  · omega
  · rw [List.getElem?_eq_none (by omega)]
  · rfl

end Value

namespace Emulator

variable {state : Emulator} {line : String}

variable {this array first last : String} {rest : List String} {s : String} {i j : Nat}

/-- The part of a text between two places that registers hold. -/
theorem giveSlice_text (machine : Machine) (s : String)
    (hfirst : machine.registers.get? first = some (.int i))
    (hlast : machine.registers.get? last = some (.int j)) :
    machine.giveSlice (.text s) (first :: last :: rest) =
      .ok (machine.give (.text (String.ofList ((s.toList.take j).drop i)))) := by
  have hbegin : machine.argument (first :: last :: rest) 0 = .ok (.int i) :=
    Machine.read_eq_ok.mpr hfirst
  have hend : machine.argument (first :: last :: rest) 1 = .ok (.int j) :=
    Machine.read_eq_ok.mpr hlast
  simp only [Machine.giveSlice, hbegin, hend, lift_ok_bind, Value.toInt, Value.slice,
    Value.sliceItems_natCast]
  rfl

theorem Calls.textOfRange_completes
    (hcalls : state.Calls line .textOfRange (array :: first :: last :: rest))
    (harray : state.machine.HoldsChars array s)
    (hfirst : state.machine.registers.get? first = some (.int i))
    (hlast : state.machine.registers.get? last = some (.int j)) :
    state.Completes line (state.advance.machine.give
      (.text (String.ofList ((s.toList.take j).drop i)))) := by
  obtain ⟨ref, hregister, hitems⟩ := harray
  have hjoin : (Value.list ref).join state.advance.machine.heap = .ok (String.ofList s.toList) :=
    Value.join_chars hitems
  apply hcalls.completes
  simp only [Method.outcome, read_advance hregister, lift_ok_bind, hjoin, String.ofList_toList]
  exact giveSlice_text state.advance.machine s hfirst hlast

theorem Calls.substring_completes
    (hcalls : state.Calls line .substring (this :: first :: last :: rest))
    (hthis : state.machine.registers.get? this = some (.text s))
    (hfirst : state.machine.registers.get? first = some (.int i))
    (hlast : state.machine.registers.get? last = some (.int j)) :
    state.Completes line (state.advance.machine.give
      (.text (String.ofList ((s.toList.take j).drop i)))) := by
  apply hcalls.completes
  simp only [Method.outcome, read_advance hthis, lift_ok_bind]
  exact giveSlice_text state.advance.machine s hfirst hlast

/-- A list of the characters of a text that is called for and then taken from the result. -/
theorem Calls.toChars_holdsChars {next target : String}
    (hcalls : state.Calls line .toChars (this :: rest))
    (hthis : state.machine.registers.get? this = some (.text s))
    (hnext : (state.step line).1.Executes next (.moveResult target)) :
    (state.step line).2 = .done () ∧ ((state.step line).1.step next).2 = .done () ∧
      ((state.step line).1.step next).1.machine.HoldsChars target s := by
  obtain ⟨hmade, hdone⟩ := hcalls.toChars_completes hthis
  obtain ⟨htaken, hdone'⟩ := hnext.moveResult_completes
  refine ⟨hdone, hdone', state.machine.heap.sequences.size, ?_, ?_⟩
  · rw [htaken, hmade]
    exact Table.get?_insert_self ..
  · rw [htaken]
    change (state.step line).1.machine.heap.items _ = _
    rw [hmade]
    exact state.machine.heap.items_alloc _

end Emulator

/-- Taking a number of characters for the place of the last one is right only for a range that
begins at the start, and for one without characters. -/
theorem take_drop_eq_drop_take_iff {s : String} {offset count : Nat}
    (hrange : offset + count ≤ s.length) :
    String.ofList ((s.toList.take count).drop offset) =
        String.ofList ((s.toList.drop offset).take count) ↔ offset = 0 ∨ count = 0 := by
  rw [← String.length_toList] at hrange
  constructor
  · intro hsame
    have hlength := congrArg String.length hsame
    simp only [String.length_ofList, List.length_drop, List.length_take] at hlength
    omega
  · rintro (rfl | rfl)
    · rfl
    · simp

namespace Emulator

/-- **Ranges.** The characters of a text come as a list of them. A substring from one place to
another has the characters between the two. So has the range of such a list that begins at an offset
and is to have a number of characters: it ends at the place of that number, and not behind so many
characters, and is the substring meant only at the start of the text or without any characters. -/
theorem range_ends_at_count (s : String) (offset count : Nat) (hrange : offset + count ≤ s.length) :
    let counted := String.ofList ((s.toList.take count).drop offset)
    let meant := String.ofList ((s.toList.drop offset).take count)
    (∀ state line next this rest target, Calls state line .toChars (this :: rest) →
      state.machine.registers.get? this = some (.text s) →
      (state.step line).1.Executes next (.moveResult target) →
      (state.step line).2 = .done () ∧ ((state.step line).1.step next).2 = .done () ∧
        ((state.step line).1.step next).1.machine.HoldsChars target s) ∧
    (∀ state line array first size rest,
      Calls state line .textOfRange (array :: first :: size :: rest) →
      state.machine.HoldsChars array s →
      state.machine.registers.get? first = some (.int offset) →
      state.machine.registers.get? size = some (.int count) →
      state.Completes line (state.advance.machine.give (.text counted))) ∧
    (∀ state line this first last rest,
      Calls state line .substring (this :: first :: last :: rest) →
      state.machine.registers.get? this = some (.text s) →
      state.machine.registers.get? first = some (.int offset) →
      state.machine.registers.get? last = some (.int (offset + count)) →
      state.Completes line (state.advance.machine.give (.text meant))) ∧
    (counted = meant ↔ offset = 0 ∨ count = 0) := by
  intro counted meant
  refine ⟨?_, ?_, ?_, take_drop_eq_drop_take_iff hrange⟩
  · intro state line next this rest target hcalls hthis hnext
    exact hcalls.toChars_holdsChars hthis hnext
  · intro state line array first size rest hcalls harray hfirst hsize
    exact hcalls.textOfRange_completes harray hfirst hsize
  · intro state line this first last rest hcalls hthis hfirst hlast
    have hcompletes := hcalls.substring_completes hthis hfirst hlast
    rwa [List.drop_take, Nat.add_sub_cancel_left] at hcompletes

/-- Two characters from the second one on, of a text and of the array of its characters. -/
def rangeListing : List String := [
  "invoke-virtual \x7bp0\x7d, Ljava/lang/String;->toCharArray()[C",
  "move-result-object v0",
  "invoke-static \x7bv0, p1, p2\x7d, Ljava/lang/String;->valueOf([CII)Ljava/lang/String;",
  "invoke-virtual \x7bp0, p1, p3\x7d, Ljava/lang/String;->substring(II)Ljava/lang/String;"]

def rangeLine (line : Nat) : String :=
  (rangeListing[line]?).getD ""

/-- The emulator before a line of the listing, with the array made. -/
def ranging (line : Nat) : Emulator where
  machine := {
    registers := [("p0", .text "hello"), ("p1", .int 1), ("p2", .int 2), ("p3", .int 3),
      ("v0", .list 0)]
    heap := { sequences := #["hello".toList.map .ofChar] }
    pc := line }
  source := some rangeListing

theorem ranging_holdsChars (line : Nat) : (ranging line).machine.HoldsChars "v0" "hello" :=
  ⟨0, rfl, rfl⟩

theorem ranging_calls :
    (ranging 0).Calls (rangeLine 0) .toChars ["p0"] ∧
    (ranging 2).Calls (rangeLine 2) .textOfRange ["v0", "p1", "p2"] ∧
    (ranging 3).Calls (rangeLine 3) .substring ["p0", "p1", "p3"] := by
  refine ⟨?_, ?_, ?_⟩
  · refine .of_print spaced .virtual ⟨"p0", ?_, ?_⟩ []
      (.ofParts "Ljava/lang/String" "toCharArray()[C" ?_)
      Library.stringClass ?_ ?_ ?_ ?_ <;> decide +kernel
  · refine .of_print spaced .static ⟨"v0", ?_, ?_⟩ [⟨"p1", ?_, ?_⟩, ⟨"p2", ?_, ?_⟩]
      (.ofParts "Ljava/lang/String" "valueOf([CII)Ljava/lang/String;" ?_)
      Library.stringClass ?_ ?_ ?_ ?_ <;> decide +kernel
  · refine .of_print spaced .virtual ⟨"p0", ?_, ?_⟩ [⟨"p1", ?_, ?_⟩, ⟨"p3", ?_, ?_⟩]
      (.ofParts "Ljava/lang/String" "substring(II)Ljava/lang/String;" ?_)
      Library.stringClass ?_ ?_ ?_ ?_ <;> decide +kernel

theorem ranging_takes :
    ((ranging 0).step (rangeLine 0)).1.Executes (rangeLine 1) (.moveResult "v0") := by
  rw [ranging_calls.1.step_eq rfl]
  refine .of_print spaced (.moveResult true ⟨"v0", ?_, ?_⟩) ?_ ?_ <;> decide +kernel

theorem range_ends_at_count_ranging :
    (1 + 2 ≤ "hello".length ∧ (ranging 2).machine.HoldsChars "v0" "hello") ∧
    ((ranging 0).step (rangeLine 0)).2 = .done () ∧
    (((ranging 0).step (rangeLine 0)).1.step (rangeLine 1)).1.machine.HoldsChars "v0" "hello" ∧
    (ranging 2).Completes (rangeLine 2) ((ranging 3).machine.give (.text "e")) ∧
    (ranging 3).Completes (rangeLine 3) ((ranging 4).machine.give (.text "el")) := by
  obtain ⟨hchars, hrange, hpart⟩ := ranging_calls
  obtain ⟨hmakes, hcounted, hmeant, -⟩ := range_ends_at_count "hello" 1 2 (by decide)
  obtain ⟨hdone, -, hmade⟩ := hmakes (ranging 0) _ _ "p0" [] "v0" hchars rfl ranging_takes
  refine ⟨⟨by decide, ranging_holdsChars 2⟩, hdone, hmade, ?_, ?_⟩
  · exact hcounted (ranging 2) _ "v0" "p1" "p2" [] hrange (ranging_holdsChars 2) rfl rfl
  · exact hmeant (ranging 3) _ "p0" "p1" "p3" [] hpart rfl rfl rfl

/-- The number of characters that a range is to have is not that of the text it gives. -/
theorem range_of_count_not_meant :
    ¬∀ (s : String) (offset count : Nat), offset + count ≤ s.length →
      ∀ state line array first size rest,
        Calls state line .textOfRange (array :: first :: size :: rest) →
        state.machine.HoldsChars array s →
        state.machine.registers.get? first = some (.int offset) →
        state.machine.registers.get? size = some (.int count) →
        state.Completes line (state.advance.machine.give
          (.text (String.ofList ((s.toList.drop offset).take count)))) := by
  intro hmeant
  have hrange := ranging_calls.2.1
  have hasked := hmeant "hello" 1 2 (by decide) (ranging 2) _ _ _ _ _ hrange
    (ranging_holdsChars 2) rfl rfl
  have hgiven := hrange.textOfRange_completes (i := 1) (j := 2) (ranging_holdsChars 2) rfl rfl
  have hsame : Value.text "e" = .text "el" := hgiven.give_inj hasked
  exact absurd (Value.text.inj hsame) (by decide)

end Emulator

end Dalvik
