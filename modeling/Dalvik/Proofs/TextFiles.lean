import Dalvik.Proofs.EscapingFaults

/-!
# Listings in files

A file holds the lines of a listing, each with one of three ends. Splitting the file gives back the
lines, with a line feed behind each, and stripping them takes the line feed off again: a file is run
as the list of its lines is.
-/

namespace Dalvik

namespace Text

/-! ### Ends of lines -/

inductive LineEnd where
  | feed
  | carriage
  | carriageFeed
deriving DecidableEq, Repr

def LineEnd.chars : LineEnd → List Char
  | .feed => ['\n']
  | .carriage => ['\r']
  | .carriageFeed => ['\r', '\n']

/-- A line without an end of its own, and the end that it has in a file. -/
structure EndedLine where
  text : String
  ending : LineEnd
  plain : text.toList.all (fun c => c != '\n' && c != '\r') = true

theorem EndedLine.not_end (line : EndedLine) :
    ∀ c ∈ line.text.toList, c ≠ '\n' ∧ c ≠ '\r' := by
  simpa using line.plain

def EndedLine.chars (line : EndedLine) : List Char :=
  line.text.toList ++ line.ending.chars

/-- The text of a file. -/
def fileText (lines : List EndedLine) : String :=
  String.ofList (lines.flatMap EndedLine.chars)

/-- Two lines that are not taken for one: the line feed of an empty line would belong to a carriage
return before it. -/
def Apart (line next : EndedLine) : Prop :=
  line.ending = .carriage → next.text = "" → next.ending ≠ .feed

instance (line next : EndedLine) : Decidable (Apart line next) :=
  inferInstanceAs (Decidable (_ → _ → _ ≠ _))

/-! ### Splitting a file -/

variable {chars current rest : List Char}

theorem splitLines_append (hplain : ∀ c ∈ chars, c ≠ '\n' ∧ c ≠ '\r') :
    splitLines current (chars ++ rest) = splitLines (chars.reverse ++ current) rest := by
  induction chars generalizing current with
  | nil => rfl
  | cons c chars ih =>
      obtain ⟨hfeed, hcarriage⟩ := hplain c List.mem_cons_self
      have hstep : splitLines current (c :: (chars ++ rest)) =
          splitLines (c :: current) (chars ++ rest) := by
        simp [splitLines, hcarriage]
      rw [List.cons_append, hstep, ih fun d hd => hplain d (List.mem_cons_of_mem c hd)]
      simp

theorem splitLines_end (ending : LineEnd) (hapart : ending = .carriage → rest.head? ≠ some '\n') :
    splitLines current (ending.chars ++ rest) =
      ('\n' :: current).reverse :: splitLines [] rest := by
  cases ending with
  | feed => simp [LineEnd.chars, splitLines]
  | carriageFeed => simp [LineEnd.chars, splitLines]
  | carriage =>
      cases rest with
      | nil => simp [LineEnd.chars, splitLines]
      | cons c rest =>
          have hne : c ≠ '\n' := fun heq => hapart rfl (congrArg some heq)
          simp [LineEnd.chars, splitLines, hne]

/-- What follows a line does not begin with a line feed that the end of the line would take. -/
theorem head?_flatMap_chars {line : EndedLine} {lines : List EndedLine}
    (hchain : (line :: lines).IsChain Apart) (hcarriage : line.ending = .carriage) :
    (lines.flatMap EndedLine.chars).head? ≠ some '\n' := by
  cases lines with
  | nil => simp
  | cons next others =>
      have hapart : Apart line next := (List.isChain_cons_cons.mp hchain).1
      rw [List.flatMap_cons, EndedLine.chars]
      cases htext : next.text.toList with
      | nil =>
          have hempty : next.text = "" := String.toList_eq_nil_iff.mp htext
          have hending := hapart hcarriage hempty
          cases hnext : next.ending with
          | feed => exact absurd hnext hending
          | carriage => simp [LineEnd.chars]
          | carriageFeed => simp [LineEnd.chars]
      | cons c text =>
          have hplain := next.not_end c (htext ▸ List.mem_cons_self)
          simpa using hplain.1

theorem splitLines_flatMap {lines : List EndedLine} (hchain : lines.IsChain Apart) :
    splitLines [] (lines.flatMap EndedLine.chars) =
      lines.map fun line => line.text.toList ++ ['\n'] := by
  induction lines with
  | nil => rfl
  | cons line others ih =>
      rw [List.flatMap_cons, EndedLine.chars, List.append_assoc, splitLines_append line.not_end,
        splitLines_end line.ending (head?_flatMap_chars hchain), ih hchain.of_cons, List.map_cons]
      simp

/-- The lines of a file are those that it was made of, each with a line feed. -/
theorem lines_fileText {lines : List EndedLine} (hchain : lines.IsChain Apart) :
    Text.lines (fileText lines) = lines.map fun line => line.text ++ "\n" := by
  rw [Text.lines, fileText, String.toList_ofList, splitLines_flatMap hchain, List.map_map]
  refine List.map_congr_left fun line _ => ?_
  apply String.toList_inj.mp
  simp

theorem strip_append_feed (line : String) : strip (line ++ "\n") = strip line := by
  have hfeed : isBlank '\n' = true := by decide
  have hchars : (line ++ "\n").toList = line.toList ++ ['\n'] := by simp
  unfold strip trimBoth
  rw [hchars, List.dropWhile_append]
  split
  · rename_i hempty
    rw [List.isEmpty_iff.mp hempty]
    simp [hfeed]
  · simp [hfeed]

end Text

namespace Emulator

open Text (EndedLine Apart fileText)

/-- A listing is stripped before anything is done with it. -/
theorem run_congr {lines others : List String}
    (hsame : lines.map Text.strip = others.map Text.strip) (emulator : Emulator)
    (machine : Machine) (tracing : Bool) (limit : Nat) :
    emulator.run lines machine tracing limit = emulator.run others machine tracing limit ∧
      Shared.run emulator lines machine tracing limit =
        Shared.run emulator others machine tracing limit := by
  have hstart : emulator.start lines machine tracing = emulator.start others machine tracing := by
    simp only [start, declare, hsame]
  cases lines with
  | nil =>
      cases others with
      | nil => exact ⟨rfl, rfl⟩
      | cons => cases hsame
  | cons line rest =>
      cases others with
      | nil => cases hsame
      | cons other others =>
          have hchecked := checkLines_of_ne_nil (List.cons_ne_nil line rest)
          have hothers := checkLines_of_ne_nil (List.cons_ne_nil other others)
          simp only [run, Shared.run, hchecked, hothers, hstart, and_self]

/-- **Files and lists.** A file is run as the list of its lines is, whatever their ends: with the
same result, registers, tables, steps and output. Either has no listing exactly if there are no
lines. It makes no difference whether the program shares lists with its emulator. -/
theorem runFile_eq_run (emulator : Emulator) (lines : List EndedLine)
    (hchain : lines.IsChain Apart) (machine : Machine) (tracing : Bool) (limit : Nat) :
    (emulator.runFile (fileText lines) machine tracing limit =
        emulator.run (lines.map EndedLine.text) machine tracing limit ∧
      ((emulator.runFile (fileText lines) machine tracing limit).2 = .raised .missingSource ↔
        lines = []) ∧
      ((emulator.run (lines.map EndedLine.text) machine tracing limit).2 =
        .raised .missingSource ↔ lines = [])) ∧
    Shared.runFile emulator (fileText lines) machine tracing limit =
        Shared.run emulator (lines.map EndedLine.text) machine tracing limit ∧
      ((Shared.runFile emulator (fileText lines) machine tracing limit).2 =
        .raised .missingSource ↔ lines = []) ∧
      ((Shared.run emulator (lines.map EndedLine.text) machine tracing limit).2 =
        .raised .missingSource ↔ lines = []) := by
  have hstripped : (lines.map fun line => line.text ++ "\n").map Text.strip =
      (lines.map EndedLine.text).map Text.strip := by
    rw [List.map_map, List.map_map]
    exact List.map_congr_left fun line _ => Text.strip_append_feed line.text
  obtain ⟨hsame, hshared⟩ := run_congr hstripped emulator machine tracing limit
  obtain ⟨hmissing, hnone⟩ :=
    run_missingSource_iff emulator (lines.map EndedLine.text) machine tracing limit
  rw [List.map_eq_nil_iff] at hmissing hnone
  rw [runFile, Shared.runFile, Text.lines_fileText hchain, hsame, hshared]
  exact ⟨⟨rfl, hmissing, hmissing⟩, rfl, hnone, hnone⟩

theorem runFile_eq_run_mixedEnds :
    Emulator.runFile {} "const/4 v0, 0x1\r\r\nreturn v0\n" {} false 9 =
        Emulator.run {} ["const/4 v0, 0x1", "", "return v0"] {} false 9 ∧
      (Emulator.runFile {} "const/4 v0, 0x1\r\r\nreturn v0\n" {} false 9).2 ≠
        .raised .missingSource := by
  have htext : fileText [⟨"const/4 v0, 0x1", .carriage, rfl⟩, ⟨"", .carriageFeed, rfl⟩,
      ⟨"return v0", .feed, rfl⟩] = "const/4 v0, 0x1\r\r\nreturn v0\n" := by
    decide +kernel
  obtain ⟨⟨hsame, hmissing, -⟩, -⟩ := runFile_eq_run {} [⟨"const/4 v0, 0x1", .carriage, rfl⟩,
    ⟨"", .carriageFeed, rfl⟩, ⟨"return v0", .feed, rfl⟩] (by decide) {} false 9
  rw [htext] at hsame hmissing
  refine ⟨hsame, fun hraised => ?_⟩
  cases hmissing.mp hraised

end Emulator

end Dalvik
