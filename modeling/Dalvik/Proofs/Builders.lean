import Dalvik.Proofs.MethodCalls

/-!
# Text builders

A builder is a text that calls append to. It is no object that registers share: each register that
refers to a builder has the text of its own, which it takes over from another register or from the
answer of a call when it is set, and which only calls through it make longer. A register therefore
tells the texts that were appended on its own way, and all of them only if it missed none but empty
ones.
-/

namespace Dalvik

/-- Without the empty texts, what is joined is the same. -/
theorem join_filter_ne_empty (texts : List String) :
    String.join (texts.filter (· ≠ "")) = String.join texts := by
  induction texts with
  | nil => rfl
  | cons s rest ih =>
      by_cases hs : s = ""
      · rw [List.filter_cons_of_neg (by simpa using hs), ih, String.join_cons, hs,
          String.empty_append]
      · rw [List.filter_cons_of_pos (by simpa using hs), String.join_cons, ih, String.join_cons]

theorem length_join_le_of_sublist {part whole : List String} (hpart : part.Sublist whole) :
    (String.join part).length ≤ (String.join whole).length := by
  induction hpart with
  | slnil => exact Nat.le_refl _
  | cons s _ ih =>
      rw [String.join_cons, String.length_append]
      omega
  | cons_cons s _ ih =>
      rw [String.join_cons, String.join_cons, String.length_append, String.length_append]
      omega

/-- Some of the texts join to all of them only if the others are empty. -/
theorem join_eq_join_iff_of_sublist {part whole : List String} (hpart : part.Sublist whole) :
    String.join part = String.join whole ↔ part.filter (· ≠ "") = whole.filter (· ≠ "") := by
  constructor
  · intro hjoin
    induction hpart with
    | slnil => rfl
    | @cons part whole s hrest ih =>
        have hle := length_join_le_of_sublist hrest
        have hlength := congrArg String.length hjoin
        rw [String.join_cons, String.length_append] at hlength
        have hempty : s = "" := String.length_eq_zero_iff.mp (by omega)
        rw [List.filter_cons_of_neg (by simpa using hempty)]
        apply ih
        rw [hjoin, String.join_cons, hempty, String.empty_append]
    | @cons_cons part whole s _ ih =>
        rw [String.join_cons, String.join_cons] at hjoin
        have hrest := ih (String.append_right_inj s |>.mp hjoin)
        simp only [List.filter_cons, hrest]
  · intro hfilter
    rw [← join_filter_ne_empty part, hfilter, join_filter_ne_empty]

/-- What is known of a builder in the course of a program. -/
structure BuilderLog where
  /-- The texts that were appended to it, in the order of the calls. -/
  calls : List String
  /-- The registers that refer to it, each with the texts that it has seen. -/
  holders : Table (List String)
  /-- The texts of the last result, if that refers to the builder. -/
  answer : Option (List String)

namespace BuilderLog

/-- A new builder, in one register. -/
def new (register : String) : BuilderLog :=
  ⟨[], [(register, [])], none⟩

/-- Another register takes over the texts. -/
def copied (log : BuilderLog) (target : String) (texts : List String) : BuilderLog :=
  { log with holders := log.holders.insert target texts }

/-- A text is appended through a register. -/
def appended (log : BuilderLog) (this : String) (texts : List String) (s : String) :
    BuilderLog where
  calls := log.calls ++ [s]
  holders := log.holders.insert this (texts ++ [s])
  answer := some (texts ++ [s])

/-- The line neither makes another register refer to the builder nor appends to it. -/
structure Foreign (log : BuilderLog) (state : Emulator) (line : String) : Prop where
  copies : ∀ target source, state.Executes line (.move target source) →
    log.holders.get? source = none
  takes : ∀ target, state.Executes line (.moveResult target) → log.answer = none
  appends : ∀ this rest, state.Calls line .append (this :: rest) → log.holders.get? this = none

/-- What a line of a program means for a builder. A register that another line changes refers to it
no more. -/
inductive Uses (log : BuilderLog) (state : Emulator) (line : String) : BuilderLog → Prop
  | init {this : String} {rest : List String}
      (hcalls : state.Calls line .initBuilder (this :: rest)) :
      Uses log state line log
  | copy {target source : String} {texts : List String}
      (hexecutes : state.Executes line (.move target source))
      (hsource : log.holders.get? source = some texts) :
      Uses log state line (log.copied target texts)
  | append {this argument s : String} {rest texts : List String}
      (hcalls : state.Calls line .append (this :: argument :: rest))
      (hthis : log.holders.get? this = some texts)
      (hargument : state.machine.registers.get? argument = some (.text s)) :
      Uses log state line (log.appended this texts s)
  | take {target : String} {texts : List String}
      (hexecutes : state.Executes line (.moveResult target))
      (hanswer : log.answer = some texts) :
      Uses log state line (log.copied target texts)
  | other {after : BuilderLog} (hforeign : log.Foreign state line)
      (hnext : state.nextLine? = some line) (hdone : (state.step line).2 = .done ())
      (hcalls : after.calls = log.calls)
      (hholders : ∀ register texts, after.holders.get? register = some texts ↔
        log.holders.get? register = some texts ∧
          (state.step line).1.machine.registers.get? register =
            state.machine.registers.get? register)
      (hanswer : ∀ texts, after.answer = some texts ↔ log.answer = some texts ∧
        (state.step line).1.machine.result = state.machine.result) :
      Uses log state line after

/-- The machine has the texts of the log, which are some of those that were appended. -/
structure Holds (log : BuilderLog) (machine : Machine) : Prop where
  registers : ∀ register texts, log.holders.get? register = some texts →
    machine.registers.get? register = some (.text (String.join texts)) ∧ texts.Sublist log.calls
  answer : ∀ texts, log.answer = some texts →
    machine.result = .text (String.join texts) ∧ texts.Sublist log.calls

variable {log after : BuilderLog} {machine : Machine} {target this s : String}
  {texts : List String}

theorem holds_new (machine : Machine) (register : String) :
    (new register).Holds (machine.write register Method.newObject) := by
  constructor
  · intro query texts htexts
    rw [new, Table.get?_cons] at htexts
    split_ifs at htexts with heq
    · cases htexts
      subst heq
      exact ⟨Table.get?_insert_self .., List.Sublist.refl _⟩
    · cases htexts
  · intro texts htexts
    cases htexts

theorem Holds.copied (hholds : log.Holds machine) (htexts : texts.Sublist log.calls) :
    (log.copied target texts).Holds (machine.write target (.text (String.join texts))) := by
  refine ⟨?_, hholds.answer⟩
  intro query found hfound
  rw [BuilderLog.copied, Table.get?_insert] at hfound
  rw [Machine.write, Table.get?_insert]
  split_ifs at hfound ⊢ with heq
  · cases hfound
    exact ⟨rfl, htexts⟩
  · exact hholds.registers query found hfound

theorem Holds.appended (hholds : log.Holds machine) (htexts : texts.Sublist log.calls) :
    (log.appended this texts s).Holds
      ((machine.write this (.text (String.join texts ++ s))).give
        (.text (String.join texts ++ s))) := by
  have hjoin : String.join (texts ++ [s]) = String.join texts ++ s := by
    rw [String.join_append, String.join_cons, String.join_nil, String.append_empty]
  have hmore : (texts ++ [s]).Sublist (log.calls ++ [s]) := htexts.append (List.Sublist.refl [s])
  rw [← hjoin]
  constructor
  · intro query found hfound
    rw [BuilderLog.appended, Table.get?_insert] at hfound
    rw [Machine.give, Machine.write, Table.get?_insert]
    split_ifs at hfound ⊢ with heq
    · cases hfound
      exact ⟨rfl, hmore⟩
    · obtain ⟨hvalue, hseen⟩ := hholds.registers query found hfound
      exact ⟨hvalue, hseen.trans (List.sublist_append_left _ _)⟩
  · intro found hfound
    cases hfound
    exact ⟨rfl, hmore⟩

/-- A line of a program completes and keeps the log right. -/
theorem Uses.completes {state : Emulator} {line : String} (huses : log.Uses state line after)
    (hholds : log.Holds state.machine) :
    state.nextLine? = some line ∧ (state.step line).2 = .done () ∧
      after.Holds (state.step line).1.machine := by
  have hadvance : log.Holds state.advance.machine := ⟨hholds.registers, hholds.answer⟩
  cases huses with
  | init hcalls =>
      obtain ⟨hmachine, hdone⟩ := hcalls.initBuilder_completes
      exact ⟨hcalls.next, hdone, hmachine ▸ hadvance⟩
  | copy hexecutes hsource =>
      obtain ⟨hvalue, hseen⟩ := hholds.registers _ _ hsource
      obtain ⟨hmachine, hdone⟩ := hexecutes.move_completes hvalue
      exact ⟨hexecutes.next, hdone, hmachine ▸ hadvance.copied hseen⟩
  | append hcalls hthis hargument =>
      obtain ⟨hvalue, hseen⟩ := hholds.registers _ _ hthis
      obtain ⟨hmachine, hdone⟩ := hcalls.append_completes hvalue hargument
      exact ⟨hcalls.next, hdone, hmachine ▸ hadvance.appended hseen⟩
  | take hexecutes hanswer =>
      obtain ⟨hvalue, hseen⟩ := hholds.answer _ hanswer
      obtain ⟨hmachine, hdone⟩ := hexecutes.moveResult_completes
      rw [hvalue] at hmachine
      exact ⟨hexecutes.next, hdone, hmachine ▸ hadvance.copied hseen⟩
  | other hforeign hnext hdone hcalls hholders hanswer =>
      refine ⟨hnext, hdone, ?_, ?_⟩
      · intro register texts htexts
        obtain ⟨hbefore, hkept⟩ := (hholders register texts).mp htexts
        rw [hkept, hcalls]
        exact hholds.registers register texts hbefore
      · intro texts htexts
        obtain ⟨hbefore, hkept⟩ := (hanswer texts).mp htexts
        rw [hkept, hcalls]
        exact hholds.answer texts hbefore

end BuilderLog

namespace Emulator

/-- A program makes a new builder and uses it; the state that it has come to, with the log of the
builder. -/
inductive BuilderRun (first : Emulator) : Emulator → BuilderLog → Prop
  | made {line target descriptor : String} {method : Method}
      (hexecutes : first.Executes line (.newInstance target descriptor))
      (hclass : ClassName.ofDescriptor descriptor = .ok Library.stringBuilderClass)
      (hmethod : first.machine.method? Library.stringBuilderClass Library.newInstance =
        .ok method) :
      BuilderRun first (first.step line).1 (.new target)
  | used {state : Emulator} {line : String} {log after : BuilderLog}
      (hrun : BuilderRun first state log) (huses : log.Uses state line after) :
      BuilderRun first (state.step line).1 after

theorem BuilderRun.holds {first state : Emulator} {log : BuilderLog}
    (hrun : first.BuilderRun state log) : first.LeadsTo state ∧ log.Holds state.machine := by
  induction hrun with
  | @made line target _ _ hexecutes hclass hmethod =>
      obtain ⟨hmachine, hdone⟩ := hexecutes.step_of_ok (outcome_newInstance hclass hmethod)
      refine ⟨(LeadsTo.refl first).step hexecutes.next hdone, ?_⟩
      rw [hmachine]
      exact BuilderLog.holds_new first.advance.machine target
  | used _ huses ih =>
      obtain ⟨hleads, hholds⟩ := ih
      obtain ⟨hnext, hdone, hafter⟩ := huses.completes hholds
      exact ⟨hleads.step hnext hdone, hafter⟩

/-- **Builders.** All lines that use a builder complete. Through a register that refers to it, its
text is that of the calls which the register has seen: those through it since it was set, and before
them those that the register or the answer which it was set from had seen. They are some of all the
calls, in their order, and make up the same text just if the others appended nothing. -/
theorem builder_text_by_register (first state : Emulator) (log : BuilderLog)
    (hrun : first.BuilderRun state log) :
    first.LeadsTo state ∧
    ∀ register texts, log.holders.get? register = some texts →
      (∀ line rest, state.Calls line .builderText (register :: rest) →
        state.Completes line (state.advance.machine.give (.text (String.join texts)))) ∧
      texts.Sublist log.calls ∧
      (String.join texts = String.join log.calls ↔
        texts.filter (· ≠ "") = log.calls.filter (· ≠ "")) := by
  obtain ⟨hleads, hholds⟩ := hrun.holds
  refine ⟨hleads, ?_⟩
  intro register texts htexts
  obtain ⟨hvalue, hseen⟩ := hholds.registers register texts htexts
  refine ⟨?_, hseen, join_eq_join_iff_of_sublist hseen⟩
  intro line rest hcalls
  exact hcalls.builderText_completes hvalue

/-- A builder in a register and in a copy of it, which is made before anything is appended. -/
def buildingListing : List String := [
  "new-instance v0, Ljava/lang/StringBuilder;",
  "invoke-direct \x7bv0\x7d, Ljava/lang/StringBuilder;-><init>()V",
  "move-object v1, v0",
  "invoke-virtual \x7bv0, p0\x7d, Ljava/lang/StringBuilder;->append(C)Ljava/lang/StringBuilder;",
  "invoke-virtual \x7bv1\x7d, Ljava/lang/StringBuilder;->toString()Ljava/lang/String;"]

def buildingLine (line : Nat) : String :=
  (buildingListing[line]?).getD ""

/-- The emulator before a line of the listing. -/
def building (line : Nat) (registers : Table Value) (result : Value) : Emulator where
  machine := { registers := ("p0", .text "a") :: registers, result := result, pc := line }
  source := some buildingListing
  steps := line

/-- The emulator when the text of the copy is asked for. -/
def built : Emulator :=
  building 4 [("v0", .text "a"), ("v1", .text "")] (.text "a")

theorem building_executes :
    (building 0 [] .null).Executes (buildingLine 0)
      (.newInstance "v0" "Ljava/lang/StringBuilder;") ∧
    (building 2 [("v0", .text "")] .null).Executes (buildingLine 2) (.move "v1" "v0") := by
  constructor
  · refine .of_print spaced (.newInstance ⟨"v0", ?_, ?_⟩ ⟨"Ljava/lang/StringBuilder;", ?_, ?_⟩)
      ?_ ?_ <;> decide +kernel
  · refine .of_print spaced (.move true ⟨"v1", ?_, ?_⟩ ⟨"v0", ?_, ?_⟩) ?_ ?_ <;> decide +kernel

theorem building_calls :
    (building 1 [("v0", .text "")] .null).Calls (buildingLine 1) .initBuilder ["v0"] ∧
    (building 3 [("v0", .text ""), ("v1", .text "")] .null).Calls (buildingLine 3) .append
      ["v0", "p0"] ∧
    built.Calls (buildingLine 4) .builderText ["v1"] := by
  refine ⟨?_, ?_, ?_⟩
  · refine .of_print spaced .direct ⟨"v0", ?_, ?_⟩ []
      (.ofParts "Ljava/lang/StringBuilder" "<init>()V" ?_)
      Library.stringBuilderClass ?_ ?_ ?_ ?_ <;> decide +kernel
  · refine .of_print spaced .virtual ⟨"v0", ?_, ?_⟩ [⟨"p0", ?_, ?_⟩]
      (.ofParts "Ljava/lang/StringBuilder" "append(C)Ljava/lang/StringBuilder;" ?_)
      Library.stringBuilderClass ?_ ?_ ?_ ?_ <;> decide +kernel
  · refine .of_print spaced .virtual ⟨"v1", ?_, ?_⟩ []
      (.ofParts "Ljava/lang/StringBuilder" "toString()Ljava/lang/String;" ?_)
      Library.stringBuilderClass ?_ ?_ ?_ ?_ <;> decide +kernel

/-- What the lines before the last do to the builder. -/
def buildingLog : BuilderLog :=
  ((BuilderLog.new "v0").copied "v1" []).appended "v0" [] "a"

theorem building_run : (building 0 [] .null).BuilderRun built buildingLog := by
  obtain ⟨hmakes, hcopies⟩ := building_executes
  obtain ⟨hinit, happend, -⟩ := building_calls
  have hclass : ClassName.ofDescriptor "Ljava/lang/StringBuilder;" =
      .ok Library.stringBuilderClass := by decide +kernel
  have hmethod : (building 0 [] .null).machine.method? Library.stringBuilderClass
      Library.newInstance = .ok (.create "StringBuilder") := by decide +kernel
  have hmade : (building 0 [] .null).step (buildingLine 0) =
      (building 1 [("v0", .text "")] .null, .done ()) :=
    hmakes.step_eq_of_ok (outcome_newInstance hclass hmethod)
  have hready : (building 1 [("v0", .text "")] .null).step (buildingLine 1) =
      (building 2 [("v0", .text "")] .null, .done ()) :=
    hinit.step_eq rfl
  have hcopied : (building 2 [("v0", .text "")] .null).step (buildingLine 2) =
      (building 3 [("v0", .text ""), ("v1", .text "")] .null, .done ()) :=
    hcopies.step_eq_of_ok rfl
  have happended : (building 3 [("v0", .text ""), ("v1", .text "")] .null).step (buildingLine 3) =
      (built, .done ()) :=
    happend.step_eq rfl
  have hrun := BuilderRun.made hmakes hclass hmethod
  rw [hmade] at hrun
  have hrun := hrun.used (.init hinit)
  rw [hready] at hrun
  have hrun := hrun.used (.copy hcopies rfl)
  rw [hcopied] at hrun
  have hrun := hrun.used (.append happend rfl rfl)
  rwa [happended] at hrun

theorem builder_text_by_register_building :
    (building 0 [] .null).BuilderRun built buildingLog ∧
      built.Completes (buildingLine 4) (built.advance.machine.give (.text "")) ∧
      "" ≠ String.join buildingLog.calls := by
  obtain ⟨-, hholders⟩ := builder_text_by_register _ _ _ building_run
  obtain ⟨htext, -, hsame⟩ := hholders "v1" [] rfl
  refine ⟨building_run, htext _ [] building_calls.2.2, ?_⟩
  intro heq
  exact absurd (hsame.mp heq) (by decide)

/-- A builder is not one object: a register that refers to it need not tell all its text. -/
theorem builder_text_not_shared :
    ¬∀ (first state : Emulator) (log : BuilderLog), first.BuilderRun state log →
      ∀ register texts line rest, log.holders.get? register = some texts →
        state.Calls line .builderText (register :: rest) →
        state.Completes line (state.advance.machine.give (.text (String.join log.calls))) := by
  intro hshared
  have hwhole := hshared _ _ _ building_run "v1" [] _ [] rfl building_calls.2.2
  have hown := building_calls.2.2.builderText_completes rfl
  have hsame : Value.text "" = .text (String.join buildingLog.calls) := hown.give_inj hwhole
  exact absurd (Value.text.inj hsame) (by decide)

end Emulator

end Dalvik
