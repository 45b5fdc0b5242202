import Mathlib.Data.List.Basic
import Dalvik.Proofs.Dispatch

/-!
# What groups catch

A match hands on what was caught before it, and catches something by each of its own groups, unless
they are optional or repeated. All groups of a form are of the first kind except for those of a
return. So a form that is found in a line always reads an instruction there, and a line has no
instruction exactly if no form is found in it.
-/

namespace Dalvik

namespace Pattern

/-- Groups that catch something whenever the pattern matches. -/
def sureGroups : Pattern → List Nat
  | .group number body => number :: body.sureGroups
  | .both first second => first.sureGroups ++ second.sureGroups
  | .settled body => body.sureGroups
  | _ => []

/-- Groups that have caught something still have. -/
def Captures.Kept (captures later : Captures) : Prop :=
  ∀ number, (captures.lookup number).isSome → (later.lookup number).isSome

theorem Captures.Kept.refl (captures : Captures) : captures.Kept captures :=
  fun _ hsome => hsome

theorem Captures.Kept.trans {first second third : Captures} (hfirst : first.Kept second)
    (hsecond : second.Kept third) : first.Kept third :=
  fun number hsome => hsecond number (hfirst number hsome)

theorem Captures.kept_cons (captures : Captures) (number : Nat) (capture : Capture) :
    captures.Kept ((number, capture) :: captures) := by
  intro other hsome
  by_cases hsame : other = number
  · simp [hsame]
  · rw [List.lookup_cons, beq_eq_false_iff_ne.mpr hsame]
    exact hsome

/-- A matcher hands on what was caught before it, and catches something by the given groups. -/
def Catches (matcher : Matcher) (numbers : List Nat) : Prop :=
  ∀ place next result, matcher place next = some result →
    ∃ middle, next middle = some result ∧ place.captures.Kept middle.captures ∧
      ∀ number ∈ numbers, (middle.captures.lookup number).isSome

/-- A match that goes on from the place where it began. -/
theorem catches_same {place middle result : Place} {next : Place → Option Place}
    (hnext : next middle = some result) (hcaptures : place.captures.Kept middle.captures) :
    ∃ middle, next middle = some result ∧ place.captures.Kept middle.captures ∧
      ∀ number ∈ [], (middle.captures.lookup number).isSome :=
  ⟨middle, hnext, hcaptures, by simp⟩

theorem Catches.forget {matcher : Matcher} {numbers : List Nat}
    (hcatches : Catches matcher numbers) : Catches matcher [] := by
  intro place next result hsome
  obtain ⟨middle, hnext, hkept, -⟩ := hcatches _ _ _ hsome
  exact catches_same hnext hkept

theorem orTry_eq_some {first : Option Place} {second : Unit → Option Place} {result : Place}
    (hsome : orTry first second = some result) : first = some result ∨ second () = some result := by
  cases first with
  | none => exact Or.inr hsome
  | some place => exact Or.inl hsome

theorem dropText_captures {rule : CaseRule} {chars : List Char} {place after : Place}
    (hdrop : dropText rule chars place = some after) : after.captures = place.captures := by
  induction chars generalizing place with
  | nil =>
      cases hdrop
      rfl
  | cons c chars ih =>
      rw [dropText] at hdrop
      split at hdrop
      · split at hdrop
        · have hrest := ih hdrop
          exact hrest
        · cases hdrop
      · cases hdrop

theorem back_captures {width : Nat} {place after : Place}
    (hback : place.back width = some after) : after.captures = place.captures := by
  induction width generalizing place with
  | zero =>
      cases hback
      rfl
  | succ width ih =>
      rw [Place.back] at hback
      split at hback
      · have hrest := ih hback
        exact hrest
      · cases hback

/-- Each round of a repetition keeps what was caught. -/
theorem catches_repeatFrom {body : Matcher} (hbody : Catches body []) {least : Nat}
    {most : Option Nat} {isLazy : Bool} (fuel count : Nat) (previous : Option Nat) :
    Catches (fun place next => repeatFrom body least most isLazy next fuel count previous place)
      [] := by
  induction fuel generalizing count previous with
  | zero =>
      intro place next result hsome
      cases hsome
  | succ fuel ih =>
      intro place next result hsome
      have honce : ∀ mark, body place (fun after =>
          repeatFrom body least most isLazy next fuel (count + 1) mark after) = some result →
          ∃ middle, next middle = some result ∧ place.captures.Kept middle.captures ∧
            ∀ number ∈ [], (middle.captures.lookup number).isSome := by
        intro mark hround
        obtain ⟨first, hfirst, hkept, -⟩ := hbody _ _ _ hround
        obtain ⟨middle, hnext, hlater, hnone⟩ := ih (count + 1) mark _ _ _ hfirst
        exact ⟨middle, hnext, hkept.trans hlater, hnone⟩
      simp only [repeatFrom] at hsome
      split at hsome
      · exact honce _ hsome
      · split at hsome
        · rcases orTry_eq_some hsome with hnext | hmore
          · exact catches_same hnext (.refl _)
          · split at hmore
            · exact honce _ hmore
            · cases hmore
        · split at hsome
          · rcases orTry_eq_some hsome with hmore | hnext
            · exact honce _ hmore
            · exact catches_same hnext (.refl _)
          · exact catches_same hsome (.refl _)

theorem catches_run (pattern : Pattern) : Catches (run pattern) pattern.sureGroups := by
  induction pattern with
  | empty => exact fun place next result hsome => catches_same hsome (.refl _)
  | one chars =>
      intro place next result hsome
      simp only [run] at hsome
      split at hsome
      · split at hsome
        · exact catches_same hsome (.refl _)
        · cases hsome
      · cases hsome
  | many chars least =>
      intro place next result hsome
      obtain ⟨taken, rest, -, hnext⟩ := exists_of_manyFrom hsome
      exact catches_same hnext (.refl _)
  | both first second ihfirst ihsecond =>
      intro place next result hsome
      obtain ⟨between, hbetween, hkept, hfirst⟩ := ihfirst _ _ _ hsome
      obtain ⟨middle, hnext, hlater, hsecond⟩ := ihsecond _ _ _ hbetween
      refine ⟨middle, hnext, hkept.trans hlater, ?_⟩
      intro number hmem
      rcases List.mem_append.mp hmem with hmem | hmem
      · exact hlater number (hfirst number hmem)
      · exact hsecond number hmem
  | either first second ihfirst ihsecond =>
      intro place next result hsome
      simp only [run] at hsome
      rcases orTry_eq_some hsome with hsome | hsome
      · exact ihfirst.forget _ _ _ hsome
      · exact ihsecond.forget _ _ _ hsome
  | repeated body least most isLazy ih =>
      intro place next result hsome
      exact catches_repeatFrom ih.forget _ _ _ _ _ _ hsome
  | group number body ih =>
      intro place next result hsome
      obtain ⟨after, hnext, hkept, hcaught⟩ := ih _ _ _ hsome
      have hcons := Captures.kept_cons after.captures number ⟨place.rest, after.rest⟩
      refine ⟨_, hnext, hkept.trans hcons, ?_⟩
      intro other hmem
      rcases List.mem_cons.mp hmem with rfl | hmem
      · simp
      · exact hcons other (hcaught other hmem)
  | again number rule =>
      intro place next result hsome
      obtain ⟨after, hafter, hnext⟩ := Option.bind_eq_some_iff.mp hsome
      obtain ⟨capture, -, hdrop⟩ := Option.bind_eq_some_iff.mp hafter
      refine catches_same hnext ?_
      rw [dropText_captures hdrop]
      exact .refl _
  | atStart | atLineStart | atEnd | atLineEnd | atVeryEnd =>
      intro place next result hsome
      simp only [run] at hsome
      split at hsome
      · exact catches_same hsome (.refl _)
      · cases hsome
  | edge chars present =>
      intro place next result hsome
      simp only [run] at hsome
      split at hsome
      · exact catches_same hsome (.refl _)
      · cases hsome
  | ahead body present ih =>
      intro place next result hsome
      simp only [run] at hsome
      split at hsome
      · rename_i after hbody
        -- the place stays, and what was caught ahead of it stays caught
        obtain ⟨middle, hmiddle, hkept, -⟩ := ih _ _ _ hbody
        cases hmiddle
        exact catches_same hsome hkept
      · exact catches_same hsome (.refl _)
      · cases hsome
  | behind width body present ih =>
      intro place next result hsome
      simp only [run] at hsome
      split at hsome
      · rename_i after hbody
        obtain ⟨first, hback, hbody⟩ := Option.bind_eq_some_iff.mp hbody
        obtain ⟨middle, hmiddle, hkept, -⟩ := ih _ _ _ hbody
        cases hmiddle
        rw [back_captures hback] at hkept
        exact catches_same hsome hkept
      · exact catches_same hsome (.refl _)
      · cases hsome
  | settled body ih =>
      intro place next result hsome
      obtain ⟨after, hbody, hnext⟩ := Option.bind_eq_some_iff.mp hsome
      obtain ⟨middle, hmiddle, hkept, hcaught⟩ := ih _ _ _ hbody
      cases hmiddle
      exact ⟨_, hnext, hkept, hcaught⟩
  | ifCaught number yes no ihyes ihno =>
      intro place next result hsome
      simp only [run] at hsome
      split at hsome
      · exact ihyes.forget _ _ _ hsome
      · exact ihno.forget _ _ _ hsome

theorem group?_of_search {pattern : Pattern} {line : String} {place : Place}
    (hsearch : pattern.search line = some place) {number : Nat}
    (hsure : number ∈ pattern.sureGroups) : (place.group? number).isSome := by
  obtain ⟨before, rest, hrun⟩ : ∃ before rest,
      run pattern ⟨before, rest, []⟩ some = some place := by
    rw [search] at hsearch
    split at hsearch
    · exact ⟨_, _, hsearch⟩
    · obtain ⟨before, rest, -, hrun⟩ := exists_of_searchFrom hsearch
      exact ⟨before, rest, hrun⟩
  obtain ⟨middle, hmiddle, -, hcaught⟩ := catches_run pattern _ _ _ hrun
  cases hmiddle
  rw [Place.group?, Option.isSome_map]
  exact hcaught number hsure

/-- If all groups are sure to catch something, a match has a text for each of them. -/
theorem groupsIn_of_sure {pattern : Pattern} {line : String} {groups : List (Option String)}
    (hsure : pattern.sureGroups = (List.range pattern.groupCount).map (· + 1))
    (hgroups : pattern.groupsIn line = some groups) :
    ∃ texts : List String, texts.length = pattern.groupCount ∧ groups = texts.map some := by
  obtain ⟨place, hsearch, rfl⟩ := Option.map_eq_some_iff.mp hgroups
  refine ⟨(List.range pattern.groupCount).map fun index => (place.group? (index + 1)).getD "",
    by simp, ?_⟩
  rw [Place.groups, List.map_map]
  apply List.map_congr_left
  intro index hmem
  have hcaught : (place.group? (index + 1)).isSome := by
    apply group?_of_search hsearch
    rw [hsure]
    exact List.mem_map_of_mem hmem
  obtain ⟨text, htext⟩ := Option.isSome_iff_exists.mp hcaught
  simp [htext]

end Pattern

namespace Form

/-! ### Forms read what they find -/

/-- Every form has a group for each operand, and only the operands of a return may be missing. -/
theorem groups_pattern : ∀ form ∈ all,
    form.pattern.groupCount = form.operandNames.length ∧
      (form ≠ .exit →
        form.pattern.sureGroups = (List.range form.pattern.groupCount).map (· + 1)) := by
  decide +kernel

theorem isSome_build {form : Form} {texts : List String}
    (hlength : texts.length = form.operandNames.length) :
    (form.build (texts.map some)).isSome := by
  cases form with
  | moveResult | moveException | goto =>
      obtain ⟨first, rfl⟩ := List.length_eq_one_iff.mp hlength
      rfl
  | const | constString | move | branchZero | packedSwitch | arrayLength | fillArray | xorInto
  | staticGet | staticPut | newInstance | invoke | exit =>
      obtain ⟨first, second, rfl⟩ := List.length_eq_two.mp hlength
      rfl
  | branch | newArray | arrayGet | arrayPut | arithmetic | literalArithmetic | convert =>
      obtain ⟨first, second, third, rfl⟩ := List.length_eq_three.mp hlength
      rfl

/-- A form that is found in a line reads an instruction there. -/
theorem isSome_read?_iff (form : Form) (line : String) :
    (form.read? line).isSome ↔ (form.groups? line).isSome := by
  constructor
  · intro hread
    obtain ⟨instruction, hread⟩ := Option.isSome_iff_exists.mp hread
    exact groups?_isSome_of_read? hread
  · intro hsome
    obtain ⟨groups, hgroups⟩ := Option.isSome_iff_exists.mp hsome
    obtain ⟨hcount, hsure⟩ := groups_pattern form (mem_all form)
    have hread : form.read? line = form.build (groups.map (·.map Text.strip)) := by
      rw [read?, hgroups]
      rfl
    rw [hread]
    by_cases hexit : form = .exit
    · subst hexit
      obtain ⟨place, -, rfl⟩ := Option.map_eq_some_iff.mp hgroups
      rw [hcount]
      rfl
    · obtain ⟨texts, hlength, rfl⟩ := Pattern.groupsIn_of_sure (hsure hexit) hgroups
      have hstripped : (texts.map some).map (·.map Text.strip) =
          (texts.map Text.strip).map some := by
        rw [List.map_map, List.map_map]
        rfl
      rw [hstripped]
      apply isSome_build
      rw [List.length_map, hlength, hcount]

end Form

namespace Instruction

/-- A line has no instruction exactly if no form is found in it. -/
theorem ofLine?_eq_none_iff {line : String} :
    ofLine? line = none ↔ ∀ form : Form, form.groups? line = none := by
  rw [ofLine?, List.findSome?_eq_none_iff]
  constructor
  · intro hnone form
    have hread := hnone form (Form.mem_all form)
    rw [← Option.not_isSome_iff_eq_none, form.isSome_read?_iff] at hread
    exact Option.not_isSome_iff_eq_none.mp hread
  · intro hnone form _
    rw [← Option.not_isSome_iff_eq_none, form.isSome_read?_iff, hnone form]
    exact Bool.false_ne_true

/-- The first form that is found says which instruction a line is. -/
theorem ofLine?_of_tried {form : Form} {line : String} {tried later : List Form}
    (hall : Form.all = tried ++ form :: later) (hform : (form.groups? line).isSome)
    (htried : ∀ other ∈ tried, ¬(other.groups? line).isSome) :
    ∃ instruction, form.read? line = some instruction ∧
      ofLine? line = some instruction := by
  obtain ⟨instruction, hread⟩ :=
    Option.isSome_iff_exists.mp ((form.isSome_read?_iff line).mpr hform)
  refine ⟨instruction, hread, List.findSome?_eq_some_iff.mpr
    ⟨tried, form, later, hall, hread, fun other hother => ?_⟩⟩
  have hnone := htried other hother
  rw [← other.isSome_read?_iff] at hnone
  exact Option.not_isSome_iff_eq_none.mp hnone

end Instruction

end Dalvik
