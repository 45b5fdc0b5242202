import Dalvik.Proofs.Operands

/-!
# How lines of a form begin

Every form has a few heads, one of which stands wherever its pattern matches. No head of one form
begins with a head of another one, so a line has at most one of the forms that match nowhere but at
its beginning, and the order in which they are tried does not matter. The two loose forms are found
anywhere in a line.
-/

namespace Dalvik

namespace Pattern

variable {pattern second : Pattern} {heads others : List String}

/-! ### Beginnings of matches -/

/-- Wherever the pattern matches, one of the heads stands. -/
def Begins (pattern : Pattern) (heads : List String) : Prop :=
  ∀ before chars captures next place,
    run pattern ⟨before, chars, captures⟩ next = some place →
      ∃ head ∈ heads, head.toList <+: chars

theorem begins_text (fixed : String) : Begins (text fixed) [fixed] := by
  intro before chars captures next place hsome
  obtain ⟨rest, rfl, -⟩ := run_text_eq_some.mp hsome
  exact ⟨fixed, List.mem_singleton_self fixed, List.prefix_append _ rest⟩

theorem Begins.both (hbegins : Begins pattern heads) : Begins (.both pattern second) heads :=
  fun before chars captures _ place hsome => hbegins before chars captures _ place hsome

theorem Begins.atStart (hbegins : Begins pattern heads) :
    Begins (.both .atStart pattern) heads := by
  intro before chars captures next place hsome
  cases before with
  | nil => exact hbegins [] chars captures next place hsome
  | cons c before => cases hsome

theorem Begins.behind (fixed : String) (hbegins : Begins pattern heads) :
    Begins (.both (text fixed) pattern) (heads.map (fixed ++ ·)) := by
  intro before chars captures next place hsome
  obtain ⟨rest, rfl, hrest⟩ := run_text_eq_some.mp hsome
  obtain ⟨head, hmem, left, rfl⟩ := hbegins _ rest captures next place hrest
  refine ⟨fixed ++ head, List.mem_map_of_mem hmem, left, ?_⟩
  rw [String.toList_append, List.append_assoc]

/-- What is optional stands there, or what follows it does. -/
theorem Begins.orElse (hbegins : Begins pattern heads) (hsecond : Begins second others) :
    Begins (.both (optional pattern) second) (heads ++ others) := by
  intro before chars captures next place hsome
  simp only [optional, run] at hsome
  cases hfirst : run pattern ⟨before, chars, captures⟩ fun middle => run second middle next with
  | some found =>
      obtain ⟨head, hmem, hhead⟩ := hbegins before chars captures _ found hfirst
      exact ⟨head, List.mem_append_left others hmem, hhead⟩
  | none =>
      rw [hfirst] at hsome
      obtain ⟨head, hmem, hhead⟩ := hsecond before chars captures next place hsome
      exact ⟨head, List.mem_append_right heads hmem, hhead⟩

theorem exists_of_searchFrom {before chars : List Char} {place : Place}
    (hsome : searchFrom pattern before chars = some place) :
    ∃ middle rest, rest <:+ chars ∧ run pattern ⟨middle, rest, []⟩ some = some place := by
  induction chars generalizing before with
  | nil => exact ⟨before, [], List.suffix_rfl, hsome⟩
  | cons c chars ih =>
      rw [searchFrom] at hsome
      cases hhere : run pattern ⟨before, c :: chars, []⟩ some with
      | some found =>
          rw [hhere] at hsome
          cases hsome
          exact ⟨before, c :: chars, List.suffix_rfl, hhere⟩
      | none =>
          rw [hhere] at hsome
          obtain ⟨middle, rest, hrest, hsome⟩ := ih hsome
          exact ⟨middle, rest, hrest.trans (List.suffix_cons c chars), hsome⟩

end Pattern

namespace Form

open Pattern

/-! ### Heads of forms -/

/-- What a match of the form begins with. -/
def heads : Form → List String
  | .const => ["const/", "const "]
  | .constString => ["const-string"]
  | .move => ["move-object", "move "]
  | .moveResult => ["move-result"]
  | .moveException => ["move-exception "]
  | .branch test => ["if-" ++ test.mnemonic ++ " "]
  | .branchZero test => ["if-" ++ test.mnemonic ++ "z" ++ " "]
  | .goto => ["goto"]
  | .packedSwitch => ["packed-switch "]
  | .arrayLength => ["array-length "]
  | .fillArray => ["fill-array-data "]
  | .newArray => ["new-array "]
  | .arrayGet => ["aget"]
  | .arrayPut => ["aput"]
  | .arithmetic operation => [operation.mnemonic ++ "-int" ++ " "]
  | .literalArithmetic operation => [operation.mnemonic ++ "-int/lit"]
  | .xorInto => ["xor-int/2addr", "xor-int "]
  | .convert => ["int-to-"]
  | .staticGet => ["sget"]
  | .staticPut => ["sput"]
  | .newInstance => ["new-instance "]
  | .invoke => ["invoke-"]
  | .exit => ["return"]

theorem begins_line {mnemonic head : String} {operands : List Pattern}
    (hhead : mnemonic ++ " " = head) : Begins (line (text mnemonic) operands) [head] :=
  hhead ▸ .atStart (.behind mnemonic (.both (begins_text " ")))

/-- A mnemonic with an optional ending, before the space. -/
theorem begins_line_optional {mnemonic : String} {ending : Pattern} {endings heads : List String}
    {operands : List Pattern} (hending : Begins ending endings)
    (hheads : (endings ++ [" "]).map (mnemonic ++ ·) = heads) :
    Begins (line (.both (text mnemonic) (optional ending)) operands) heads :=
  hheads ▸ .atStart (.behind mnemonic (.orElse hending (.both (begins_text " "))))

theorem begins_pattern (form : Form) : Begins form.pattern form.heads := by
  cases form with
  | const => exact begins_line_optional (.both (begins_text "/")) (by decide)
  | constString => exact .atStart (.both (begins_text _))
  | move => exact begins_line_optional (begins_text "-object") (by decide)
  | moveResult => exact .atStart (.both (.both (begins_text _)))
  | moveException => exact begins_line (by decide)
  | branch test => exact begins_line rfl
  | branchZero test => exact begins_line rfl
  | goto => exact .atStart (.both (.both (begins_text _)))
  | packedSwitch => exact begins_line (by decide)
  | arrayLength => exact .both (begins_text _)
  | fillArray => exact .both (begins_text _)
  | newArray => exact begins_line (by decide)
  | arrayGet => exact .atStart (.both (.both (begins_text _)))
  | arrayPut => exact .atStart (.both (.both (begins_text _)))
  | arithmetic operation => exact begins_line rfl
  | literalArithmetic operation => exact .atStart (.both (.both (begins_text _)))
  | xorInto => exact begins_line_optional (begins_text "/2addr") (by decide)
  | convert => exact .atStart (.both (.both (begins_text _)))
  | staticGet => exact .atStart (.both (.both (begins_text _)))
  | staticPut => exact .atStart (.both (.both (begins_text _)))
  | newInstance => exact begins_line (by decide)
  | invoke => exact .atStart (.both (.both (begins_text _)))
  | exit => exact .atStart (.both (begins_text _))

theorem mem_all (form : Form) : form ∈ all := by
  cases form with
  | branch value | branchZero value | arithmetic value | literalArithmetic value =>
      cases value <;> decide
  | _ => decide

/-- No form has a head that begins with one of another form. -/
theorem heads_incomparable : ∀ form ∈ all, ∀ other ∈ all, form ≠ other →
    ∀ head ∈ form.heads, ∀ start ∈ other.heads, ¬head.toList <+: start.toList := by
  decide +kernel

/-- At most one form has a head at the beginning of a line. -/
theorem eq_of_heads {form other : Form} {chars : List Char} {head start : String}
    (hhead : head ∈ form.heads) (hstart : start ∈ other.heads) (hform : head.toList <+: chars)
    (hother : start.toList <+: chars) : form = other := by
  by_contra hne
  rcases List.prefix_or_prefix_of_prefix hform hother with hshort | hshort
  · exact heads_incomparable form (mem_all form) other (mem_all other) hne head hhead start hstart
      hshort
  · exact heads_incomparable other (mem_all other) form (mem_all form) (Ne.symm hne) start hstart
      head hhead hshort

/-- Forms whose pattern is found anywhere in a line. -/
def isLoose : Form → Bool
  | .arrayLength | .fillArray => true
  | _ => false

theorem anchored_pattern {form : Form} (hform : form.isLoose = false) :
    form.pattern.anchored = true := by
  cases form <;> first | rfl | cases hform

/-- A line of a form has a head of it, at the beginning unless the form is a loose one. -/
theorem exists_head {form : Form} {line : String} (hgroups : (form.groups? line).isSome) :
    ∃ head ∈ form.heads, ∃ rest, rest <:+ line.toList ∧ head.toList <+: rest ∧
      (form.isLoose = false → rest = line.toList) := by
  rw [groups?, groupsIn, Option.isSome_map] at hgroups
  obtain ⟨place, hplace⟩ := Option.isSome_iff_exists.mp hgroups
  rw [search] at hplace
  cases hloose : form.isLoose with
  | false =>
      rw [if_pos (anchored_pattern hloose)] at hplace
      obtain ⟨head, hmem, hhead⟩ := begins_pattern form _ _ _ _ _ hplace
      exact ⟨head, hmem, line.toList, List.suffix_rfl, hhead, fun _ => rfl⟩
  | true =>
      have hanchored : form.pattern.anchored = false := by
        cases form <;> first | rfl | cases hloose
      rw [hanchored, if_neg Bool.false_ne_true] at hplace
      obtain ⟨middle, rest, hrest, hsome⟩ := exists_of_searchFrom hplace
      obtain ⟨head, hmem, hhead⟩ := begins_pattern form _ _ _ _ _ hsome
      exact ⟨head, hmem, rest, hrest, hhead, nofun⟩

end Form

end Dalvik
