import Dalvik.Pattern.Basic
import Mathlib.Data.List.TakeWhile

/-!
# How patterns match

A repetition of characters of one set takes the longest run of them, unless giving some back lets
the rest of the pattern match. It never has to give back anything if the rest cannot begin with a
character of the set, nor if the rest matches everywhere.
-/

namespace Dalvik.Pattern

variable {set : CharSet} {next : Place → Option Place} {captures : Captures} {place : Place}
  {before chars : List Char}

/-! ### Repetitions of one set -/

/-- One round of a repetition that did not begin where the round before it did. -/
theorem repeatFrom_one_cons {least fuel count : Nat} {previous : Option Nat} {c : Char}
    {rest : List Char} (hprevious : previous ≠ some (c :: rest).length) :
    repeatFrom (run (.one set)) least none false next (fuel + 1) count previous
        ⟨before, c :: rest, captures⟩ =
      if set.accepts c then
        if count < least then
          repeatFrom (run (.one set)) least none false next fuel (count + 1) previous
            ⟨c :: before, rest, captures⟩
        else
          orTry (repeatFrom (run (.one set)) least none false next fuel (count + 1)
            (some (c :: rest).length) ⟨c :: before, rest, captures⟩)
            fun _ => next ⟨before, c :: rest, captures⟩
      else if count < least then none
      else next ⟨before, c :: rest, captures⟩ := by
  rw [List.length_cons] at hprevious ⊢
  by_cases haccepts : set.accepts c = true <;> by_cases hcount : count < least <;>
    simp [repeatFrom, run, haccepts, hcount, hprevious, orTry]

/-- A repetition of one set goes through the characters one by one. -/
theorem repeatFrom_one {least fuel count : Nat} {previous : Option Nat}
    (hfuel : chars.length < fuel)
    (hprevious : ∀ mark, previous = some mark → chars.length < mark) :
    repeatFrom (run (.one set)) least none false next fuel count previous
        ⟨before, chars, captures⟩ =
      manyFrom set captures next (least - count) before chars := by
  -- each round begins at another place: `previous` is the length of a longer rest
  induction chars generalizing fuel count previous before with
  | nil =>
      obtain ⟨fuel, rfl⟩ := Nat.exists_eq_succ_of_ne_zero (Nat.ne_of_gt hfuel)
      have hdifferent : previous ≠ some 0 := fun hzero => Nat.not_lt_zero _ (hprevious 0 hzero)
      by_cases hcount : count < least
      · have hleast : least - count ≠ 0 := by omega
        simp [repeatFrom, manyFrom, run, hcount, hleast]
      · have hleast : least - count = 0 := by omega
        simp [repeatFrom, manyFrom, run, hcount, hleast, hdifferent, orTry]
  | cons c rest ih =>
      obtain ⟨fuel, rfl⟩ := Nat.exists_eq_succ_of_ne_zero (Nat.ne_of_gt (Nat.zero_lt_of_lt hfuel))
      have hdifferent : previous ≠ some (c :: rest).length :=
        fun hsame => Nat.lt_irrefl _ (hprevious _ hsame)
      rw [List.length_cons] at hfuel hprevious
      rw [repeatFrom_one_cons hdifferent, manyFrom]
      have hshorter : rest.length < fuel := Nat.lt_of_succ_lt_succ hfuel
      have hcounted : least - (count + 1) = least - count - 1 := by omega
      by_cases hcount : count < least
      · have hleast : least - count ≠ 0 := by omega
        have holder : ∀ mark, previous = some mark → rest.length < mark :=
          fun mark hmark => Nat.lt_of_succ_lt (hprevious mark hmark)
        rw [ih hshorter holder, hcounted]
        simp only [hcount, hleast, if_true, if_false]
        cases set.accepts c with
        | false => rfl
        | true => cases manyFrom set captures next (least - count - 1) (c :: before) rest <;> rfl
      · have hleast : least - count = 0 := by omega
        have hlast : ∀ mark, some (c :: rest).length = some mark → rest.length < mark := by
          intro mark hmark
          cases hmark
          exact Nat.lt_succ_self _
        rw [ih hshorter hlast, hcounted]
        simp only [hcount, hleast, if_true, if_false]

theorem run_repeated_one (set : CharSet) (least : Nat) :
    run (.repeated (.one set) least none false) = run (.many set least) := by
  funext place next
  obtain ⟨before, chars, captures⟩ := place
  have hfuel : chars.length < least + chars.length + 2 := by omega
  exact repeatFrom_one hfuel fun _ hnone => nomatch hnone

/-- If the rest of the pattern matches wherever it matches in front of a character of the set, the
whole run is taken. -/
theorem manyFrom_eq {least : Nat}
    (hback : ∀ middle c rest, set.accepts c = true →
      next ⟨middle, c :: rest, captures⟩ ≠ none → ∀ after left, next ⟨after, left, captures⟩ ≠ none) :
    manyFrom set captures next least before chars =
      if least ≤ (chars.takeWhile set.accepts).length then
        next ⟨(chars.takeWhile set.accepts).reverse ++ before, chars.dropWhile set.accepts, captures⟩
      else none := by
  induction chars generalizing least before with
  | nil =>
      cases least <;> simp [manyFrom]
  | cons c rest ih =>
      rw [manyFrom]
      cases haccepts : set.accepts c with
      | false =>
          cases least <;> simp [haccepts]
      | true =>
          simp only [haccepts, if_true, List.takeWhile_cons_of_pos, List.dropWhile_cons_of_pos,
            List.length_cons, List.reverse_cons, List.append_assoc, List.singleton_append]
          rw [ih]
          cases least with
          | succ least =>
              simp only [Nat.add_sub_cancel, Nat.add_le_add_iff_right, Nat.succ_ne_zero, if_false]
              split
              · cases next _ <;> rfl
              · rfl
          | zero =>
              simp only [Nat.zero_le, if_true, Nat.zero_sub]
              cases hlongest : next ⟨(rest.takeWhile set.accepts).reverse ++ c :: before,
                  rest.dropWhile set.accepts, captures⟩ with
              | some place => rfl
              | none =>
                  by_contra hshorter
                  exact hback before c rest haccepts hshorter _ _ hlongest

/-! ### When patterns match -/

theorem longest_run {accepts : Char → Bool} {taken rest : List Char}
    (htaken : ∀ c ∈ taken, accepts c = true) (hstop : ∀ c, rest.head? = some c → accepts c = false) :
    (taken ++ rest).takeWhile accepts = taken ∧ (taken ++ rest).dropWhile accepts = rest := by
  rw [List.takeWhile_append_of_pos htaken, List.dropWhile_append_of_pos htaken]
  cases rest with
  | nil => simp
  | cons c rest => simp [hstop c rfl]

/-- A run of characters of a set, behind which the rest cannot begin with another one. -/
theorem run_many_eq_some {least : Nat}
    (hrest : ∀ middle c rest, set.accepts c = true → next ⟨middle, c :: rest, captures⟩ = none) :
    run (.many set least) ⟨before, chars, captures⟩ next = some place ↔
      ∃ taken rest, chars = taken ++ rest ∧ (∀ c ∈ taken, set.accepts c = true) ∧
        least ≤ taken.length ∧ next ⟨taken.reverse ++ before, rest, captures⟩ = some place := by
  change manyFrom set captures next least before chars = some place ↔ _
  rw [manyFrom_eq fun middle c rest haccepts hsome => absurd (hrest middle c rest haccepts) hsome]
  constructor
  · intro hsome
    split at hsome
    · rename_i hleast
      exact ⟨_, _, List.takeWhile_append_dropWhile.symm, fun _ => List.mem_takeWhile_imp, hleast,
        hsome⟩
    · cases hsome
  · rintro ⟨taken, rest, rfl, htaken, hleast, hsome⟩
    have hstop : ∀ c, rest.head? = some c → set.accepts c = false := by
      intro c hhead
      obtain ⟨tail, rfl⟩ := List.head?_eq_some_iff.mp hhead
      by_contra haccepts
      rw [hrest _ c tail (by simpa using haccepts)] at hsome
      cases hsome
    obtain ⟨hrun, hleft⟩ := longest_run htaken hstop
    rw [hrun, hleft, if_pos hleast]
    exact hsome

/-- The longest run of characters of a set, behind which the rest matches everywhere. -/
theorem run_many_eq_some_of_forall {least : Nat} (hrest : ∀ place, next place ≠ none) :
    run (.many set least) ⟨before, chars, captures⟩ next = some place ↔
      ∃ taken rest, chars = taken ++ rest ∧ (∀ c ∈ taken, set.accepts c = true) ∧
        (∀ c, rest.head? = some c → set.accepts c = false) ∧
        least ≤ taken.length ∧ next ⟨taken.reverse ++ before, rest, captures⟩ = some place := by
  change manyFrom set captures next least before chars = some place ↔ _
  rw [manyFrom_eq fun _ _ _ _ _ after left => hrest ⟨after, left, captures⟩]
  constructor
  · intro hsome
    split at hsome
    · rename_i hleast
      refine ⟨_, _, List.takeWhile_append_dropWhile.symm, fun _ => List.mem_takeWhile_imp, ?_, hleast,
        hsome⟩
      intro c hhead
      have hstop := List.head?_dropWhile_not set.accepts chars
      rw [hhead] at hstop
      exact hstop
    · cases hsome
  · rintro ⟨taken, rest, rfl, htaken, hstop, hleast, hsome⟩
    obtain ⟨hrun, hleft⟩ := longest_run htaken hstop
    rw [hrun, hleft, if_pos hleast]
    exact hsome

theorem search_atStart (last : Pattern) (text : String) :
    (Pattern.both .atStart last).search text = run last ⟨[], text.toList, []⟩ some := rfl

/-- A fixed text and what follows it; each character is a set of its own. -/
def spelled (text : List Char) (last : Pattern) : Pattern :=
  text.foldr (fun c rest => .both (.one (.either (.only c) .nothing)) rest) last

theorem run_spelled_eq_some {text : List Char} {last : Pattern} :
    run (spelled text last) ⟨before, chars, captures⟩ next = some place ↔
      ∃ rest, chars = text ++ rest ∧
        run last ⟨text.reverse ++ before, rest, captures⟩ next = some place := by
  induction text generalizing before chars with
  | nil => simp [spelled]
  | cons c text ih =>
      change run (.both (.one (.either (.only c) .nothing)) (spelled text last))
        ⟨before, chars, captures⟩ next = some place ↔ _
      cases chars with
      | nil => simp [run]
      | cons d rest =>
          by_cases hsame : d = c
          · subst hsame
            simpa [run, CharSet.accepts] using ih
          · simp [run, CharSet.accepts, hsame]

theorem run_spelled_of_ne {c d : Char} {text rest : List Char} {last : Pattern}
    (hhead : text.head? = some d) (hne : c ≠ d) :
    run (spelled text last) ⟨before, c :: rest, captures⟩ next = none := by
  obtain ⟨text, rfl⟩ := List.head?_eq_some_iff.mp hhead
  change run (.both (.one (.either (.only d) .nothing)) (spelled text last))
    ⟨before, c :: rest, captures⟩ next = none
  simp [run, CharSet.accepts, hne]

theorem run_repeated_both_eq_some {least : Nat} {last : Pattern}
    (hlast : ∀ middle c rest, set.accepts c = true →
      run last ⟨middle, c :: rest, captures⟩ next = none) :
    run (.both (.repeated (.one set) least none false) last) ⟨before, chars, captures⟩ next =
        some place ↔
      ∃ taken rest, chars = taken ++ rest ∧ (∀ c ∈ taken, set.accepts c = true) ∧
        least ≤ taken.length ∧
        run last ⟨taken.reverse ++ before, rest, captures⟩ next = some place := by
  change run (.repeated (.one set) least none false) ⟨before, chars, captures⟩
    (fun middle => run last middle next) = some place ↔ _
  rw [run_repeated_one, run_many_eq_some hlast]

theorem groupCount_spelled (text : List Char) (last : Pattern) :
    (spelled text last).groupCount = last.groupCount := by
  induction text with
  | nil => rfl
  | cons c text ih =>
      change max 0 (spelled text last).groupCount = last.groupCount
      rw [ih, Nat.zero_max]

end Dalvik.Pattern
