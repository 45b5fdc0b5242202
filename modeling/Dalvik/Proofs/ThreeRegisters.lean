import Dalvik.Proofs.Dispatch
import Dalvik.Proofs.MethodCalls

/-!
# Bitwise operations on three registers

A conjunction and a disjunction take two registers and give a third one the result. The line of an
exclusive or is written in the same way, but its form has two operands only. They are divided at the
last comma, so that the first of them is the text of two registers with the comma between them.
-/

namespace Dalvik

namespace Form

open Pattern

/-- Two operands are divided at the last comma. -/
theorem run_divided_two {first : List Char} (gaps : Nat → Gap) (last : Token) (before : List Char)
    (hline : ∀ c ∈ first, CharSet.inLine.accepts c = true) (hne : first ≠ []) :
    ∃ place, run (divided [operand 1, operand 2])
        ⟨before, first ++ ',' :: ((gaps 1).text.toList ++ last.text.toList), []⟩ some =
          some place ∧
      place.groups 2 = [some (String.ofList first), some last.text] := by
  have hfits : Fits 2 [operand 2] [last] := .operand last .nil
  obtain ⟨place, hplace, hholds⟩ := run_divided gaps 2
    ((gaps 1).text.toList.reverse ++ ',' :: (first.reverse ++ before))
    [(1, ⟨first ++ ',' :: ((gaps 1).text.toList ++ last.text.toList),
      ',' :: ((gaps 1).text.toList ++ last.text.toList)⟩)] hfits
  have hfirst : place.group? 1 = some (String.ofList first) := by
    rw [Place.group?, hholds.kept 1 (by decide), List.lookup_cons_self, Option.map_some,
      Capture.text_append]
  have hlast : place.group? 2 = some last.text := hholds.groups 0 last rfl
  have hgap : Takes (.many .blank 0) (gaps 1).text.toList last.text.toList [] :=
    takes_many (fun c hmem => (gaps 1).isBlank hmem) (Nat.zero_le _) fun c hhead =>
      last.not_blank (List.mem_of_head? hhead)
  refine ⟨place, ?_, by rw [← hfirst, ← hlast]; rfl⟩
  refine manyFrom_of_longest hline (List.length_pos_iff.mpr hne)
    (hgap _ _ (fun middle => run (divided [operand 2]) middle some) place hplace) ?_
  intro c more left hmore _ middle
  -- behind the last comma there is none for a second operand
  have hbehind : (gaps 1).text.toList ++ last.text.toList = more ++ left := (List.cons.inj hmore).2
  have hcount : (more ++ left).count ',' = 0 := by
    rw [← hbehind, List.count_append, List.count_eq_zero.mpr (gaps 1).not_comma,
      List.count_eq_zero.mpr last.not_comma]
  rw [List.count_append] at hcount
  have hnone : left.count ',' < [operand 2].length := by
    rw [List.length_singleton]
    omega
  exact run_separated_eq_none hfits hnone

end Form

/-- An exclusive or with three operands, written as the other operations with three are. -/
def xorOfThree (gaps : Nat → Gap) (target left right : Token) : String :=
  "xor-int" ++ " " ++ joined gaps 0 [target, left, right]

section Reading

open Pattern

variable (gaps : Nat → Gap) (target left right : Token)

/-- The first operand is all that stands before the last comma. -/
theorem read?_xorOfThree :
    Form.xorInto.read? (xorOfThree gaps target left right) =
      some (.xorInto (joined gaps 0 [target, left]) right.text) := by
  have hbody : (joined gaps 0 [target, left, right]).toList =
      (joined gaps 0 [target, left]).toList ++
        ',' :: ((gaps 1).text.toList ++ right.text.toList) := by
    simp [joined]
  have hne : (joined gaps 0 [target, left]).toList ≠ [] := by
    simp [joined]
  have hmnemonic : Takes (.both (text "xor-int") (optional (text "/2addr"))) "xor-int".toList
      (' ' :: (joined gaps 0 [target, left, right]).toList) [] :=
    Form.takes_withEnding "xor-int" "/2addr" false _ (by simp)
  obtain ⟨place, hplace, hgroups⟩ := Form.run_divided_two gaps right
    (' ' :: "xor-int".toList.reverse) (fun c hmem => Form.joined_inLine hmem) hne
  rw [← hbody] at hplace
  have hsearch := Form.search_spaced hmnemonic (takes_text " " _) hplace
  have hcount : Form.xorInto.pattern.groupCount = 2 := by decide
  have hcaught : Form.xorInto.groups? (xorOfThree gaps target left right) =
      some [some (joined gaps 0 [target, left]), some right.text] := by
    rw [Form.groups?, groupsIn, hcount, xorOfThree]
    rw [String.ofList_toList] at hgroups
    rw [← hgroups]
    exact congrArg (Option.map _) hsearch
  rw [Form.read?, hcaught]
  simp only [Option.bind_eq_bind, Option.bind_some, List.map_cons, List.map_nil, Option.map_some,
    strip_joined, Token.strip_text]
  rfl

theorem not_infix_xorOfThree {word head : String}
    (hword : word = "array-length" ∨ word = "fill-array-data") (hhead : head = word ++ " ") :
    ¬head.toList <:+: (xorOfThree gaps target left right).toList := by
  have hspaced : Spaced (' ' :: (joined gaps 0 [target, left, right]).toList) :=
    Statement.spaced_body (.arithmetic .and target left right) gaps
  obtain ⟨last, hlast, hsolid⟩ : ∃ last, word.toList.getLast? = some last ∧
      ¬(last = ',' ∨ last = ' ' ∨ last = '\t') := by
    rcases hword with rfl | rfl
    · exact ⟨'h', by decide, by decide⟩
    · exact ⟨'a', by decide, by decide⟩
  have hother : ¬word.toList <:+: "xor-int".toList := by
    rcases hword with rfl | rfl <;> decide
  rw [hhead]
  simpa [xorOfThree] using not_infix_of_spaced hlast hsolid hother hspaced

theorem ofLine?_xorOfThree :
    Instruction.ofLine? (xorOfThree gaps target left right) =
      some (.xorInto (joined gaps 0 [target, left]) right.text) := by
  have hread := read?_xorOfThree gaps target left right
  rw [Instruction.ofLine?]
  refine Form.findSome?_eq_of_unique (Form.mem_all .xorInto) hread fun other found hother => ?_
  have hgroups := Form.groups?_isSome_of_read? hother
  have hloose : other.isLoose = false :=
    Form.isLoose_eq_false_of_groups?
      (not_infix_xorOfThree gaps target left right (.inl rfl) (by decide))
      (not_infix_xorOfThree gaps target left right (.inr rfl) (by decide)) hgroups
  exact Form.eq_of_mnemonic_eq hloose rfl rfl hgroups (Form.groups?_isSome_of_read? hread)

/-- No operand is the text of two of them. -/
theorem ne_joined : target.text ≠ joined gaps 0 [target, left] := by
  intro hsame
  refine target.not_comma ?_
  rw [hsame]
  simp [joined]

end Reading

namespace Emulator

variable {emulator : Emulator} (gaps : Nat → Gap) (target left : Token) {right : Token} {z : Int}

/-- An exclusive or with three operands changes the register that has the text of the first two as
its name; without one, it throws the fault of reading it. -/
theorem gives_xorOfThree (hright : emulator.machine.intAt? right.text = some z) :
    emulator.Gives (xorOfThree gaps target left right) (joined gaps 0 [target, left])
      (emulator.machine.read (joined gaps 0 [target, left]) >>= fun x =>
        x.xorInPlace emulator.machine.heap (.int z)) := by
  apply gives_of_read (ofLine?_xorOfThree gaps target left right)
  rw [← lift_writeFrom]
  simp only [Instruction.outcome, Machine.read_eq_ok.mpr (Machine.intAt?_eq_some.mp hright),
    lift_ok_bind]
  cases emulator.machine.read (joined gaps 0 [target, left]) <;> rfl

/-- What an exclusive or with three operands does, it does to another register. -/
theorem get?_xorOfThree (hright : emulator.machine.intAt? right.text = some z) :
    (emulator.executeLine (xorOfThree gaps target left right)).1.machine.registers.get?
      target.text = emulator.machine.registers.get? target.text := by
  have hgives := gives_xorOfThree gaps target left hright
  generalize emulator.machine.read (joined gaps 0 [target, left]) >>= (fun x =>
    x.xorInPlace emulator.machine.heap (.int z)) = result at hgives
  cases result with
  | ok made =>
      rw [hgives.of_ok.1]
      exact Table.get?_insert_of_ne _ made.1 (ne_joined gaps target left)
  | error cause => rw [hgives.of_error.1]

/-- **Bitwise operations on three registers.** A conjunction and a disjunction give their target the
result and change nothing else. An exclusive or never changes its target: the register that it is
about is the one named by the text of target and first operand together. -/
theorem bitwise_of_three_registers (emulator : Emulator) (gaps : Nat → Gap)
    (target left right : Token) (y z : Int)
    (hleft : emulator.machine.intAt? left.text = some y)
    (hright : emulator.machine.intAt? right.text = some z) :
    emulator.Gives ((Statement.arithmetic .and target left right).print gaps) target.text
        (.ok (.int (Int.land y z), emulator.machine.heap)) ∧
      emulator.Gives ((Statement.arithmetic .or target left right).print gaps) target.text
        (.ok (.int (Int.lor y z), emulator.machine.heap)) ∧
      emulator.Gives (xorOfThree gaps target left right) (joined gaps 0 [target, left])
        (emulator.machine.read (joined gaps 0 [target, left]) >>= fun x =>
          x.xorInPlace emulator.machine.heap (.int z)) ∧
      (emulator.executeLine (xorOfThree gaps target left right)).1.machine.registers.get?
        target.text = emulator.machine.registers.get? target.text := by
  have hgives : ∀ operation : Arithmetic,
      emulator.Gives ((Statement.arithmetic operation target left right).print gaps) target.text
        (operation.apply emulator.machine.heap (.int y) (.int z)) := fun _ =>
    gives_arithmetic gaps (Machine.intAt?_eq_some.mp hleft) (Machine.intAt?_eq_some.mp hright)
  refine ⟨?_, ?_, gives_xorOfThree gaps target left hright, get?_xorOfThree gaps target left hright⟩
  · have hand := hgives .and
    rwa [Arithmetic.apply_int _ rfl] at hand
  · have hor := hgives .or
    rwa [Arithmetic.apply_int _ rfl] at hor

/-- Two numbers that share one of their bits. -/
def holdingSharedBit : Emulator where
  machine := { registers := [("v1", .int 6), ("v2", .int 3)] }

theorem bitwise_of_three_registers_holdingSharedBit :
    holdingSharedBit.Gives "and-int v0, v1, v2" "v0" (.ok (.int 2, {})) ∧
      holdingSharedBit.Gives "or-int v0, v1, v2" "v0" (.ok (.int 7, {})) ∧
      holdingSharedBit.Gives "xor-int v0, v1, v2" "v0, v1" (.error (.missing "'v0, v1'")) := by
  obtain ⟨hand, hor, hxor, -⟩ := bitwise_of_three_registers holdingSharedBit spaced
    ⟨"v0", by decide, by decide⟩ ⟨"v1", by decide, by decide⟩ ⟨"v2", by decide, by decide⟩ 6 3
    rfl rfl
  have hlines : (Statement.arithmetic .and ⟨"v0", by decide, by decide⟩
        ⟨"v1", by decide, by decide⟩ ⟨"v2", by decide, by decide⟩).print spaced =
          "and-int v0, v1, v2" ∧
      (Statement.arithmetic .or ⟨"v0", by decide, by decide⟩ ⟨"v1", by decide, by decide⟩
        ⟨"v2", by decide, by decide⟩).print spaced = "or-int v0, v1, v2" ∧
      xorOfThree spaced ⟨"v0", by decide, by decide⟩ ⟨"v1", by decide, by decide⟩
        ⟨"v2", by decide, by decide⟩ = "xor-int v0, v1, v2" ∧
      joined spaced 0 [⟨"v0", by decide, by decide⟩, ⟨"v1", by decide, by decide⟩] =
        "v0, v1" := by
    decide +kernel
  have hmissing : holdingSharedBit.machine.read "v0, v1" = .error (.missing "'v0, v1'") :=
    congrArg (fun shown => Except.error (Fault.missing shown))
      (show Text.quote "v0, v1" = "'v0, v1'" by decide +kernel)
  rw [hlines.1] at hand
  rw [hlines.2.1] at hor
  rw [hlines.2.2.1, hlines.2.2.2, hmissing] at hxor
  exact ⟨hand, hor, hxor⟩

/-- An exclusive or of three registers does not give its target the result. -/
theorem xorOfThree_not_given :
    ¬∀ (emulator : Emulator) (gaps : Nat → Gap) (target left right : Token) (y z : Int),
      emulator.machine.intAt? left.text = some y → emulator.machine.intAt? right.text = some z →
        emulator.Gives (xorOfThree gaps target left right) target.text
          (.ok (.int (Int.xor y z), emulator.machine.heap)) := by
  intro hgives
  have hright : holdingSharedBit.machine.intAt? "v2" = some 3 := rfl
  have hgiven := (hgives holdingSharedBit spaced ⟨"v0", by decide, by decide⟩
    ⟨"v1", by decide, by decide⟩ ⟨"v2", by decide, by decide⟩ 6 3 rfl hright).get?_of_ok
  rw [get?_xorOfThree spaced _ _ hright] at hgiven
  cases hgiven

end Emulator

end Dalvik
