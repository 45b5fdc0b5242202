import Dalvik.Proofs.MethodCalls
import Dalvik.Proofs.Switches

/-!
# Conditional branches

A branch that compares two integers goes to its label exactly where the relation holds that it is
named for, and on to the next line elsewhere; so one of two opposite branches goes to the label, and
the other does not. A branch that compares with zero does what the branch on two registers does
whose second register holds zero, whatever the first one holds.
-/

namespace Dalvik

/-! ### Relations of integers -/

namespace Comparison

/-- What a comparison says of two integers. -/
def Relates (test : Comparison) (x y : Int) : Prop :=
  match test with
  | .lt => x < y
  | .le => x ≤ y
  | .eq => x = y
  | .ne => x ≠ y
  | .gt => x > y
  | .ge => x ≥ y

instance (test : Comparison) (x y : Int) : Decidable (test.Relates x y) :=
  match test with
  | .lt => inferInstanceAs (Decidable (x < y))
  | .le => inferInstanceAs (Decidable (x ≤ y))
  | .eq => inferInstanceAs (Decidable (x = y))
  | .ne => inferInstanceAs (Decidable (x ≠ y))
  | .gt => inferInstanceAs (Decidable (x > y))
  | .ge => inferInstanceAs (Decidable (x ≥ y))

/-- The comparison that is made to tell the other cases. -/
def opposite : Comparison → Comparison
  | .lt => .ge
  | .le => .gt
  | .eq => .ne
  | .ne => .eq
  | .gt => .le
  | .ge => .lt

theorem relates_opposite_iff (test : Comparison) (x y : Int) :
    test.opposite.Relates x y ↔ ¬test.Relates x y := by
  cases test <;> simp only [opposite, Relates] <;> omega

theorem holds_compare_iff (test : Comparison) (x y : Int) :
    test.holds (Ord.compare x y) = true ↔ test.Relates x y := by
  cases test with
  | lt => rw [holds, beq_iff_eq, Std.compare_eq_lt, Relates]
  | gt => rw [holds, beq_iff_eq, Std.compare_eq_gt, Relates]
  | eq => rw [holds, beq_iff_eq, Std.compare_eq_iff_eq, Relates]
  | ne => rw [holds, bne_iff_ne, ne_eq, Std.compare_eq_iff_eq, Relates]
  | le => rw [holds, bne_iff_ne, ne_eq, Std.compare_eq_gt, Relates]; omega
  | ge => rw [holds, bne_iff_ne, ne_eq, Std.compare_eq_lt, Relates]; omega

end Comparison

namespace Value

theorem equal_int (heap : Heap) (x y : Int) :
    equal heap (.int x) (.int y) = .ok (decide (x = y)) := by
  obtain ⟨fuel, hfuel⟩ : ∃ fuel, depthLimit = fuel + 1 := ⟨_, rfl⟩
  have hequal : equalWithin heap depthLimit (.int x) (.int y) =
      .ok (some (some (Ord.compare x y)) == some (some .eq)) := by
    rw [hfuel]
    rfl
  rw [equal, hequal]
  congr 1
  rw [Bool.eq_iff_iff, beq_iff_eq, decide_eq_true_iff, Option.some.injEq, Option.some.injEq,
    Std.compare_eq_iff_eq]

theorem compare_ints (heap : Heap) (test : Comparison) (x y : Int) :
    (Value.int x).compare heap test (.int y) = .ok (decide (test.Relates x y)) := by
  by_cases hequality : test = .eq ∨ test = .ne
  · rcases hequality with rfl | rfl
    · exact equal_int heap x y
    · rw [compare, equal_int]
      exact congrArg Except.ok decide_not.symm
  · rw [not_or] at hequality
    rw [compare_int heap hequality]
    congr 1
    rw [Bool.eq_iff_iff, decide_eq_true_iff, Comparison.holds_compare_iff]

end Value

/-! ### What a branch does -/

namespace Instruction

variable {machine : Machine} {test : Comparison} {left right label : String} {x y index : Int}

theorem outcome_branch_int (hleft : machine.intAt? left = some x)
    (hright : machine.intAt? right = some y) (hlabel : machine.labels.get? label = some index) :
    (branch test left right label).outcome machine =
      .ok { machine with pc := if test.Relates x y then index else machine.pc } := by
  have hjump : machine.jumpTo label = .ok { machine with pc := index } := by
    simp only [Machine.jumpTo, hlabel]
  simp only [outcome, Machine.read_eq_ok.mpr (Machine.intAt?_eq_some.mp hleft),
    Machine.read_eq_ok.mpr (Machine.intAt?_eq_some.mp hright), Emulator.lift_ok_bind,
    Value.compare_ints, decide_eq_true_eq, hjump]
  split <;> rfl

/-- Comparing with zero is comparing with a register that holds it. -/
theorem outcome_branchZero (test : Comparison) (left label : String)
    (hright : machine.intAt? right = some 0) :
    (branchZero test left label).outcome machine =
      (branch test left right label).outcome machine := by
  simp only [outcome, Machine.read_eq_ok.mpr (Machine.intAt?_eq_some.mp hright),
    Emulator.lift_ok_bind]

end Instruction

namespace Emulator

variable {first second : Emulator} {line other : String}

/-- A report that has a line to show leaves the machine alone. -/
theorem report_congr (hsame : second.machine = first.machine)
    (hfirst : first.lineAt (first.machine.pc - 1) = .ok line)
    (hsecond : second.lineAt (second.machine.pc - 1) = .ok other) (message : String) :
    (second.report message : Emulator × Ending Unit).1.machine =
        (first.report message : Emulator × Ending Unit).1.machine ∧
      (second.report message : Emulator × Ending Unit).2 = (first.report message).2 := by
  rw [report_of_line hfirst, report_of_line hsecond]
  exact ⟨hsame, rfl⟩

/-- Throwing depends on the machine alone, once there is a line for a report. -/
theorem throw_congr (hsame : second.machine = first.machine)
    (hfirst : first.lineAt (first.machine.pc - 1) = .ok line)
    (hsecond : second.lineAt (second.machine.pc - 1) = .ok other) (cause : Fault) :
    (second.throw cause).1.machine = (first.throw cause).1.machine ∧
      (second.throw cause).2 = (first.throw cause).2 := by
  rw [hsame] at hsecond
  unfold throw
  simp only [hsame]
  cases (first.machine.keep cause).catcher? with
  | some block =>
      rcases Action.enter_cases block (first.machine.keep cause) with
        ⟨label, index, -, -, henter⟩ | ⟨-, henter⟩
      · simp only [perform, henter, and_self]
      · simp only [perform, henter, and_self]
  | none =>
      cases cause.text with
      | error obstacle => exact ⟨rfl, rfl⟩
      | ok text =>
          exact @report_congr { first with machine := first.machine.keep cause }
            { second with machine := first.machine.keep cause } line other rfl hfirst hsecond _

/-- What becomes of an outcome depends on the machine alone, once there is a line for a report. -/
theorem settle_congr (hsame : second.machine = first.machine)
    (hfirst : first.lineAt (first.machine.pc - 1) = .ok line)
    (hsecond : second.lineAt (second.machine.pc - 1) = .ok other) (outcome : Except Halt Machine) :
    (second.settle outcome).1.machine = (first.settle outcome).1.machine ∧
      (second.settle outcome).2 = (first.settle outcome).2 := by
  cases outcome with
  | ok after => exact ⟨rfl, rfl⟩
  | error halt =>
      cases halt with
      | fault cause => exact throw_congr hsame hfirst hsecond cause
      | fatal message =>
          rw [settle_fatal hfirst, settle_fatal hsecond]
          exact report_congr hsame hfirst hsecond message

/-- Two lines do the same to one machine if their instructions do. -/
theorem Executes.step_congr {instruction counterpart : Instruction}
    (hfirst : first.Executes line instruction) (hsecond : second.Executes other counterpart)
    (hsame : second.machine = first.machine)
    (houtcome : counterpart.outcome first.advance.machine =
      instruction.outcome first.advance.machine) :
    (second.step other).1.machine = (first.step line).1.machine ∧
      (second.step other).2 = (first.step line).2 := by
  have hadvance : second.advance.machine = first.advance.machine := by
    simp only [advance, hsame]
  rw [hfirst.step_eq, hsecond.step_eq, hadvance, houtcome]
  refine settle_congr ?_ (lineAt_trace_advance hfirst.next) (lineAt_trace_advance hsecond.next) _
  rw [trace_machine, trace_machine, hadvance]

/-- A branch over two integers does nothing but go on where their relation tells it to. -/
theorem Executes.branch_completes {test : Comparison} {left right label : String} {x y index : Int}
    (hexecutes : first.Executes line (.branch test left right label))
    (hleft : first.machine.intAt? left = some x) (hright : first.machine.intAt? right = some y)
    (hlabel : first.machine.labels.get? label = some index) :
    first.Completes line { first.machine with
      pc := if test.Relates x y then index else first.machine.pc + 1 } :=
  hexecutes.step_of_ok
    (@Instruction.outcome_branch_int first.advance.machine _ _ _ _ _ _ _ hleft hright hlabel)

/-- **Conditional branches.** A line with the name of a relation, two registers and a label executes
the branch on these, and with a `z` behind the name the branch on one register and zero. On two
integers a branch goes to its label if they stand in the relation and on to the next line if not,
while the opposite branch does it the other way round. A branch on zero does the same as the one on
a second register that holds zero, also where the first one holds no integer: it leaves the same
machine, with the same fault kept if one is raised, and ends in the same way. -/
theorem branches_exact :
    (∀ (state : Emulator) (line : String) (gaps : Nat → Gap) (test : Comparison)
      (left right : Token) (label : JumpLabel), state.nextLine? = some line →
      (line = "if-" ++ test.mnemonic ++ " " ++ joined gaps 0 [left, right, label.toToken] →
        state.Executes line (.branch test left.text right.text label.text)) ∧
      (line = "if-" ++ test.mnemonic ++ "z" ++ " " ++ joined gaps 0 [left, label.toToken] →
        state.Executes line (.branchZero test left.text label.text))) ∧
    ∀ (state twin : Emulator) (line other : String) (test : Comparison)
      (left right label : String), twin.machine = state.machine →
      state.Executes line (.branch test left right label) →
      (∀ x y index, state.machine.intAt? left = some x → state.machine.intAt? right = some y →
        state.machine.labels.get? label = some index →
        state.Completes line { state.machine with
          pc := if test.Relates x y then index else state.machine.pc + 1 } ∧
        (twin.Executes other (.branch test.opposite left right label) →
          twin.Completes other { state.machine with
            pc := if test.Relates x y then state.machine.pc + 1 else index })) ∧
      (state.machine.intAt? right = some 0 → twin.Executes other (.branchZero test left label) →
        (twin.step other).1.machine = (state.step line).1.machine ∧
          (twin.step other).2 = (state.step line).2) := by
  refine ⟨fun state line gaps test left right label hnext => ⟨fun hline => ?_, fun hline => ?_⟩, ?_⟩
  · exact Executes.of_print gaps (.branch test left right label) hnext hline.symm
  · exact Executes.of_print gaps (.branchZero test left label) hnext hline.symm
  intro state twin line other test left right label hsame hexecutes
  refine ⟨fun x y index hleft hright hlabel => ⟨?_, fun hopposite => ?_⟩, fun hzero hother => ?_⟩
  · exact hexecutes.branch_completes hleft hright hlabel
  · rw [← hsame] at hleft hright hlabel ⊢
    have hcompletes := hopposite.branch_completes hleft hright hlabel
    simpa only [Comparison.relates_opposite_iff, ite_not] using hcompletes
  · exact hexecutes.step_congr hother hsame (Instruction.outcome_branchZero test left label hzero)

/-- A text, zero and a negative number, before a line of its own. -/
def comparing (line : String) : Emulator where
  machine :=
    { registers := [("v0", .text "a"), ("v1", .int 0), ("v2", .int (-3))], labels := [(":a", 7)] }
  source := some [line]

theorem colon_comparing : ∃ name, ":a".toList = ':' :: name ∧ name ≠ [] :=
  ⟨['a'], by decide, by decide⟩

theorem branches_exact_comparing :
    (comparing "if-lt v2, v1, :a").Completes "if-lt v2, v1, :a"
        { (comparing "").machine with pc := 7 } ∧
      (comparing "if-ge v2, v1, :a").Completes "if-ge v2, v1, :a"
        { (comparing "").machine with pc := 1 } ∧
      ((comparing "if-ltz v0, :a").step "if-ltz v0, :a").1.machine =
        ((comparing "if-lt v0, v1, :a").step "if-lt v0, v1, :a").1.machine ∧
      ((comparing "if-lt v0, v1, :a").step "if-lt v0, v1, :a").1.machine.pending =
        [⟨.unordered "<" .text .int, 0⟩] := by
  obtain ⟨hlines, hbranches⟩ := branches_exact
  let label : JumpLabel := ⟨⟨":a", by decide, by decide⟩, colon_comparing⟩
  let text : Token := ⟨"v0", by decide, by decide⟩
  let zero : Token := ⟨"v1", by decide, by decide⟩
  let negative : Token := ⟨"v2", by decide, by decide⟩
  have hless := (hlines (comparing "if-lt v2, v1, :a") _ spaced .lt negative zero label rfl).1
    (by decide +kernel)
  have hnotLess := (hlines (comparing "if-ge v2, v1, :a") _ spaced .ge negative zero label rfl).1
    (by decide +kernel)
  have htext := (hlines (comparing "if-lt v0, v1, :a") _ spaced .lt text zero label rfl).1
    (by decide +kernel)
  have htextZero := (hlines (comparing "if-ltz v0, :a") _ spaced .lt text zero label rfl).2
    (by decide +kernel)
  obtain ⟨hjumps, hpasses⟩ := (hbranches (comparing "if-lt v2, v1, :a")
    (comparing "if-ge v2, v1, :a") _ "if-ge v2, v1, :a" _ _ _ _ rfl hless).1 (-3) 0 7 rfl rfl rfl
  have hsame := ((hbranches (comparing "if-lt v0, v1, :a") (comparing "if-ltz v0, :a") _
    "if-ltz v0, :a" _ _ _ _ rfl htext).2 rfl htextZero).1
  refine ⟨hjumps, hpasses hnotLess, hsame, ?_⟩
  rw [htext.step_eq]
  rfl

end Emulator

end Dalvik
