import Dalvik.Proofs.Outcomes
import Dalvik.Proofs.WrittenSums
import Mathlib.Data.Int.Bitwise

/-!
# Arithmetic on integers

Instructions calculate with integers of any size: sums, differences and products are exact, bitwise
operations take a negative integer as endless two's complement, and a shift to the left is a product
with a power of two. The forms with a literal calculate the same, although sums and products with a
literal are first written down and then evaluated.
-/

namespace Dalvik

namespace Number

/-! ### Bits -/

/-- The bits that a number shares with another and those that it does not make it up. -/
theorem ldiff_add_and (m n : Nat) : Nat.ldiff m n + (m &&& n) = m := by
  induction m using Nat.binaryRec generalizing n with
  | zero =>
      have hldiff : Nat.ldiff 0 n = 0 := Nat.eq_of_testBit_eq fun i => by simp
      rw [hldiff, Nat.zero_and]
  | bit a m ih =>
      cases n using Nat.bitCasesOn with
      | bit b n =>
          have hrest := ih n
          rw [Nat.ldiff_bit, Nat.land_bit]
          simp only [Nat.bit_val]
          cases a <;> cases b <;> simp <;> omega

theorem sub_and (m n : Nat) : m - (m &&& n) = Nat.ldiff m n := by
  have hparts := ldiff_add_and m n
  omega

theorem bitAnd_eq_land (m n : Int) : bitAnd m n = Int.land m n := by
  cases m with
  | ofNat m =>
      cases n with
      | ofNat n => rfl
      | negSucc n => rw [bitAnd, sub_and, Int.land]
  | negSucc m =>
      cases n with
      | ofNat n => rw [bitAnd, Nat.and_comm, sub_and, Int.land]
      | negSucc n => rfl

theorem bitOr_eq_lor (m n : Int) : bitOr m n = Int.lor m n := by
  cases m with
  | ofNat m =>
      cases n with
      | ofNat n => rfl
      | negSucc n => rw [bitOr, Nat.and_comm, sub_and, Int.lor]
  | negSucc m =>
      cases n with
      | ofNat n => rw [bitOr, sub_and, Int.lor]
      | negSucc n => rfl

theorem bitXor_eq_xor (m n : Int) : bitXor m n = Int.xor m n := by
  cases m <;> cases n <;> rfl

theorem shiftLeft_eq (n : Int) (count : Nat) : shiftLeft n count = n * 2 ^ count := by
  rw [shiftLeft, Nat.pow_eq, Int.natCast_pow]
  rfl

end Number

/-! ### Operations -/

/-- The operations that make an integer of two integers. -/
inductive IntOperation where
  | add
  | sub
  | mul
  | rem
  | and
  | or
  | xor
  | shl
deriving DecidableEq, Repr

namespace IntOperation

def operator : IntOperation → Operator
  | add => .add
  | sub => .sub
  | mul => .mul
  | rem => .mod
  | and => .and
  | or => .or
  | xor => .xor
  | shl => .shl

/-- What an operation makes of two integers; there is no remainder of a division by zero, and no
shift by a negative count. -/
def result (left right : Int) : IntOperation → Except Fault Int
  | add => .ok (left + right)
  | sub => .ok (left - right)
  | mul => .ok (left * right)
  | rem => if right = 0 then .error .moduloByZero else .ok (Int.fmod left right)
  | and => .ok (Int.land left right)
  | or => .ok (Int.lor left right)
  | xor => .ok (Int.xor left right)
  | shl => if right < 0 then .error .negativeShift else .ok (left * 2 ^ right.toNat)

/-- A shift count that is carried out for every number. -/
def Bounded (right : Int) (operation : IntOperation) : Prop :=
  operation = .shl → right ≤ Value.maxShift

end IntOperation

theorem Value.operate_int (heap : Heap) (operation : IntOperation) {left right : Int}
    (hbounded : operation.Bounded right) :
    (Value.int left).operate heap operation.operator (.int right) =
      (operation.result left right).map fun value => (.int value, heap) := by
  cases operation with
  | add => rfl
  | sub => rfl
  | mul => rfl
  | rem =>
      change ((if right = 0 then _ else _ : Except Fault Numeric).map heap.newNumber) = _
      rw [IntOperation.result]
      split <;> rfl
  | and =>
      rw [IntOperation.result, ← Number.bitAnd_eq_land]
      rfl
  | or =>
      rw [IntOperation.result, ← Number.bitOr_eq_lor]
      rfl
  | xor =>
      rw [IntOperation.result, ← Number.bitXor_eq_xor]
      rfl
  | shl =>
      have hmax := hbounded rfl
      change (if right < 0 then _ else _) = _
      rw [IntOperation.result]
      split
      · rfl
      · simp only [if_pos hmax, Number.shiftLeft_eq]
        split
        · rename_i hzero
          rw [hzero, Int.zero_mul]
        · rfl

namespace Arithmetic

/-- The operation on integers; a quotient need not be an integer. -/
def intOperation? : Arithmetic → Option IntOperation
  | .add => some .add
  | .sub => some .sub
  | .mul => some .mul
  | .div => none
  | .rem => some .rem
  | .and => some .and
  | .or => some .or

theorem apply_int (heap : Heap) {operation : Arithmetic} {onInts : IntOperation} {left right : Int}
    (honInts : operation.intOperation? = some onInts) :
    operation.apply heap (.int left) (.int right) =
      (onInts.result left right).map fun value => (.int value, heap) := by
  have hbounded : onInts.Bounded right := by
    rintro rfl
    cases operation <;> cases honInts
  rw [← Value.operate_int heap onInts hbounded]
  cases operation <;> cases honInts <;> rfl

end Arithmetic

namespace LiteralArithmetic

def intOperation? : LiteralArithmetic → Option IntOperation
  | .add => some .add
  | .mul => some .mul
  | .div => none
  | .rem => some .rem
  | .and => some .and
  | .xor => some .xor
  | .shl => some .shl

/-- Whether the operation is carried out on the text of the number. -/
def isWritten : LiteralArithmetic → Bool
  | .add | .mul => true
  | _ => false

end LiteralArithmetic

namespace Machine

/-- The integer that a register holds. -/
def intAt? (machine : Machine) (register : String) : Option Int :=
  match machine.registers.get? register with
  | some (.int n) => some n
  | _ => none

theorem intAt?_eq_some {machine : Machine} {register : String} {n : Int} :
    machine.intAt? register = some n ↔ machine.registers.get? register = some (.int n) := by
  unfold intAt?
  split
  · rename_i found hfound
    rw [hfound, Option.some.injEq, Option.some.injEq, Value.int.injEq]
  · rename_i hother
    constructor
    · intro hsome
      cases hsome
    · intro hsome
      exact absurd hsome (hother n)

end Machine

namespace Instruction

variable {machine : Machine} {target source other literal : String} {left right : Int}

theorem plain_int (value : Int) (heap : Heap) :
    (Value.int value).plain heap = Value.intText value := by
  obtain ⟨fuel, hfuel⟩ : ∃ fuel, Value.depthLimit = fuel + 1 := ⟨_, rfl⟩
  change Value.shownWithin heap Value.depthLimit [] (.int value) = _
  rw [hfuel, Value.shownWithin]

theorem written_int (joint : Expr.Joint) (hsource : machine.read source = .ok (.int left))
    (hleft : Number.Printable left) (hliteral : Expr.integer? literal = some right) :
    written machine target source literal joint.symbol =
      .ok (.int (joint.value left right), machine.heap) := by
  have hplain : (Value.int left).plain machine.heap = .ok (toString left) := by
    rw [plain_int, Expr.intText_eq hleft]
  simp only [written, writtenText, hsource, hplain, bind, Except.bind, pure, Except.pure]
  exact Expr.evaluate_joined _ machine.heap joint hleft hliteral

/-- With a literal the operations calculate as they do without one. -/
theorem literalResult_int {operation : LiteralArithmetic} {onInts : IntOperation}
    (honInts : operation.intOperation? = some onInts)
    (hsource : machine.read source = .ok (.int left))
    (hliteral : Expr.integer? literal = some right)
    (hleft : operation.isWritten = true → Number.Printable left) (hright : onInts.Bounded right) :
    literalResult machine operation target source literal =
      (onInts.result left right).map fun value => (.int value, machine.heap) := by
  have hread : machine.literal literal = .ok (.int right, machine.heap) :=
    Expr.readLiteral_integer machine.heap hliteral
  have hoperate : (Value.int left).operate machine.heap onInts.operator (.int right) = _ :=
    Value.operate_int machine.heap onInts hright
  cases operation with
  | add =>
      cases honInts
      exact written_int .sum hsource (hleft rfl) hliteral
  | mul =>
      cases honInts
      exact written_int .product hsource (hleft rfl) hliteral
  | div => cases honInts
  | rem =>
      cases honInts
      simp only [literalResult, hsource, hread]
      exact hoperate
  | and =>
      cases honInts
      simp only [literalResult, hsource, hread]
      exact hoperate
  | xor =>
      cases honInts
      simp only [literalResult, hsource, hread]
      exact hoperate
  | shl =>
      cases honInts
      simp only [literalResult, hsource, hread]
      exact hoperate

/-! ### Outcomes -/

theorem outcome_const_int (hliteral : Expr.integer? literal = some right) :
    (Instruction.const target literal).outcome machine =
      .ok (machine.write target (.int right)) := by
  have hread : machine.literal literal = .ok (.int right, machine.heap) :=
    Expr.readLiteral_integer machine.heap hliteral
  simp only [outcome, hread]
  rfl

theorem outcome_literalArithmetic_int {operation : LiteralArithmetic} {result : Except Fault Int}
    (hresult : literalResult machine operation target source literal =
      result.map fun value => (.int value, machine.heap)) :
    (Instruction.literalArithmetic operation target source literal).outcome machine =
      (result.mapError Halt.fault).map fun value => machine.write target (.int value) := by
  simp only [outcome, hresult]
  cases result <;> rfl

theorem outcome_arithmetic_int {operation : Arithmetic} {onInts : IntOperation}
    (honInts : operation.intOperation? = some onInts)
    (hsource : machine.read source = .ok (.int left))
    (hother : machine.read other = .ok (.int right)) :
    (Instruction.arithmetic operation target source other).outcome machine =
      ((onInts.result left right).mapError Halt.fault).map fun value =>
        machine.write target (.int value) := by
  simp only [outcome, hsource, hother]
  change ((liftM (operation.apply machine.heap (.int left) (.int right)) : Except Halt _) >>= _) = _
  rw [Arithmetic.apply_int machine.heap honInts]
  cases onInts.result left right <;> rfl

theorem outcome_xorInto_int (htarget : machine.read target = .ok (.int left))
    (hother : machine.read other = .ok (.int right)) :
    (Instruction.xorInto target other).outcome machine =
      .ok (machine.write target (.int (Int.xor left right))) := by
  simp only [outcome, htarget, hother, ← Number.bitXor_eq_xor]
  rfl

end Instruction

end Dalvik
