import Dalvik.Proofs.GivenValues
import Mathlib

/-!
# Narrowing

Numbers have no width, so moving one up by three bytes and back again changes nothing: the
conversion to a byte gives the number itself, and that is a byte only where the number was one. The
conversion to a character keeps eight bits of the number, not sixteen.
-/

namespace Dalvik

/-- The low eight bits of a number, the highest of them as a sign. -/
structure IsByteOf (number byte : Int) : Prop where
  low : -128 ≤ byte
  high : byte ≤ 127
  congruent : byte % 256 = number % 256

theorem IsByteOf.eq_iff {number byte : Int} (hbyte : IsByteOf number byte) :
    number = byte ↔ -128 ≤ number ∧ number ≤ 127 := by
  obtain ⟨hlow, hhigh, hcongruent⟩ := hbyte
  constructor
  · rintro rfl
    exact ⟨hlow, hhigh⟩
  · rintro ⟨hmin, hmax⟩
    omega

namespace Number

/-- Shifting back undoes a shift, however far it went. -/
theorem shiftRight_shiftLeft (number : Int) (count : Nat) :
    shiftRight (shiftLeft number count) count = number := by
  have hne : ((Nat.pow 2 count : Nat) : Int) ≠ 0 :=
    Int.natCast_ne_zero.mpr (Nat.ne_of_gt (Nat.two_pow_pos count))
  rw [shiftRight, shiftLeft, Int.mul_fdiv_cancel _ hne]

theorem bitAnd_low (number : Int) : bitAnd number 255 = number % 256 := by
  have hmask : ∀ n : Nat, n &&& 255 = n % 256 := fun n => Nat.and_two_pow_sub_one_eq_mod n 8
  cases number with
  | ofNat n =>
      change ((n &&& 255 : Nat) : Int) = (n : Int) % 256
      rw [hmask]
      rfl
  | negSucc n =>
      change ((255 - (n &&& 255) : Nat) : Int) = Int.negSucc n % 256
      rw [hmask]
      omega

end Number

namespace Text

theorem toNat_ofCode {code : Nat} (hcode : code < 0x10000) :
    (ofCode code).toNat = if isSurrogate code then code + surrogateShift else code := by
  rw [ofCode]
  split
  · rename_i hsurrogate
    simp only [isSurrogate, Bool.and_eq_true, decide_eq_true_eq] at hsurrogate
    rw [Char.toNat_ofNat, if_pos]
    simp only [surrogateShift, Nat.isValidChar]
    omega
  · rename_i hsurrogate
    simp only [isSurrogate, Bool.and_eq_true, decide_eq_true_eq] at hsurrogate
    rw [Char.toNat_ofNat, if_pos]
    simp only [Nat.isValidChar]
    omega

end Text

namespace Instruction

variable {machine : Machine} {target source : String} {number : Int}

theorem byteOf_int (number : Int) : byteOf (.int number) = .ok (.int number) := by
  change Except.ok (Value.int (Number.shiftRight (Number.shiftLeft number 24) 24)) = _
  rw [Number.shiftRight_shiftLeft]

theorem lowChar_int (number : Int) :
    lowChar (.int number) = .ok (Value.ofChar (Char.ofNat (number % 256).toNat)) := by
  change Except.ok (Value.ofChar (Char.ofNat (Number.bitAnd number 255).toNat)) = _
  rw [Number.bitAnd_low]

theorem outcome_byte (hsource : machine.read source = .ok (.int number)) :
    (Instruction.convert "byte" target source).outcome machine =
      .ok (machine.write target (.int number)) := by
  simp only [outcome, narrowOutcome, hsource, Emulator.lift_ok_bind, byteOf_int]
  rfl

theorem outcome_char (hsource : machine.read source = .ok (.int number)) :
    (Instruction.convert "char" target source).outcome machine =
      .ok (machine.write target (Value.ofChar (Char.ofNat (number % 256).toNat))) := by
  simp only [outcome, narrowOutcome, hsource, Emulator.lift_ok_bind, lowChar_int]
  rfl

end Instruction

namespace Emulator

/-- What a register holds after a line. -/
def heldAfter (emulator : Emulator) (line register : String) : Option Value :=
  (emulator.executeLine line).1.machine.registers.get? register

variable {emulator : Emulator} {target source : Token} {number : Int}

theorem gives_byte (gaps : Nat → Gap)
    (hsource : emulator.machine.registers.get? source.text = some (.int number)) :
    emulator.Gives ((Statement.convert ItemKind.byte.letters target source).print gaps)
      target.text (.ok (.int number, emulator.machine.heap)) :=
  gives_print gaps (Instruction.outcome_byte (Machine.read_eq_ok.mpr hsource))

theorem gives_char (gaps : Nat → Gap)
    (hsource : emulator.machine.registers.get? source.text = some (.int number)) :
    emulator.Gives ((Statement.convert ItemKind.char.letters target source).print gaps)
      target.text
      (.ok (Value.ofChar (Char.ofNat (number % 256).toNat), emulator.machine.heap)) :=
  gives_print gaps (Instruction.outcome_char (Machine.read_eq_ok.mpr hsource))

theorem heldAfter_byte (gaps : Nat → Gap)
    (hsource : emulator.machine.registers.get? source.text = some (.int number)) :
    emulator.heldAfter ((Statement.convert ItemKind.byte.letters target source).print gaps)
      target.text = some (.int number) :=
  (gives_byte gaps hsource).get?_of_ok

theorem heldAfter_char (gaps : Nat → Gap)
    (hsource : emulator.machine.registers.get? source.text = some (.int number)) :
    emulator.heldAfter ((Statement.convert ItemKind.char.letters target source).print gaps)
      target.text = some (Value.ofChar (Char.ofNat (number % 256).toNat)) :=
  (gives_char gaps hsource).get?_of_ok

theorem ofChar_inj {c d : Char} : Value.ofChar c = Value.ofChar d ↔ c = d := by
  simp [Value.ofChar]

/-- Characters of eight bits are told apart by them. -/
theorem lowChar_eq_iff (number other : Int) :
    Char.ofNat (other % 256).toNat = Char.ofNat (number % 256).toNat ↔
      other % 256 = number % 256 := by
  have hcode : ∀ n : Int, (Char.ofNat (n % 256).toNat).toNat = (n % 256).toNat := by
    intro n
    rw [Char.toNat_ofNat, if_pos]
    simp only [Nat.isValidChar]
    omega
  constructor
  · intro hsame
    have hcodes := congrArg Char.toNat hsame
    rw [hcode, hcode] at hcodes
    omega
  · intro hsame
    rw [hsame]

/-- The character of sixteen bits is the one of eight only where the higher eight are zero. -/
theorem ofCode_eq_iff (number : Int) :
    Text.ofCode (number % 65536).toNat = Char.ofNat (number % 256).toNat ↔
      number % 65536 < 256 := by
  have hwide := Text.toNat_ofCode (show (number % 65536).toNat < 0x10000 by omega)
  have hlow : (Char.ofNat (number % 256).toNat).toNat = (number % 256).toNat := by
    rw [Char.toNat_ofNat, if_pos]
    simp only [Nat.isValidChar]
    omega
  constructor
  · intro hsame
    rw [hsame, hlow] at hwide
    simp only [Text.surrogateShift] at hwide
    split at hwide <;> omega
  · intro hsmall
    have hsame : number % 65536 = number % 256 := by omega
    have hplain : Text.isSurrogate (number % 256).toNat = false := by
      simp only [Text.isSurrogate, Bool.and_eq_false_iff, decide_eq_false_iff_not]
      omega
    rw [hsame, Text.ofCode, hplain]
    rfl

/-- A conversion to a byte gives the number itself: it is the byte of the number just where the
number is one, and every bit counts. A conversion to a character gives the character of the low
eight bits: it is the one of the low sixteen just where the others of these are zero, and only the
low eight bits count. Nothing but the target changes. -/
theorem narrowing_exact (emulator : Emulator) (gaps : Nat → Gap) (target source : Token)
    (a : Int) (hsource : emulator.machine.registers.get? source.text = some (.int a)) :
    let toByte := (Statement.convert ItemKind.byte.letters target source).print gaps
    let toChar := (Statement.convert ItemKind.char.letters target source).print gaps
    (emulator.Gives toByte target.text (.ok (.int a, emulator.machine.heap)) ∧
      emulator.Gives toChar target.text
        (.ok (Value.ofChar (Char.ofNat (a % 256).toNat), emulator.machine.heap))) ∧
    ((∀ byte, IsByteOf a byte →
        (emulator.heldAfter toByte target.text = some (.int byte) ↔ -128 ≤ a ∧ a ≤ 127)) ∧
      (emulator.heldAfter toChar target.text =
          some (Value.ofChar (Text.ofCode (a % 65536).toNat)) ↔ a % 65536 < 256)) ∧
    ∀ (other : Emulator) (b : Int),
      other.machine.registers.get? source.text = some (.int b) →
        (other.heldAfter toByte target.text = emulator.heldAfter toByte target.text ↔ b = a) ∧
        (other.heldAfter toChar target.text = emulator.heldAfter toChar target.text ↔
          b % 256 = a % 256) := by
  intro toByte toChar
  have hbyte : emulator.heldAfter toByte target.text = some (.int a) :=
    heldAfter_byte gaps hsource
  have hchar : emulator.heldAfter toChar target.text =
      some (Value.ofChar (Char.ofNat (a % 256).toNat)) := heldAfter_char gaps hsource
  refine ⟨⟨gives_byte gaps hsource, gives_char gaps hsource⟩, ⟨?_, ?_⟩, ?_⟩
  · intro byte hof
    rw [hbyte, Option.some.injEq, Value.int.injEq]
    exact hof.eq_iff
  · rw [hchar, Option.some.injEq, ofChar_inj, eq_comm]
    exact ofCode_eq_iff a
  · intro other b hother
    constructor
    · rw [hbyte, heldAfter_byte gaps hother, Option.some.injEq, Value.int.injEq]
    · rw [hchar, heldAfter_char gaps hother, Option.some.injEq, ofChar_inj]
      exact lowChar_eq_iff a b

/-- A register holds a number one below the least byte. -/
def holdingBelowBytes : Emulator where
  machine := { registers := [("v1", .int (-129))] }

theorem narrowing_exact_holdingBelowBytes :
    holdingBelowBytes.machine.registers.get? "v1" = some (.int (-129)) ∧
    holdingBelowBytes.heldAfter "int-to-byte v0, v1" "v0" ≠ some (.int 127) ∧
    holdingBelowBytes.heldAfter "int-to-char v0, v1" "v0" ≠
      some (Value.ofChar (Text.ofCode 65407)) := by
  have hsource : holdingBelowBytes.machine.registers.get? "v1" = some (.int (-129)) := rfl
  obtain ⟨-, ⟨hbyte, hchar⟩, -⟩ := narrowing_exact holdingBelowBytes (fun _ => ⟨" ", by decide⟩)
    ⟨"v0", by decide, by decide⟩ ⟨"v1", by decide, by decide⟩ (-129) hsource
  exact ⟨hsource, fun h => absurd ((hbyte 127 ⟨by decide, by decide, by decide⟩).mp h) (by decide),
    fun h => absurd (hchar.mp h) (by decide)⟩

/-- A number that is no byte, and one with more bits than eight. -/
def narrowingListing : List String :=
  ["const v0, 200", "int-to-byte v1, v0", "const v2, 0x263a", "int-to-char v3, v2", "return v1"]

def narrowingRun : Emulator × Ending Value :=
  Emulator.run {} narrowingListing (({} : Machine).load []) false 5

/-- The first number comes back as it was, and the second loses bits that characters have. -/
theorem narrowingListing_misses_widths :
    (IsByteOf 200 (-56) ∧ narrowingRun.1.machine.intAt? "v1" = some 200) ∧
    narrowingRun.1.machine.textAt? "v3" = some ":" ∧
    Text.ofCode (0x263a % 65536) ≠ ':' := by
  have hrun : narrowingRun.1.machine.intAt? "v1" = some 200 ∧
      narrowingRun.1.machine.textAt? "v3" = some ":" := by
    decide +kernel
  exact ⟨⟨⟨by decide, by decide, by decide⟩, hrun.1⟩, hrun.2, by decide⟩

end Emulator

end Dalvik
