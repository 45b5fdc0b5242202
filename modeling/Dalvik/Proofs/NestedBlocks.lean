import Dalvik.Proofs.BlockDirectives
import Dalvik.Proofs.GuardedRange
import Mathlib.Data.List.Nodup

/-!
# Nested blocks

A fault goes to the first block of the table that takes it. The table is in the order of the lines
that open the blocks, and a block opens before those inside of it. So it is the outermost block
around a line that handles its faults, however deep the line lies.
-/

namespace Dalvik.Listing

namespace GuardedBlock

variable {lines : List String}

/-- The line that closes a block, right before its directive. -/
def close (block : GuardedBlock lines) : Nat :=
  block.last - 1

/-- A line strictly between the one that opens a block and the one that closes it. -/
def Surrounds (block : GuardedBlock lines) (index : Nat) : Prop :=
  block.first < index ∧ index < block.close

/-- One block lies inside of another. -/
def Encloses (block other : GuardedBlock lines) : Prop :=
  block.first < other.first ∧ other.close < block.close

/-- What a block encloses, it surrounds. -/
theorem Encloses.surrounds {block other : GuardedBlock lines} {index : Nat}
    (hencloses : block.Encloses other) (hsurrounds : other.Surrounds index) :
    block.Surrounds index := by
  unfold Encloses at hencloses
  unfold Surrounds at hsurrounds ⊢
  omega

end GuardedBlock

/-- The guarded blocks of a listing, if each is closed on the line before its directive and any two
of them lie apart or one inside of the other. -/
structure NestedBlocks (lines : List String) extends BlockList lines where
  closes : ∀ block ∈ blocks, lines[block.close]? = some (":try_end_" ++ block.mark)
  nested : ∀ block ∈ blocks, ∀ other ∈ blocks, block.first < other.first →
    block.close < other.first ∨ block.Encloses other

namespace BlockList

variable {lines : List String} {takes : GuardedBlock lines → Bool}
  {block other : GuardedBlock lines}

/-- The first block of a list that takes something opens before all others that do. -/
theorem first_le_of_find? (list : BlockList lines) (hfound : list.blocks.find? takes = some block)
    (hmem : other ∈ list.blocks) (htakes : takes other = true) : block.first ≤ other.first := by
  obtain ⟨-, before, behind, hblocks, hbefore⟩ := List.find?_eq_some_iff_append.mp hfound
  have hordered := list.ordered
  rw [hblocks] at hordered hmem
  have hlater := List.pairwise_cons.mp (List.pairwise_append.mp hordered).2.1
  rcases List.mem_append.mp hmem with hearlier | hsince
  · have hnot := hbefore other hearlier
    rw [htakes] at hnot
    cases hnot
  · rcases List.mem_cons.mp hsince with rfl | hbehind
    · exact le_rfl
    · exact Nat.le_of_lt (hlater.1 other hbehind)

/-- A block is told by the line that opens it. -/
theorem eq_of_first_eq (list : BlockList lines) (hblock : block ∈ list.blocks)
    (hother : other ∈ list.blocks) (hfirst : block.first = other.first) : block = other := by
  have hnodup : (list.blocks.map (·.first)).Nodup :=
    List.pairwise_map.mpr (list.ordered.imp Nat.ne_of_lt)
  exact List.inj_on_of_nodup_map hnodup hblock hother hfirst

end BlockList

end Dalvik.Listing

namespace Dalvik.Emulator

open Listing

variable {lines : List String} {started : Machine} {state : Emulator} {index : Nat} {line : String}
  {cause : Fault}

/-- The block that takes the fault of a line is the outermost one around it. -/
theorem Raises.exists_outermost (hraises : Raises state index line cause)
    (hin : InProgram lines started state) (nested : NestedBlocks lines)
    (hblocks : state.machine.catchBlocks = nested.blocks.map (·.catchBlock))
    {inner : GuardedBlock lines} (hinner : inner ∈ nested.blocks)
    (hsurrounds : inner.Surrounds index) :
    ∃ outer ∈ nested.blocks, state.advance.machine.catcher? = some outer.catchBlock ∧
      outer.Surrounds index ∧ (outer = inner ∨ outer.Encloses inner) ∧
      ∀ other ∈ nested.blocks, ¬other.Encloses outer := by
  let takes (block : GuardedBlock lines) : Bool :=
    Machine.covers block.catchBlock state.advance.machine.pc
  have htakes : ∀ block ∈ nested.blocks, block.Surrounds index → takes block = true :=
    fun block hmem hblock =>
      (hraises.takes_iff hin block (nested.closes block hmem)).mpr (Or.inr hblock)
  have hcatcher : state.advance.machine.catcher? =
      (nested.blocks.find? takes).map (·.catchBlock) := by
    change state.machine.catchBlocks.find? _ = _
    rw [hblocks, List.find?_map]
    rfl
  have hsome : (nested.blocks.find? takes).isSome = true :=
    List.find?_isSome.mpr ⟨inner, hinner, htakes inner hinner hsurrounds⟩
  obtain ⟨outer, hfound⟩ := Option.isSome_iff_exists.mp hsome
  have hmem := List.mem_of_find?_eq_some hfound
  have hleast : ∀ other ∈ nested.blocks, other.Surrounds index → outer.first ≤ other.first :=
    fun other hother hsurrounds =>
      nested.first_le_of_find? hfound hother (htakes other hother hsurrounds)
  have hbefore := hleast inner hinner hsurrounds
  -- the line before a block lies behind the one that opens this block
  have houter : outer.Surrounds index := by
    have htaken : takes outer = true := List.find?_some hfound
    refine ((hraises.takes_iff hin outer (nested.closes outer hmem)).mp htaken).resolve_left ?_
    intro hnext
    have hopened := hsurrounds.1
    omega
  refine ⟨outer, hmem, by rw [hcatcher, hfound]; rfl, houter, ?_, ?_⟩
  · rcases Nat.lt_or_eq_of_le hbefore with hlt | heq
    · rcases nested.nested outer hmem inner hinner hlt with hapart | hencloses
      · have hopened := hsurrounds.1
        have hopen := houter.2
        omega
      · exact Or.inr hencloses
    · exact Or.inl (nested.eq_of_first_eq hmem hinner heq)
  · intro other hother hencloses
    have hle := hleast other hother (hencloses.surrounds houter)
    have hlt := hencloses.1
    omega

variable {emulator : Emulator} {arguments : Table Datum} {tracing : Bool} {limit : Nat}

theorem blocks_of_run
    (hreached : emulator.run lines (({} : Machine).load arguments) tracing limit =
      (state, .outOfSteps)) (list : BlockList (lines.map Text.strip)) :
    state.machine.catchBlocks = list.blocks.map (·.catchBlock) := by
  obtain ⟨hdone, -⟩ := run_eq_outOfSteps hreached
  obtain ⟨declared, hscan, hstart⟩ := start_eq_of_done hdone
  have hload := Machine.load_frame {} arguments
  rw [(inProgram_of_run hreached).tables.catchBlocks, hstart]
  exact list.scan_catchBlocks (by rw [hload]) hscan

/-- **Nested blocks.** In a listing whose blocks nest and whose handlers are labels, a fault of a
line inside of a block goes to the handler of the outermost block around the line. This is the block
itself only if it lies in no other one. The run goes on at the handler. The texts that the run
evaluates are self-contained. -/
theorem run_hands_to_outermost (emulator : Emulator) (lines : List String) (arguments : Table Datum)
    (tracing : Bool) (limit : Nat) (state : Emulator) (nested : NestedBlocks (lines.map Text.strip))
    (inner : GuardedBlock (lines.map Text.strip)) (index : Nat) (line : String) (cause : Fault)
    (hconfined : ∀ steps, Confined steps
      (emulator.start lines (({} : Machine).load arguments) tracing).1)
    (hreached : Shared.run emulator lines (({} : Machine).load arguments) tracing limit =
      (state, .outOfSteps))
    (hdefined : ∀ block ∈ nested.blocks,
      (state.machine.labels.get? block.spelling.handler).isSome = true)
    (hraises : Raises state index line cause) (hinner : inner ∈ nested.blocks)
    (hsurrounds : inner.Surrounds index) :
    ∃ outer ∈ nested.blocks, outer.Surrounds index ∧ (outer = inner ∨ outer.Encloses inner) ∧
      (∀ other ∈ nested.blocks, ¬other.Encloses outer) ∧
      state.machine.labels.get? outer.spelling.handler =
        some (Shared.step state line).1.machine.pc ∧
      (Shared.step state line).2 = .done () ∧
      ∀ more, Shared.run emulator lines (({} : Machine).load arguments) tracing
          (limit + (more + 1)) =
        Shared.runFor more (Shared.step state line).1 := by
  rw [(hconfined limit).run_eq] at hreached
  have hself := keepsToItself_of_run hconfined hreached
  obtain ⟨-, -, hmore⟩ := run_eq_outOfSteps hreached
  obtain ⟨outer, hmem, hcatcher, houter, hsame, houtermost⟩ :=
    hraises.exists_outermost (inProgram_of_run hreached) nested
      (blocks_of_run hreached nested.toBlockList) hinner hsurrounds
  obtain ⟨target, htarget⟩ := Option.isSome_iff_exists.mp (hdefined outer hmem)
  obtain ⟨instruction, raised, hread, hraised⟩ := hraises.raises
  have htransfers : Transfers state.advance line outer.spelling.handler :=
    .caught hraises.active hread hraised hcatcher rfl
  obtain ⟨hpc, hdone⟩ := htransfers.step_eq htarget
  rw [hself.step_eq hraises.next]
  refine ⟨outer, hmem, houter, hsame, houtermost, by rw [hpc, htarget], hdone, ?_⟩
  intro more
  rw [(hconfined _).run_eq, hmore, runFor_of_done hraises.next hdone,
    (hself.step hraises.next hdone).runFor_eq]

/-- An item is taken in a block inside of another one. -/
def nestedListing : List String := [
  ":try_start_0", ":try_start_1", "aget v0, p0, p1", ":try_end_1",
  usualDirective "Ljava/lang/Exception;" "1" "inner", ":try_end_0",
  usualDirective "Ljava/lang/Exception;" "0" "outer", ":inner", "const v1, 1", "return v1",
  ":outer", "const v1, 2", "return v1"]

theorem nestedListing_facts :
    UsualBlock (nestedListing.map Text.strip) "Ljava/lang/Exception;" "0" "outer" 0 6 ∧
      UsualBlock (nestedListing.map Text.strip) "Ljava/lang/Exception;" "1" "inner" 1 4 ∧
      (nestedListing.map Text.strip)[5]? = some ":try_end_0" ∧
      (nestedListing.map Text.strip)[3]? = some ":try_end_1" ∧
      ∀ entry ∈ (nestedListing.map Text.strip).zipIdx,
        Header.guarded.opens entry.1 = true → entry.2 = 0 ∨ entry.2 = 1 := by
  decide +kernel

def nestedOuter : GuardedBlock (nestedListing.map Text.strip) :=
  nestedListing_facts.1.block

def nestedInner : GuardedBlock (nestedListing.map Text.strip) :=
  nestedListing_facts.2.1.block

theorem nestedOuter_encloses : nestedOuter.Encloses nestedInner := by
  constructor <;> decide

theorem nestedListing_complete (index : Nat) (line : String)
    (hline : (nestedListing.map Text.strip)[index]? = some line)
    (hopens : Header.guarded.opens line = true) :
    ∃ block ∈ [nestedOuter, nestedInner], block.first = index := by
  have hindex := nestedListing_facts.2.2.2.2 (line, index)
    (List.mk_mem_zipIdx_iff_getElem?.mpr hline) hopens
  rcases hindex with rfl | rfl
  · exact ⟨nestedOuter, List.mem_cons_self, rfl⟩
  · exact ⟨nestedInner, List.mem_cons_of_mem _ List.mem_cons_self, rfl⟩

theorem nestedListing_nested : ∀ block ∈ [nestedOuter, nestedInner],
    ∀ other ∈ [nestedOuter, nestedInner], block.first < other.first →
    block.close < other.first ∨ block.Encloses other := by
  intro block hblock other hother hlt
  simp only [List.mem_cons, List.not_mem_nil, or_false] at hblock hother
  rcases hblock with rfl | rfl <;> rcases hother with rfl | rfl
  · exact absurd hlt (lt_irrefl _)
  · exact Or.inr nestedOuter_encloses
  · exact absurd hlt (Nat.lt_asymm nestedOuter_encloses.1)
  · exact absurd hlt (lt_irrefl _)

def nestedBlocks : NestedBlocks (nestedListing.map Text.strip) where
  blocks := [nestedOuter, nestedInner]
  ordered := List.pairwise_pair.mpr nestedOuter_encloses.1
  complete index line hline hopens _ := nestedListing_complete index line hline hopens
  closes := List.forall_mem_cons.mpr ⟨nestedListing_facts.2.2.1,
    List.forall_mem_singleton.mpr nestedListing_facts.2.2.2.1⟩
  nested := nestedListing_nested

def nestedArguments : Table Datum :=
  [("p0", .list [.int 7, .int 8]), ("p1", .int 5)]

def nestedRun (limit : Nat) : Emulator × Ending Value :=
  Shared.run {} nestedListing (({} : Machine).load nestedArguments) false limit

/-- The run comes to the line inside of both blocks, and the line raises a fault. -/
theorem nestedRun_facts :
    isOutOfSteps (nestedRun 2).2 = true ∧ (nestedRun 2).1.machine.pc = 2 ∧
      (nestedRun 2).1.nextLine? = some "aget v0, p0, p1" ∧
      isPassive "aget v0, p0, p1" = false ∧
      Instruction.ofLine? "aget v0, p0, p1" = some (.arrayGet "v0" "p0" "p1") ∧
      (((nestedRun 2).1.advance.trace "aget v0, p0, p1").perform
        (Instruction.arrayGet "v0" "p0" "p1").execute).2 = .raised (.outOfRange .list) ∧
      (nestedRun 2).1.machine.labels.get? ":inner" = some 7 ∧
      (nestedRun 2).1.machine.labels.get? ":outer" = some 10 ∧
      (Shared.step (nestedRun 2).1 "aget v0, p0, p1").1.machine.pc = 10 ∧
      EndsConfined 9
        (Emulator.start {} nestedListing (({} : Machine).load nestedArguments) false).1 := by
  decide +kernel

theorem nestedRun_reached : nestedRun 2 = ((nestedRun 2).1, .outOfSteps) :=
  eq_mk_of_snd_eq (isOutOfSteps_iff.mp nestedRun_facts.1)

theorem nestedRun_raises : Raises (nestedRun 2).1 2 "aget v0, p0, p1" (.outOfRange .list) := by
  obtain ⟨-, hpc, hnext, hactive, hread, hraised, -⟩ := nestedRun_facts
  exact ⟨hpc, hnext, hactive, _, _, hread, eq_mk_of_snd_eq hraised⟩

theorem nestedInner_surrounds : nestedInner.Surrounds 2 := by
  constructor <;> decide

theorem run_hands_to_outermost_nestedListing :
    nestedRun 2 = ((nestedRun 2).1, .outOfSteps) ∧
      Raises (nestedRun 2).1 2 "aget v0, p0, p1" (.outOfRange .list) ∧
      nestedInner ∈ nestedBlocks.blocks ∧ nestedInner.Surrounds 2 ∧
      ∃ outer ∈ nestedBlocks.blocks, outer.Surrounds 2 ∧
        (outer = nestedInner ∨ outer.Encloses nestedInner) ∧
        (∀ other ∈ nestedBlocks.blocks, ¬other.Encloses outer) ∧
        (nestedRun 2).1.machine.labels.get? outer.spelling.handler =
          some (Shared.step (nestedRun 2).1 "aget v0, p0, p1").1.machine.pc ∧
        (Shared.step (nestedRun 2).1 "aget v0, p0, p1").2 = .done () ∧
        ∀ more, nestedRun (2 + (more + 1)) =
          Shared.runFor more (Shared.step (nestedRun 2).1 "aget v0, p0, p1").1 := by
  have hmem : nestedInner ∈ nestedBlocks.blocks :=
    List.mem_cons_of_mem _ (List.mem_singleton_self _)
  obtain ⟨-, -, -, -, -, -, -, -, -, hends⟩ := nestedRun_facts
  have hdefined : ∀ block ∈ nestedBlocks.blocks,
      ((nestedRun 2).1.machine.labels.get? block.spelling.handler).isSome = true := by
    obtain ⟨-, -, -, -, -, -, hinner, houter, -, -⟩ := nestedRun_facts
    refine List.forall_mem_cons.mpr ⟨?_, List.forall_mem_singleton.mpr ?_⟩
    · change ((nestedRun 2).1.machine.labels.get? ":outer").isSome = true
      rw [houter]
      rfl
    · change ((nestedRun 2).1.machine.labels.get? ":inner").isSome = true
      rw [hinner]
      rfl
  exact ⟨nestedRun_reached, nestedRun_raises, hmem, nestedInner_surrounds,
    run_hands_to_outermost {} nestedListing _ false 2 _ nestedBlocks nestedInner 2 _ _
      hends.confined nestedRun_reached hdefined nestedRun_raises hmem nestedInner_surrounds⟩

/-- The inner block surrounds the line and no block lies inside of it, but the fault passes its
handler by. -/
theorem nestedListing_passes_inner_handler :
    (nestedRun 2 = ((nestedRun 2).1, .outOfSteps) ∧
      Raises (nestedRun 2).1 2 "aget v0, p0, p1" (.outOfRange .list)) ∧
    (nestedInner.Surrounds 2 ∧
      ∀ block ∈ nestedBlocks.blocks, ¬nestedInner.Encloses block) ∧
    (nestedRun 2).1.machine.labels.get? nestedInner.spelling.handler = some 7 ∧
      (Shared.step (nestedRun 2).1 "aget v0, p0, p1").1.machine.pc = 10 := by
  obtain ⟨-, -, -, -, -, -, hinner, -, hpc, -⟩ := nestedRun_facts
  refine ⟨⟨nestedRun_reached, nestedRun_raises⟩, ⟨nestedInner_surrounds, ?_⟩, hinner, hpc⟩
  refine List.forall_mem_cons.mpr ⟨?_, List.forall_mem_singleton.mpr ?_⟩
  · exact fun hencloses => absurd hencloses.1 (by decide)
  · exact fun hencloses => absurd hencloses.1 (by decide)

end Dalvik.Emulator
