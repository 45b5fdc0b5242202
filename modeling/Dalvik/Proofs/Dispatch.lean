import Dalvik.Emulator.Basic
import Dalvik.Instruction.Mnemonic
import Dalvik.Proofs.Mnemonics

/-!
# Which form a line has

The mnemonic of a line alone decides which of the forms that match at its beginning it can have: the
heads of a form consist of characters of mnemonics, up to one space behind them. So the forms may be
tried in any order on a line in which neither of the two loose forms is found.
-/

namespace Dalvik

open Instruction

namespace Form

/-! ### Heads stand in mnemonics -/

/-- A head is a beginning of a mnemonic, or a mnemonic with the space behind it. -/
theorem heads_spelled : ∀ form ∈ all, ∀ head ∈ form.heads,
    head.toList.takeWhile isMnemonicChar ≠ [] ∧
      (head.toList.dropWhile isMnemonicChar = [] ∨
        head.toList.dropWhile isMnemonicChar = [' ']) := by
  decide +kernel

theorem mnemonic?_of_takeWhile {line : String}
    (hne : line.toList.takeWhile isMnemonicChar ≠ []) :
    mnemonic? line = some (String.ofList (line.toList.takeWhile isMnemonicChar)) := by
  have hfirst : line.toList.dropWhile (!isMnemonicChar ·) = line.toList := by
    cases hchars : line.toList with
    | nil => rfl
    | cons c chars =>
        have hc : isMnemonicChar c = true := by
          by_contra hnot
          rw [hchars, List.takeWhile_cons_of_neg hnot] at hne
          exact hne rfl
        exact List.dropWhile_cons_of_neg (by simp [hc])
  unfold mnemonic?
  rw [hfirst]
  cases hword : line.toList.takeWhile isMnemonicChar with
  | nil => exact absurd hword hne
  | cons c chars => rfl

/-- A head at the beginning of a line stands in the mnemonic and the space behind it. -/
theorem prefix_mnemonic {form : Form} {head line : String} (hmem : head ∈ form.heads)
    (hhead : head.toList <+: line.toList) :
    ∃ word, mnemonic? line = some word ∧ head.toList <+: word.toList ++ [' '] := by
  obtain ⟨hne, htail⟩ := heads_spelled form (mem_all form) head hmem
  have hsplit : head.toList.takeWhile isMnemonicChar ++ head.toList.dropWhile isMnemonicChar =
      head.toList := List.takeWhile_append_dropWhile
  have hchars : ∀ c ∈ head.toList.takeWhile isMnemonicChar, isMnemonicChar c = true :=
    fun _ hc => List.mem_takeWhile_imp hc
  generalize head.toList.takeWhile isMnemonicChar = start at hne hsplit hchars
  generalize head.toList.dropWhile isMnemonicChar = tail at htail hsplit
  obtain ⟨rest, hrest⟩ := hhead
  rw [← hsplit] at hrest ⊢
  have hword : line.toList.takeWhile isMnemonicChar =
      start ++ (tail ++ rest).takeWhile isMnemonicChar := by
    rw [← hrest, List.append_assoc, List.takeWhile_append_of_pos hchars]
  refine ⟨_, mnemonic?_of_takeWhile ?_, ?_⟩
  · rw [hword]
    exact List.append_ne_nil_of_left_ne_nil hne _
  · rw [String.toList_ofList, hword]
    rcases htail with rfl | rfl
    · rw [List.append_nil, List.append_assoc]
      exact List.prefix_append start _
    · have hspace : ([' '] ++ rest).takeWhile isMnemonicChar = [] :=
        List.takeWhile_cons_of_neg (by decide +kernel)
      simp only [hspace, List.append_nil, List.prefix_rfl]

/-- A line of a form that is not loose has a head of it in its mnemonic and the space behind. -/
theorem exists_head_in_mnemonic {form : Form} {line : String} (hform : form.isLoose = false)
    (hgroups : (form.groups? line).isSome) :
    ∃ word, mnemonic? line = some word ∧
      ∃ head ∈ form.heads, head.toList <+: word.toList ++ [' '] := by
  obtain ⟨head, hmem, rest, -, hhead, hrest⟩ := exists_head hgroups
  rw [hrest hform] at hhead
  obtain ⟨word, hword, hstart⟩ := prefix_mnemonic hmem hhead
  exact ⟨word, hword, head, hmem, hstart⟩

/-- Lines with the same mnemonic have the same form, if both have one that is not loose. -/
theorem eq_of_mnemonic_eq {form other : Form} {first second : String}
    (hform : form.isLoose = false) (hother : other.isLoose = false)
    (hmnemonic : mnemonic first = mnemonic second) (hfirst : (form.groups? first).isSome)
    (hsecond : (other.groups? second).isSome) : form = other := by
  obtain ⟨word, hword, head, hmem, hhead⟩ := exists_head_in_mnemonic hform hfirst
  obtain ⟨same, hsame, start, hstart, hprefix⟩ := exists_head_in_mnemonic hother hsecond
  simp only [mnemonic, hword, hsame] at hmnemonic
  cases hmnemonic
  exact eq_of_heads hmem hstart hhead hprefix

/-! ### The order in which forms are tried -/

theorem groups?_isSome_of_read? {form : Form} {line : String} {instruction : Instruction}
    (hread : form.read? line = some instruction) : (form.groups? line).isSome := by
  unfold read? at hread
  obtain ⟨groups, hgroups, -⟩ := Option.bind_eq_some_iff.mp hread
  rw [hgroups]
  rfl

/-- A loose form is found only where its word stands. -/
theorem isLoose_eq_false_of_groups? {form : Form} {line : String}
    (hlength : ¬"array-length ".toList <:+: line.toList)
    (hfill : ¬"fill-array-data ".toList <:+: line.toList)
    (hgroups : (form.groups? line).isSome) : form.isLoose = false := by
  obtain ⟨head, hmem, rest, hrest, hhead, -⟩ := exists_head hgroups
  have hpart : head.toList <:+: line.toList := hhead.isInfix.trans hrest.isInfix
  cases form with
  | arrayLength =>
      cases List.mem_singleton.mp hmem
      exact absurd hpart hlength
  | fillArray =>
      cases List.mem_singleton.mp hmem
      exact absurd hpart hfill
  | _ => rfl

/-- If only one form reads a line, every order in which it is tried finds it. -/
theorem findSome?_eq_of_unique {order : List Form} {line : String} {form : Form}
    {instruction : Instruction} (hmem : form ∈ order)
    (hread : form.read? line = some instruction)
    (hunique : ∀ other found, other.read? line = some found → other = form) :
    order.findSome? (·.read? line) = some instruction := by
  cases hfound : order.findSome? (·.read? line) with
  | none =>
      have hnone := List.findSome?_eq_none_iff.mp hfound form hmem
      rw [hread] at hnone
      cases hnone
  | some found =>
      obtain ⟨other, -, hother⟩ := List.exists_of_findSome?_eq_some hfound
      cases hunique other found hother
      exact hother.symm.trans hread

theorem findSome?_eq_ofLine? {order : List Form} {line : String} (horder : order.Perm all)
    (hlength : ¬"array-length ".toList <:+: line.toList)
    (hfill : ¬"fill-array-data ".toList <:+: line.toList) :
    order.findSome? (·.read? line) = ofLine? line := by
  by_cases hsome : ∃ form instruction, read? form line = some instruction
  · obtain ⟨form, instruction, hread⟩ := hsome
    have hunique : ∀ other found, other.read? line = some found → other = form := by
      intro other found hother
      have hfirst := groups?_isSome_of_read? hread
      have hsecond := groups?_isSome_of_read? hother
      exact eq_of_mnemonic_eq (isLoose_eq_false_of_groups? hlength hfill hsecond)
        (isLoose_eq_false_of_groups? hlength hfill hfirst) rfl hsecond hfirst
    rw [ofLine?, findSome?_eq_of_unique (mem_all form) hread hunique,
      findSome?_eq_of_unique (horder.mem_iff.mpr (mem_all form)) hread hunique]
  · have hnone : ∀ form : Form, form.read? line = none := by
      intro form
      by_contra hread
      obtain ⟨instruction, hread⟩ := Option.ne_none_iff_exists'.mp hread
      exact hsome ⟨form, instruction, hread⟩
    rw [ofLine?, List.findSome?_eq_none_iff.mpr fun form _ => hnone form,
      List.findSome?_eq_none_iff.mpr fun form _ => hnone form]

end Form

namespace Emulator

/-- The mnemonic decides the form among those that are not loose, so that no line has two of them.
A line without the words of the loose forms is therefore executed in the same way whatever the order
in which the forms are tried. -/
theorem dispatch_unambiguous :
    (∀ (first second : String) (form other : Form),
      form.isLoose = false → other.isLoose = false → mnemonic first = mnemonic second →
        (form.groups? first).isSome → (other.groups? second).isSome → form = other) ∧
    ∀ (line : String) (order : List Form), order.Perm Form.all →
      ¬"array-length ".toList <:+: line.toList → ¬"fill-array-data ".toList <:+: line.toList →
        ∀ emulator : Emulator,
          emulator.attempt line (order.findSome? (·.read? line)) = emulator.executeLine line := by
  constructor
  · intro first second form other hform hother hmnemonic hfirst hsecond
    exact Form.eq_of_mnemonic_eq hform hother hmnemonic hfirst hsecond
  · intro line order horder hlength hfill emulator
    rw [executeLine, Form.findSome?_eq_ofLine? horder hlength hfill]

/-- Two spellings of a conditional branch, and a line that is tried in the opposite order. -/
theorem dispatch_unambiguous_branch :
    (mnemonic "if-le v0, v1, :a" = mnemonic "if-le p0,p1,\t:b" ∧
      ((Form.branch .le).groups? "if-le v0, v1, :a").isSome ∧
      ∀ other : Form, other.isLoose = false →
        (other.groups? "if-le p0,p1,\t:b").isSome → Form.branch .le = other) ∧
    ∀ emulator : Emulator,
      emulator.attempt "if-lez v0, :a" (Form.all.reverse.findSome? (·.read? "if-lez v0, :a")) =
        emulator.executeLine "if-lez v0, :a" := by
  have hfacts : mnemonic "if-le v0, v1, :a" = mnemonic "if-le p0,p1,\t:b" ∧
      ((Form.branch .le).groups? "if-le v0, v1, :a").isSome ∧
      ¬"array-length ".toList <:+: "if-lez v0, :a".toList ∧
      ¬"fill-array-data ".toList <:+: "if-lez v0, :a".toList := by
    decide +kernel
  obtain ⟨hmnemonic, hgroups, hlength, hfill⟩ := hfacts
  refine ⟨⟨hmnemonic, hgroups, fun other hother hsecond => ?_⟩, ?_⟩
  · exact dispatch_unambiguous.1 _ _ _ other rfl hother hmnemonic hgroups hsecond
  · exact dispatch_unambiguous.2 _ _ (List.reverse_perm Form.all) hlength hfill

end Emulator

end Dalvik
