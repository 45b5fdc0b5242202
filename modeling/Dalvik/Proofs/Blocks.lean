import Dalvik.Listing.Scan
import Dalvik.Proofs.Store

/-!
# What lies inside a data block

The cases of a switch and constant data extend from their header to the first directive that ends
them. A header that stands inside such a block opens none of its own, and one whose directive never
comes opens none either. The scan passes over exactly the lines inside blocks; what it declares can
therefore be told line by line, without the index at which it resumes.
-/

namespace Dalvik

namespace Text

/-- What is decided character by character. -/
theorem forall_mem_of_all {text : List Char} {property : Char → Prop} [DecidablePred property]
    (hall : text.all (property ·) = true) : ∀ c ∈ text, property c := by
  simpa using hall

theorem beginsWith_iff {part text : String} :
    beginsWith part text = true ↔ part.toList <+: text.toList :=
  List.isPrefixOf_iff_prefix

theorem beginsWith_append {part text : String} (hpart : beginsWith part text = true)
    (rest : String) : beginsWith part (text ++ rest) = true := by
  rw [beginsWith_iff] at hpart ⊢
  rw [String.toList_append]
  exact hpart.trans (List.prefix_append _ _)

/-- A text does not begin with two parts of which neither begins with the other. -/
theorem beginsWith_eq_false_of_beginsWith {part other text : String}
    (hpart : beginsWith part text = true) (hfirst : beginsWith part other = false)
    (hsecond : beginsWith other part = false) : beginsWith other text = false := by
  by_contra hother
  rw [Bool.not_eq_false, beginsWith_iff] at hother
  rcases List.prefix_or_prefix_of_prefix (beginsWith_iff.mp hpart) hother with hle | hle
  · exact absurd (beginsWith_iff.mpr hle) (by simp [hfirst])
  · exact absurd (beginsWith_iff.mpr hle) (by simp [hsecond])

end Text

theorem lift_eq_ok {α : Type} {x : Except Fault α} {a : α} :
    (liftM x : Except Halt α) = .ok a ↔ x = .ok a := by
  cases x with
  | error cause => exact iff_of_false nofun nofun
  | ok b => exact ⟨fun h => congrArg _ (Except.ok.inj h), fun h => congrArg _ (Except.ok.inj h)⟩

namespace Listing

/-- The directive that ends what a header opens; guarded blocks are not passed over. -/
def Header.ending : Header → Option String
  | .guarded => none
  | .switch => some ".end packed-switch"
  | .array => some ".end array-data"

/-- The first line that ends a block, where the lines given are those from `index` on. -/
def endIndex? (ending : String) (index : Nat) (following : List String) : Option Nat :=
  (following.findIdx? (· = ending)).map (index + ·)

/-- The lines before the one that ends a block, or all of them if there is none. -/
def body (ending : String) (following : List String) : List String :=
  following.takeWhile (· ≠ ending)

/-- The first line behind `index` that ends what the line at `index` opens. -/
def closing? (lines : List String) (index : Nat) : Option Nat := do
  let line ← lines[index]?
  let header ← header? line
  let ending ← header.ending
  endIndex? ending (index + 1) (lines.drop (index + 1))

def InBlock (lines : List String) (index : Nat) : Prop :=
  ∃ start, ∃ _ : start < index, ¬InBlock lines start ∧
    ∃ last, closing? lines start = some last ∧ index ≤ last
termination_by index

theorem inBlock_iff {lines : List String} {index : Nat} :
    InBlock lines index ↔ ∃ start < index, ¬InBlock lines start ∧
      ∃ last, closing? lines start = some last ∧ index ≤ last := by
  rw [InBlock]
  simp only [exists_prop]

/-! ### Reading the lines of a block -/

section Reading

variable {ending line : String} {index : Nat} {rest : List String}

theorem endIndex?_cons_self : endIndex? line index (line :: rest) = some index := by
  simp [endIndex?, List.findIdx?_cons]

theorem endIndex?_cons_of_ne (hne : line ≠ ending) :
    endIndex? ending index (line :: rest) = endIndex? ending (index + 1) rest := by
  unfold endIndex?
  rw [List.findIdx?_cons, if_neg (by simpa using hne), Option.map_map]
  congr 1
  funext offset
  simp only [Function.comp_apply]
  omega

theorem body_cons_self : body line (line :: rest) = [] := by
  simp [body]

theorem body_cons_of_ne (hne : line ≠ ending) :
    body ending (line :: rest) = line :: body ending rest := by
  simp [body, hne]

/-- The lines before the one that ends a block are its body. -/
theorem endIndex?_eq_some {following : List String} {last : Nat}
    (hlast : endIndex? ending index following = some last) :
    (∃ offset, last = index + offset ∧ following[offset]? = some ending) ∧
      ∀ offset line, index + offset < last → following[offset]? = some line →
        line ∈ body ending following := by
  induction following generalizing index with
  | nil => cases hlast
  | cons first rest ih =>
      by_cases hend : first = ending
      · subst hend
        rw [endIndex?_cons_self] at hlast
        cases hlast
        exact ⟨⟨0, rfl, rfl⟩, fun offset line hlt => by omega⟩
      · rw [endIndex?_cons_of_ne hend] at hlast
        obtain ⟨⟨offset, hoffset, hfound⟩, hbody⟩ := ih hlast
        refine ⟨⟨offset + 1, by omega, hfound⟩, fun offset line hlt hline => ?_⟩
        rw [body_cons_of_ne hend]
        cases offset with
        | zero =>
            cases hline
            exact List.mem_cons_self
        | succ offset => exact List.mem_cons_of_mem first (hbody offset line (by omega) hline)

end Reading

/-- A value that a literal writes, in a store that still holds its parts. -/
def HoldsLiteral (heap : Heap) (text : String) (value : Value) : Prop :=
  ∃ before after, Expr.readLiteral before text = .ok (value, after) ∧ after.Grows heap

theorem HoldsLiteral.mono {heap later : Heap} {text : String} {value : Value}
    (hholds : HoldsLiteral heap text value) (hgrows : heap.Grows later) :
    HoldsLiteral later text value := by
  obtain ⟨before, after, hread, hafter⟩ := hholds
  exact ⟨before, after, hread, hafter.trans hgrows⟩

/-- Of several directives the last one counts; without any the value stays what it was. -/
def SetByLast (heap : Heap) (initial : Value) (directives : List String) (value : Value) : Prop :=
  match directives.getLast? with
  | none => value = initial
  | some directive => HoldsLiteral heap (firstWord directive) value

theorem SetByLast.mono {heap later : Heap} {initial value : Value} {directives : List String}
    (hset : SetByLast heap initial directives value) (hgrows : heap.Grows later) :
    SetByLast later initial directives value := by
  unfold SetByLast at hset ⊢
  cases hlast : directives.getLast? with
  | none => simpa [hlast] using hset
  | some directive =>
      rw [hlast] at hset
      exact HoldsLiteral.mono hset hgrows

theorem SetByLast.cons {heap : Heap} {initial read value : Value} {directive : String}
    {directives : List String} (hholds : HoldsLiteral heap (firstWord directive) read)
    (hset : SetByLast heap read directives value) :
    SetByLast heap initial (directive :: directives) value := by
  unfold SetByLast at hset ⊢
  cases directives with
  | nil =>
      have hvalue : value = read := hset
      simpa [hvalue] using hholds
  | cons next others =>
      rw [List.getLast?_cons_cons, List.getLast?_eq_some_getLast (List.cons_ne_nil next others)]
      rwa [List.getLast?_eq_some_getLast (List.cons_ne_nil next others)] at hset

/-! ### Cases of a switch -/

/-- What is read from the lines behind the header of a switch. -/
structure CasesRead (heap : Heap) (switch : Switch) (index : Nat) (following : List String)
    (contents : Contents Switch) : Prop where
  last : contents.last = endIndex? ".end packed-switch" index following
  cases_eq : contents.value.cases =
    switch.cases ++ (body ".end packed-switch" following).filter (Text.beginsWith ":pswitch_")
  first : SetByLast contents.heap switch.first
    ((body ".end packed-switch" following).filter (Text.beginsWith ".packed-switch "))
    contents.value.first
  lines : ∀ line ∈ body ".end packed-switch" following,
    Text.beginsWith ".packed-switch " line = true ∨ Text.beginsWith ":pswitch_" line = true
  grows : heap.Grows contents.heap

theorem readCases_spec {following : List String} {heap : Heap} {switch : Switch} {index : Nat}
    {contents : Contents Switch}
    (hread : readCases heap switch index following = .ok contents) :
    CasesRead heap switch index following contents := by
  induction following generalizing heap switch index with
  | nil =>
      rw [readCases] at hread
      cases hread
      exact ⟨rfl, by simp [body], by simp [body, SetByLast], fun _ hmem => (nomatch hmem),
        Heap.Grows.refl heap⟩
  | cons line rest ih =>
      -- the line sets the first value, is a case, ends the block, or does not belong there
      rw [readCases] at hread
      split at hread
      · rename_i hdirective
        obtain ⟨⟨first, middle⟩, hliteral, hrest⟩ := bind_eq_ok.mp hread
        have hgrows := Expr.readLiteral_grows (lift_eq_ok.mp hliteral)
        have hspec := ih hrest
        have hne : line ≠ ".end packed-switch" := by
          rintro rfl
          exact absurd hdirective (by decide)
        have hcase : Text.beginsWith ":pswitch_" line = false :=
          Text.beginsWith_eq_false_of_beginsWith hdirective (by decide) (by decide)
        refine ⟨?_, ?_, ?_, ?_, hgrows.trans hspec.grows⟩
        · rw [hspec.last, endIndex?_cons_of_ne hne]
        · rw [hspec.cases_eq, body_cons_of_ne hne, List.filter_cons_of_neg (by simp [hcase])]
        · rw [body_cons_of_ne hne, List.filter_cons_of_pos hdirective]
          exact SetByLast.cons ⟨heap, middle, lift_eq_ok.mp hliteral, hspec.grows⟩ hspec.first
        · rw [body_cons_of_ne hne, List.forall_mem_cons]
          exact ⟨Or.inl hdirective, hspec.lines⟩
      · split at hread
        · rename_i hdirective hcase
          have hspec := ih hread
          have hne : line ≠ ".end packed-switch" := by
            rintro rfl
            exact absurd hcase (by decide)
          refine ⟨?_, ?_, ?_, ?_, hspec.grows⟩
          · rw [hspec.last, endIndex?_cons_of_ne hne]
          · rw [hspec.cases_eq, body_cons_of_ne hne, List.filter_cons_of_pos hcase]
            simp
          · rw [body_cons_of_ne hne, List.filter_cons_of_neg hdirective]
            exact hspec.first
          · rw [body_cons_of_ne hne, List.forall_mem_cons]
            exact ⟨Or.inr hcase, hspec.lines⟩
        · split at hread
          · rename_i hend
            subst hend
            cases hread
            exact ⟨endIndex?_cons_self.symm, by simp [body_cons_self],
              by simp [body_cons_self, SetByLast], by simp [body_cons_self], Heap.Grows.refl heap⟩
          · cases hread

/-! ### Elements of an array -/

/-- What is read from the lines behind the header of constant data. -/
structure ElementsRead (heap : Heap) (width : Value) (elements : List Value) (index : Nat)
    (following : List String) (contents : Contents ArrayContents) : Prop where
  last : contents.last = endIndex? ".end array-data" index following
  elements : ∃ added, contents.value.2 = elements ++ added ∧
    List.Forall₂ (HoldsLiteral contents.heap)
      ((body ".end array-data" following).filter (!Text.beginsWith ".array-data " ·)) added
  width : SetByLast contents.heap width
    ((body ".end array-data" following).filter (Text.beginsWith ".array-data "))
    contents.value.1
  grows : heap.Grows contents.heap

theorem readElements_spec {following : List String} {heap : Heap} {width : Value}
    {elements : List Value} {index : Nat} {contents : Contents ArrayContents}
    (hread : readElements heap width elements index following = .ok contents) :
    ElementsRead heap width elements index following contents := by
  induction following generalizing heap width elements index with
  | nil =>
      rw [readElements] at hread
      cases hread
      exact ⟨rfl, ⟨[], by simp, by simp [body]⟩, by simp [body, SetByLast], Heap.Grows.refl heap⟩
  | cons line rest ih =>
      -- the line sets the width, ends the block, or is an element
      rw [readElements] at hread
      split at hread
      · rename_i hdirective
        obtain ⟨⟨read, middle⟩, hliteral, hrest⟩ := bind_eq_ok.mp hread
        have hspec := ih hrest
        have hne : line ≠ ".end array-data" := by
          rintro rfl
          exact absurd hdirective (by decide)
        refine ⟨?_, ?_, ?_, (Expr.readLiteral_grows hliteral).trans hspec.grows⟩
        · rw [hspec.last, endIndex?_cons_of_ne hne]
        · rw [body_cons_of_ne hne, List.filter_cons_of_neg (by simp [hdirective])]
          exact hspec.elements
        · rw [body_cons_of_ne hne, List.filter_cons_of_pos hdirective]
          exact SetByLast.cons ⟨heap, middle, hliteral, hspec.grows⟩ hspec.width
      · rename_i hdirective
        split at hread
        · rename_i hend
          subst hend
          cases hread
          exact ⟨endIndex?_cons_self.symm, ⟨[], by simp, by simp [body_cons_self]⟩,
            by simp [body_cons_self, SetByLast], Heap.Grows.refl heap⟩
        · rename_i hne
          obtain ⟨⟨element, middle⟩, hliteral, hrest⟩ := bind_eq_ok.mp hread
          have hspec := ih hrest
          refine ⟨?_, ?_, ?_, (Expr.readLiteral_grows hliteral).trans hspec.grows⟩
          · rw [hspec.last, endIndex?_cons_of_ne hne]
          · obtain ⟨added, hadded, hholds⟩ := hspec.elements
            refine ⟨element :: added, by simpa using hadded, ?_⟩
            rw [body_cons_of_ne hne, List.filter_cons_of_pos (by simp [hdirective])]
            exact .cons ⟨heap, middle, hliteral, hspec.grows⟩ hholds
          · rw [body_cons_of_ne hne, List.filter_cons_of_neg hdirective]
            exact hspec.width

end Listing

end Dalvik
