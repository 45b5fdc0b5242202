import Dalvik.Proofs.LiteralForms
import Dalvik.Proofs.Switches

/-!
# Integers wherever a listing writes them

A constant, an element of constant data and the first value of a switch are cut out of their lines
in three ways: by the pattern of the instruction, as the whole line, and between blanks. Each way
gives the digits to the same reader, so an integer has the same spellings in all three places.
-/

namespace Dalvik

/-! ### Spellings without a bound on base sixteen -/

namespace Expr

/-- The digits of a number: in decimal not more than can be read, in base sixteen any number of
them, with their letters and their mark in either case. -/
inductive WrittenMagnitude (n : Nat) : List Char → Prop where
  | decimal (hlength : (Nat.toDigits 10 n).length ≤ Number.maxDigits) :
      WrittenMagnitude n (Nat.toDigits 10 n)
  | hex {mark : Char} {digits : List Char} (zeros : Nat) (hmark : mark = 'x' ∨ mark = 'X')
      (hdigits : digits.map Char.toLower = List.replicate zeros '0' ++ Nat.toDigits 16 n) :
      WrittenMagnitude n ('0' :: mark :: digits)

/-- The texts that write an integer, one that is negated with a minus before its digits. -/
inductive Writes : String → Int → Prop where
  | plain {n : Nat} {text : String} (hdigits : WrittenMagnitude n text.toList) : Writes text n
  | negated {n : Nat} {digits : List Char} {text : String} (htext : text.toList = '-' :: digits)
      (hdigits : WrittenMagnitude n digits) : Writes text (-n)

variable {n : Nat} {value : Int} {chars : List Char} {text : String}

theorem WrittenMagnitude.magnitude (hchars : WrittenMagnitude n chars) : Magnitude chars n := by
  cases hchars with
  | decimal hlength => exact magnitude_toDigits hlength
  | hex zeros hmark hdigits =>
      have hlower := magnitude_hex zeros hdigits
      rcases hmark with rfl | rfl
      · exact hlower
      -- the reader takes the same branch for both marks
      · exact ⟨rfl, hlower.plain, hlower.read⟩

theorem Writes.integer?_eq (hwrites : Writes text value) : integer? text = some value := by
  rw [integer?_eq_some_iff]
  cases hwrites with
  | plain hdigits => exact ⟨.none, _, _, rfl, hdigits.magnitude, rfl⟩
  | negated htext hdigits => exact ⟨.minus, _, _, htext, hdigits.magnitude, rfl⟩

theorem ne_empty_of_integer? (hinteger : integer? text = some value) : text ≠ "" := by
  rintro rfl
  cases hinteger

end Expr

/-! ### Constants -/

namespace Emulator

/-- A constant is loaded from every line with its digits, whatever the gap before them. -/
theorem delivers_const_line (emulator : Emulator) (width : Option Digits) (target : Token)
    (gap : Gap) {literal : String} {value : Int} (hliteral : Expr.integer? literal = some value) :
    emulator.Delivers
      (Statement.marked "const" "/" (width.map (·.text)) ++ " " ++
        (target.text ++ "," ++ gap.text ++ literal))
      target.text (.ok value) := by
  have hempty := Expr.ne_empty_of_integer? hliteral
  have hsolid := Expr.solid_of_integer? hliteral
  have hdelivers : emulator.Delivers
      ((Statement.const width target ⟨literal, hempty, hsolid⟩).print fun _ => gap)
      target.text (.ok value) := delivers_const (fun _ => gap) hliteral
  exact hdelivers

end Emulator

/-! ### Constant data and switches -/

namespace Listing

/-- The line adds the integer to the constant data in which it stands, and does nothing else. -/
def AddsElement (line : String) (value : Int) : Prop :=
  ∀ heap width elements index rest,
    readElements heap width elements index (line :: rest) =
      readElements heap width (elements ++ [.int value]) (index + 1) rest

/-- The line makes the integer the first value of the switch in which it stands, and does nothing
else. -/
def SetsFirst (line : String) (value : Int) : Prop :=
  ∀ heap (switch : Switch) index rest,
    readCases heap switch index (line :: rest) =
      readCases heap { switch with first := .int value } (index + 1) rest

/-- The lines behind the header of constant data that write its elements. -/
def elementLines (following : List String) : List String :=
  (body ".end array-data" following).filter (!Text.beginsWith ".array-data " ·)

/-- The lines behind the header of a switch that write its first value. -/
def firstValueLines (following : List String) : List String :=
  (body ".end packed-switch" following).filter (Text.beginsWith ".packed-switch ")

variable {heap : Heap} {following : List String} {text : String} {value : Int}

theorem addsElement_of_integer? (htext : Expr.integer? text = some value) :
    AddsElement text value := by
  -- the directives of a block have a blank, and an integer has none
  have hblank := Expr.not_mem_of_integer? htext
  have hdirective : Text.beginsWith ".array-data " text = false := by
    rw [← Bool.not_eq_true, Text.beginsWith_iff]
    exact fun hbegins => hblank (hbegins.subset (by decide))
  have hending : text ≠ ".end array-data" := by
    rintro rfl
    exact hblank (by decide)
  intro heap width elements index rest
  rw [readElements, if_neg (by rw [hdirective]; exact Bool.false_ne_true), if_neg hending,
    Expr.readLiteral_integer heap htext]
  rfl

theorem setsFirst_of_integer? (htext : Expr.integer? text = some value) :
    SetsFirst (".packed-switch " ++ text) value := by
  have hdirective : Text.beginsWith ".packed-switch " (".packed-switch " ++ text) = true :=
    Text.beginsWith_append (by decide) text
  intro heap switch index rest
  rw [readCases, if_pos hdirective, firstWord_directive (Expr.not_mem_of_integer? htext),
    Expr.readLiteral_integer heap htext]
  rfl

theorem ArrayDeclared.elements_eq_int {data : DataArray}
    (hdata : ArrayDeclared heap following data) (htext : Expr.integer? text = some value) :
    List.Forall₂ (fun line element => line = text → element = .int value)
      (elementLines following) (heap.items data.elements) :=
  hdata.elements.imp fun _ _ hholds hline => (hline ▸ hholds).eq_int htext

theorem SwitchDeclared.first_eq_int {switch : Switch}
    (hswitch : SwitchDeclared heap following switch) (htext : Expr.integer? text = some value)
    (hlast : (firstValueLines following).getLast? = some (".packed-switch " ++ text)) :
    switch.first = .int value := by
  have hset := hswitch.first
  rw [SetByLast] at hset
  rw [firstValueLines] at hlast
  rw [hlast] at hset
  have hholds : HoldsLiteral heap (firstWord (".packed-switch " ++ text)) switch.first := hset
  rw [firstWord_directive (Expr.not_mem_of_integer? htext)] at hholds
  exact hholds.eq_int htext

end Listing

namespace Emulator

open Listing

/-- **Integers.** Every spelling of an integer is read as that integer in each place of a listing:
as a literal by itself; behind the register of a constant, whatever its width and the gap; as a
line of constant data, where it adds the integer and nothing else; and behind the directive of a
switch, whose first value it becomes. So once a listing is declared, its data hold the integer at
exactly the places where their lines spell it, one element for each line, and a switch begins at
the integer that its last directive spells. -/
theorem integers_read_everywhere (spelling : String) (n : Int)
    (hwrites : Expr.Writes spelling n) :
    (∀ heap, Expr.readLiteral heap spelling = .ok (.int n, heap)) ∧
    (∀ (emulator : Emulator) (width : Option Digits) (target : Token) (gap : Gap),
      emulator.Delivers
        (Statement.marked "const" "/" (width.map (·.text)) ++ " " ++
          (target.text ++ "," ++ gap.text ++ spelling))
        target.text (.ok n)) ∧
    AddsElement spelling n ∧ SetsFirst (".packed-switch " ++ spelling) n ∧
    ∀ (emulator declared : Emulator) (lines : List String) (arguments : Table Datum)
      (tracing : Bool) (name : String) (index : Nat),
      emulator.start lines (({} : Machine).load arguments) tracing = (declared, .done ()) →
      LastOutside (lines.map Text.strip) name index →
      let following := (lines.map Text.strip).drop (index + 1)
      (Header.array.opens name = true → ∃ data,
        declared.machine.arrays.get? name = some data ∧
        List.Forall₂ (fun line element => line = spelling → element = .int n)
          (elementLines following) (declared.machine.heap.items data.elements)) ∧
      (Header.switch.opens name = true →
        (firstValueLines following).getLast? = some (".packed-switch " ++ spelling) →
        ∃ switch, declared.machine.switches.get? name = some switch ∧ switch.first = .int n) := by
  have hinteger := hwrites.integer?_eq
  refine ⟨fun heap => Expr.readLiteral_integer heap hinteger,
    fun emulator width target gap => emulator.delivers_const_line width target gap hinteger,
    addsElement_of_integer? hinteger, setsFirst_of_integer? hinteger, ?_⟩
  intro emulator declared lines arguments tracing name index hstart hlast
  obtain ⟨machine, hscan, hdeclared⟩ := start_eq_of_done (congrArg Prod.snd hstart)
  have hmachine : declared.machine = machine := by
    rw [hstart] at hdeclared
    exact congrArg Emulator.machine hdeclared
  have htables : DeclaredTables (lines.map Text.strip) machine := scan_declaredTables hscan
  rw [hmachine]
  constructor
  · intro hopens
    obtain ⟨data, hdata⟩ := Option.isSome_iff_exists.mp
      ((Table.get?_isSome_iff _ _).mpr ((htables.array_iff name).mpr ⟨hopens, index, hlast⟩))
    exact ⟨data, hdata, (htables.array_declared name data index hdata hlast).elements_eq_int
      hinteger⟩
  · intro hopens hdirective
    obtain ⟨switch, hswitch⟩ := Option.isSome_iff_exists.mp
      ((Table.get?_isSome_iff _ _).mpr ((htables.switch_iff name).mpr ⟨hopens, index, hlast⟩))
    exact ⟨switch, hswitch, (htables.switch_declared name switch index hswitch
      hlast).first_eq_int hinteger hdirective⟩

/-- A spelling with capitals and a leading zero, in constant data and before cases. -/
def spelledListing : List String := [
  ":array_0", ".array-data 4", "-255", "  -0X0fF", ".end array-data",
  ":pswitch_data_0", ".packed-switch -0X0fF", ":pswitch_0", ".end packed-switch"]

theorem spelledListing_headers :
    LastOutside (spelledListing.map Text.strip) ":array_0" 0 ∧
      LastOutside (spelledListing.map Text.strip) ":pswitch_data_0" 5 := by
  constructor
  · exact lastOutside_of_entries (by decide +kernel) (by decide +kernel) (by decide +kernel)
  · exact lastOutside_of_entries (by decide +kernel) (by decide +kernel) (by decide +kernel)

theorem integers_read_everywhere_spelledListing :
    Expr.Writes "-0X0fF" (-255) ∧
    Emulator.Delivers {} "const/16 v0, -0X0fF" "v0" (.ok (-255)) ∧
    ∃ declared data switch,
      Emulator.start {} spelledListing (({} : Machine).load []) false = (declared, .done ()) ∧
      declared.machine.arrays.get? ":array_0" = some data ∧
      List.Forall₂ (fun line element => line = "-0X0fF" → element = .int (-255))
        ["-255", "-0X0fF"] (declared.machine.heap.items data.elements) ∧
      declared.machine.switches.get? ":pswitch_data_0" = some switch ∧
      switch.first = .int (-255) := by
  have hwrites : Expr.Writes "-0X0fF" (-((255 : Nat) : Int)) :=
    @Expr.Writes.negated 255 "0X0fF".toList _ rfl (.hex 1 (Or.inr rfl) (by decide))
  have hfacts : (Emulator.start {} spelledListing (({} : Machine).load []) false).2 = .done () ∧
      elementLines ((spelledListing.map Text.strip).drop 1) = ["-255", "-0X0fF"] ∧
      (firstValueLines ((spelledListing.map Text.strip).drop 6)).getLast? =
        some (".packed-switch " ++ "-0X0fF") := by
    decide +kernel
  obtain ⟨hdone, helements, hfirst⟩ := hfacts
  obtain ⟨-, hconst, -, -, hdeclares⟩ := integers_read_everywhere "-0X0fF" (-255) hwrites
  have hstart := eq_mk_of_snd_eq hdone
  obtain ⟨hdata, hswitch⟩ := spelledListing_headers
  obtain ⟨data, hget, hitems⟩ := (hdeclares {} _ spelledListing [] false _ _ hstart hdata).1 rfl
  obtain ⟨switch, hcases, hvalue⟩ :=
    (hdeclares {} _ spelledListing [] false _ _ hstart hswitch).2 rfl hfirst
  rw [helements] at hitems
  refine ⟨hwrites, ?_, _, data, switch, hstart, hget, hitems, hcases, hvalue⟩
  exact hconst {} (some ⟨"16", by decide, by decide⟩) ⟨"v0", by decide, by decide⟩
    ⟨" ", by decide⟩

end Emulator

end Dalvik
