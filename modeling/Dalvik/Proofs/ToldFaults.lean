import Dalvik.Value.Sequence

/-!
# Faults that can be told

A fault has a text, with one exception: that of looking up a key which is not there and cannot be
written out. Only a table can be asked for such a key, so that every other computation ends with a
value or with a fault that can be told. That there are no lines at all is told before any program.
-/

namespace Dalvik

/-- A fault of a program that has a text. -/
def Fault.isTold : Fault → Bool
  | .missingUnshown _ | .missingSource => false
  | _ => true

/-- A value with a property, or an error that is fine. -/
inductive Meets {ε α : Type} (fine : ε → Prop) (post : α → Prop) : Except ε α → Prop where
  | ok {value : α} (hvalue : post value) : Meets fine post (.ok value)
  | error {error : ε} (herror : fine error) : Meets fine post (.error error)

/-- A value with a property, or a fault that can be told. -/
abbrev Sound {α : Type} (post : α → Prop) (result : Except Fault α) : Prop :=
  Meets (fun cause => cause.isTold = true) post result

/-- A value, or a fault that can be told. -/
abbrev Told {α : Type} (result : Except Fault α) : Prop :=
  Sound (fun _ => True) result

section Combinators

variable {ε α β : Type} {fine : ε → Prop} {before : α → Prop} {after : β → Prop}

theorem Meets.bind {x : Except ε α} {next : α → Except ε β} (hx : Meets fine before x)
    (hnext : ∀ value, before value → Meets fine after (next value)) :
    Meets fine after (x >>= next) := by
  cases hx with
  | ok hvalue => exact hnext _ hvalue
  | error herror => exact .error herror

theorem Meets.map {x : Except ε α} {make : α → β} (hx : Meets fine before x)
    (hmake : ∀ value, before value → after (make value)) : Meets fine after (x.map make) := by
  cases hx with
  | ok hvalue => exact .ok (hmake _ hvalue)
  | error herror => exact .error herror

theorem Meets.mono {post : α → Prop} {x : Except ε α} (hx : Meets fine before x)
    (hpost : ∀ value, before value → post value) : Meets fine post x := by
  cases hx with
  | ok hvalue => exact .ok (hpost _ hvalue)
  | error herror => exact .error herror

/-- What comes next may know the value. -/
theorem Meets.eq {x : Except ε α} (hx : Meets fine before x) :
    Meets fine (fun value => x = .ok value) x := by
  cases hx with
  | ok => exact .ok rfl
  | error herror => exact .error herror

theorem Meets.fine_of_eq {x : Except ε α} {error : ε} (hx : Meets fine before x)
    (heq : x = .error error) : fine error := by
  subst heq
  cases hx with
  | error herror => exact herror

theorem Meets.ite {condition : Prop} [Decidable condition] {x y : Except ε α}
    (hx : Meets fine before x) (hy : Meets fine before y) :
    Meets fine before (if condition then x else y) := by
  split
  · exact hx
  · exact hy

theorem sound_ok {value : α} (hvalue : before value) : Sound before (.ok value) :=
  .ok hvalue

theorem told_ok (value : α) : Told (.ok value : Except Fault α) :=
  .ok trivial

theorem sound_error {cause : Fault} (htold : cause.isTold = true) :
    Sound before (.error cause) :=
  .error htold

theorem Told.bind {x : Except Fault α} {next : α → Except Fault β} (hx : Told x)
    (hnext : ∀ value, Sound after (next value)) : Sound after (x >>= next) :=
  Meets.bind hx fun value _ => hnext value

theorem Told.map {x : Except Fault α} {make : α → β} (hx : Told x)
    (hmake : ∀ value, after (make value)) : Sound after (x.map make) :=
  Meets.map hx fun value _ => hmake value

theorem told_mapError {δ : Type} (x : Except δ α) {change : δ → Fault}
    (hchange : ∀ error, (change error).isTold = true) : Told (x.mapError change) := by
  cases x with
  | ok value => exact told_ok value
  | error error => exact sound_error (hchange error)

theorem told_mapM {f : α → Except Fault β} (hf : ∀ item, Told (f item)) (items : List α) :
    Told (items.mapM f) := by
  induction items with
  | nil => exact told_ok []
  | cons item rest ih =>
      rw [List.mapM_cons]
      exact (hf item).bind fun _ => ih.bind fun _ => told_ok _

theorem told_allM {f : α → Except Fault Bool} (hf : ∀ item, Told (f item)) (items : List α) :
    Told (items.allM f) := by
  induction items with
  | nil => exact told_ok true
  | cons item rest ih =>
      refine (hf item).bind fun holds => ?_
      cases holds with
      | true => exact ih
      | false => exact told_ok false

end Combinators

/-! ### Texts and hashes of values -/

namespace Fault

theorem text_of_isTold {cause : Fault} (htold : cause.isTold = true) :
    ∃ text, cause.text = .ok text := by
  cases cause with
  | missingUnshown obstacle => cases htold
  | missingSource => cases htold
  | _ => exact ⟨_, rfl⟩

theorem ofObstacle_isTold (obstacle : Obstacle) : (ofObstacle obstacle).isTold = true := by
  cases obstacle <;> rfl

/-- What stands in the way of telling a fault can itself be told. -/
theorem text_told (cause : Fault) : Told cause.text := by
  unfold text
  split
  · exact sound_error (ofObstacle_isTold _)
  · exact told_ok _

theorem shown_told (cause : Fault) : Told cause.shown := by
  unfold shown
  split
  · exact told_ok _
  · exact sound_error (ofObstacle_isTold _)
  all_goals exact told_ok _

end Fault

namespace Value

theorem intText_told (n : Int) : Told (intText n) := by
  unfold intText
  generalize Nat.pow 10 Number.maxDigits = bound
  split
  · exact told_ok _
  · exact sound_error rfl

theorem shownWithin_told (heap : Heap) (fuel : Nat) (path : List Container) (value : Value) :
    Told (shownWithin heap fuel path value) := by
  induction fuel generalizing path value with
  | zero => exact sound_error rfl
  | succ fuel ih =>
      cases value with
      | int n =>
          simp only [shownWithin]
          exact intText_told n
      | list ref =>
          simp only [shownWithin]
          split
          · exact told_ok _
          · exact (told_mapM (ih _) _).bind fun _ => told_ok _
      | tuple ref =>
          simp only [shownWithin]
          split
          · exact told_ok _
          · refine (told_mapM (ih _) _).bind fun parts => ?_
            split <;> exact told_ok _
      | set ref =>
          simp only [shownWithin]
          refine (told_mapM (ih _) _).bind fun parts => ?_
          split <;> exact told_ok _
      | dict ref =>
          simp only [shownWithin]
          split
          · exact told_ok _
          · refine (told_mapM (fun entry => ?_) _).bind fun _ => told_ok _
            exact (ih _ _).bind fun _ => (ih _ _).bind fun _ => told_ok _
      | raised cause serial => exact cause.shown_told
      | _ => exact told_ok _

theorem shown_told (heap : Heap) (value : Value) : Told (value.shown heap) :=
  shownWithin_told heap depthLimit [] value

theorem plain_told (heap : Heap) (value : Value) : Told (value.plain heap) := by
  unfold plain
  split
  · exact told_ok _
  · exact Fault.text_told _
  · exact shown_told heap value

theorem hashWithin_told (heap : Heap) (fuel : Nat) (value : Value) :
    Told (hashWithin heap fuel value) := by
  induction fuel generalizing value with
  | zero => exact sound_error rfl
  | succ fuel ih =>
      cases value with
      | tuple ref => exact (told_mapM ih _).bind fun _ => told_ok _
      | list ref | dict ref | set ref => exact sound_error rfl
      | _ => exact told_ok _

theorem hash_told (heap : Heap) (value : Value) : Told (value.hash heap) :=
  hashWithin_told heap depthLimit value

end Value

/-! ### Looking for equal values -/

namespace Members

theorem exists_of_seek_eq_some {α : Type} {size : Nat} {stop : Nat → Option α}
    {fuel index hash : Nat} {result : α} (hseek : seek size stop fuel index hash = some result) :
    ∃ place, stop place = some result := by
  induction fuel generalizing index hash with
  | zero => cases hseek
  | succ fuel ih =>
      simp only [seek] at hseek
      split at hseek
      · rename_i found hfound
        cases hseek
        obtain ⟨step, -, hstop⟩ := List.exists_of_findSome?_eq_some hfound
        exact ⟨_, hstop⟩
      · exact ih hseek

section

variable {equal : Value → Value → Except Fault Bool}
  (hequal : ∀ left right, Told (equal left right))

include hequal

theorem locate_told (members : Members) (hash : UInt64) (value : Value) :
    Told (members.locate equal hash value) := by
  unfold locate
  simp only
  generalize hfound : members.seekFor hash _ = found
  cases found with
  | none => exact told_ok _
  | some result =>
      obtain ⟨place, hplace⟩ := exists_of_seek_eq_some hfound
      obtain ⟨slot, -, hslot⟩ := Option.bind_eq_some_iff.mp hplace
      -- a search stops at a vacant slot, at an equal member, or where equality fails
      cases slot with
      | vacant =>
          cases hslot
          exact told_ok _
      | erased => cases hslot
      | taken other member =>
          have hmember := hequal member value
          simp only at hslot
          split at hslot
          · split at hslot
            · cases hslot
              exact told_ok _
            · cases hslot
            · rename_i fault hfault
              cases hslot
              exact sound_error (hmember.fine_of_eq hfault)
          · cases hslot

theorem contains_told (members : Members) (hash : UInt64) (value : Value) :
    Told (members.contains equal hash value) := by
  refine (locate_told hequal members hash value).bind fun found => ?_
  cases found <;> exact told_ok _

theorem included_told (left right : Members) : Told (left.included equal right) := by
  unfold included
  refine told_allM (fun entry => ?_) left.entries
  exact contains_told hequal right entry.1 entry.2

theorem insert_told (members : Members) (hash : UInt64) (value : Value) :
    Told (members.insert equal hash value) := by
  refine (locate_told hequal members hash value).bind fun found => ?_
  cases found with
  | member index => exact told_ok _
  | vacancy index =>
      dsimp only
      split <;> exact told_ok _

end

end Members

namespace Value

section

variable {equal : Value → Value → Except Fault Bool}
  (hequal : ∀ left right, Told (equal left right))

include hequal

theorem allEqual_told (left right : List Value) : Told (allEqual equal left right) := by
  induction left generalizing right with
  | nil => exact told_ok true
  | cons x xs ih =>
      cases right with
      | nil => exact told_ok true
      | cons y ys =>
          have hxy := hequal x y
          rw [allEqual]
          split
          · exact ih ys
          · exact hxy

theorem anyEqual_told (value : Value) (items : List Value) : Told (anyEqual equal value items) := by
  induction items with
  | nil => exact told_ok false
  | cons item rest ih =>
      have hitem := hequal item value
      rw [anyEqual]
      split
      · exact ih
      · exact hitem

theorem lookupWith_told (key : Value) (entries : List (Value × Value)) :
    Told (lookupWith equal key entries) := by
  induction entries with
  | nil => exact told_ok none
  | cons entry rest ih =>
      obtain ⟨candidate, value⟩ := entry
      have hcandidate := hequal candidate key
      rw [lookupWith]
      split
      · exact told_ok _
      · exact ih
      · rename_i fault hfault
        exact sound_error (hcandidate.fine_of_eq hfault)

theorem entriesIncluded_told (others entries : List (Value × Value)) :
    Told (entriesIncluded equal others entries) := by
  induction entries with
  | nil => exact told_ok true
  | cons entry rest ih =>
      obtain ⟨key, value⟩ := entry
      have hlookup := lookupWith_told hequal key others
      rw [entriesIncluded]
      split
      · rename_i other _
        have hvalue := hequal value other
        split
        · exact ih
        · exact hvalue
      · exact told_ok false
      · rename_i fault hfault
        exact sound_error (hlookup.fine_of_eq hfault)

theorem firstDifference_told (left right : List Value) :
    Told (firstDifference equal left right) := by
  induction left generalizing right with
  | nil => exact told_ok none
  | cons x xs ih =>
      cases right with
      | nil => exact told_ok none
      | cons y ys =>
          have hxy := hequal x y
          rw [firstDifference]
          split
          · exact ih ys
          · exact told_ok _
          · rename_i fault hfault
            exact sound_error (hxy.fine_of_eq hfault)

theorem replaceEntry_told (key value : Value) (entries : List (Value × Value)) :
    Told (replaceEntry equal key value entries) := by
  induction entries with
  | nil => exact told_ok _
  | cons entry rest ih =>
      obtain ⟨candidate, old⟩ := entry
      have hcandidate := hequal candidate key
      rw [replaceEntry]
      split
      · exact told_ok _
      · exact ih.map fun _ => trivial
      · rename_i fault hfault
        exact sound_error (hcandidate.fine_of_eq hfault)

end

theorem equalWithin_told (heap : Heap) (fuel : Nat) (left right : Value) :
    Told (equalWithin heap fuel left right) := by
  induction fuel generalizing left right with
  | zero => exact sound_error rfl
  | succ fuel ih =>
      have hitems : ∀ x y,
          Told (if sameNumber x y then .ok true else equalWithin heap fuel x y) := by
        intro x y
        split
        · exact told_ok true
        · exact ih x y
      unfold equalWithin
      dsimp only
      split
      · exact told_ok _
      · split
        case h_5 | h_6 =>
          split
          · exact told_ok _
          · split
            · exact told_ok _
            · exact allEqual_told hitems _ _
        case h_7 =>
          split
          · exact told_ok _
          · exact Members.included_told hitems _ _
        case h_8 =>
          split
          · exact told_ok _
          · split
            · exact told_ok _
            · exact entriesIncluded_told hitems _ _
        all_goals exact told_ok _

theorem equal_told (heap : Heap) (left right : Value) : Told (equal heap left right) :=
  equalWithin_told heap depthLimit left right

theorem equalItems_told (heap : Heap) (left right : Value) : Told (equalItems heap left right) := by
  unfold equalItems
  split
  · exact told_ok true
  · exact equal_told heap left right

theorem setOrder_told (heap : Heap) (test : Comparison) (left right : Members) :
    Told (setOrder heap test left right) := by
  have hinside : ∀ first second, Told (setOrder.inside heap first second) := by
    intro first second
    unfold setOrder.inside
    split
    · exact Members.included_told (equalItems_told heap) first second
    · exact told_ok false
  unfold setOrder
  split
  · exact hinside left right
  · exact hinside right left
  all_goals
    split
    · exact hinside _ _
    · exact told_ok false

theorem orderedWithin_told (heap : Heap) (test : Comparison) (fuel : Nat) (left right : Value) :
    Told (orderedWithin heap test fuel left right) := by
  induction fuel generalizing left right with
  | zero => exact sound_error rfl
  | succ fuel ih =>
      unfold orderedWithin
      dsimp only
      split
      · split
        · exact told_ok _
        · exact sound_error rfl
      · split
        case h_3 | h_4 =>
          split
          · exact told_ok _
          · refine (firstDifference_told (equalItems_told heap) _ _).bind fun difference => ?_
            split
            · exact ih _ _
            · exact told_ok _
        case h_5 => exact setOrder_told heap test _ _
        case h_6 => exact sound_error rfl
        all_goals exact told_ok _

theorem compare_told (heap : Heap) (test : Comparison) (left right : Value) :
    Told (compare heap test left right) := by
  unfold compare
  split
  · exact equal_told heap left right
  · exact (equal_told heap left right).map fun _ => trivial
  · exact orderedWithin_told heap test depthLimit left right

theorem lookupKey_told (heap : Heap) (key : Value) (entries : List (Value × Value)) :
    Told (lookupKey heap key entries) :=
  (hash_told heap key).bind fun _ => lookupWith_told (equalItems_told heap) key entries

theorem insertEntry_told (heap : Heap) (entries : List (Value × Value)) (key value : Value) :
    Told (insertEntry heap entries key value) :=
  (hash_told heap key).bind fun _ => replaceEntry_told (equalItems_told heap) key value entries

theorem insertMember_told (heap : Heap) (members : Members) (item : Value) :
    Told (insertMember heap members item) :=
  (hash_told heap item).bind fun _ => Members.insert_told (equalItems_told heap) members _ item

/-! ### Sequences -/

theorem length_told (heap : Heap) (value : Value) : Told (value.length heap) := by
  cases value with
  | text | bytes | list | tuple | set | dict => exact told_ok _
  | _ => exact sound_error rfl

theorem itemAt_told {α : Type} (kind : ValueKind) (items : List α) (index : Value) :
    Told (itemAt kind items index) := by
  unfold itemAt
  split
  · exact sound_error rfl
  · split
    · exact told_ok _
    · split <;> exact sound_error rfl

/-- A key that can be shown can be told if it is missing. -/
theorem subscript_told {heap : Heap} {index : Value} {shown : String}
    (hshown : index.shown heap = .ok shown) (value : Value) :
    Told (value.subscript heap index) := by
  cases value with
  | text s => exact (itemAt_told _ _ _).map fun _ => trivial
  | bytes data => exact (itemAt_told _ _ _).map fun _ => trivial
  | list ref => exact itemAt_told _ _ _
  | tuple ref => exact itemAt_told _ _ _
  | dict ref =>
      refine (lookupKey_told heap index _).bind fun found => ?_
      cases found with
      | some item => exact told_ok item
      | none =>
          rw [hshown]
          exact sound_error rfl
  | _ => exact sound_error rfl

theorem assign_told (heap : Heap) (value : Value) (index : Int) (item : Value) :
    Told (value.assign heap index item) := by
  unfold assign
  split
  · split
    · exact told_ok _
    · split <;> exact sound_error rfl
  · exact (insertEntry_told heap _ _ item).bind fun _ => told_ok _
  · exact sound_error rfl

theorem append_told (heap : Heap) (value item : Value) : Told (value.append heap item) := by
  unfold append
  split
  · exact told_ok _
  · exact sound_error rfl

theorem joinItems_told (position : Nat) (items : List Value) : Told (joinItems position items) := by
  induction items generalizing position with
  | nil => exact told_ok ""
  | cons item rest ih =>
      cases item with
      | text s => exact (ih (position + 1)).map fun _ => trivial
      | _ => exact sound_error rfl

theorem join_told (heap : Heap) (value : Value) : Told (value.join heap) := by
  unfold join
  split
  · exact joinItems_told 0 _
  · exact sound_error rfl

theorem codePoint_told (value : Value) : Told value.codePoint := by
  unfold codePoint
  split
  · split
    · exact told_ok _
    · exact sound_error rfl
  · exact told_ok _
  · exact sound_error rfl
  · exact sound_error rfl

theorem readNumeral_told (base : Nat) (text : List Char) (shown : String) :
    Told (readNumeral base text shown) := by
  unfold readNumeral
  split
  · exact told_ok _
  · exact sound_error rfl
  · exact sound_error rfl

theorem truncateFloat_told (x : Float) : Told (truncateFloat x) := by
  unfold truncateFloat
  split
  · exact told_ok _
  · split <;> exact sound_error rfl

theorem toInt_told (value : Value) : Told value.toInt := by
  unfold toInt
  split
  · exact told_ok _
  · exact told_ok _
  · exact truncateFloat_told _
  · exact readNumeral_told _ _ _
  · exact readNumeral_told _ _ _
  · exact sound_error rfl

theorem toIntInBase_told (base : Nat) (value : Value) : Told (value.toIntInBase base) := by
  unfold toIntInBase
  split
  · exact readNumeral_told _ _ _
  · exact readNumeral_told _ _ _
  · exact sound_error rfl

end Value

end Dalvik
