import Dalvik.Text.Code
import Dalvik.Value.Hash
import Dalvik.Value.Members

/-!
Equality and order of values. Numbers compare by their exact value whatever their kind; sequences
compare item by item; sets compare by inclusion; any other mixture is equal to nothing and has
no order. Inside lists and tables a number that differs from itself still is the number it is.
-/

namespace Dalvik

inductive Comparison where
  | lt
  | le
  | eq
  | ne
  | gt
  | ge
deriving DecidableEq, Repr

def Comparison.symbol : Comparison → String
  | .lt => "<"
  | .le => "<="
  | .eq => "=="
  | .ne => "!="
  | .gt => ">"
  | .ge => ">="

def Comparison.holds (test : Comparison) (order : Ordering) : Bool :=
  match test with
  | .lt => order == .lt
  | .le => order != .gt
  | .eq => order == .eq
  | .ne => order != .eq
  | .gt => order == .gt
  | .ge => order != .lt

namespace Value

/-- The order of two real numbers, with `some none` if one of them is not a number. -/
def numberOrder : Numeric → Numeric → Option (Option Ordering)
  | .int m, .int n => some (some (Ord.compare m n))
  | .float x, .float y =>
    some (if x < y then some .lt else if x == y then some .eq else if y < x then some .gt else none)
  | .float x, .int n => some ((Number.compareInt n x).map Ordering.swap)
  | .int n, .float y => some (Number.compareInt n y)
  | _, _ => none

def numberEqual : Numeric → Numeric → Bool
  | .complex a b, .complex c d => a == c && b == d
  | .complex a b, other | other, .complex a b =>
    b == 0 && numberOrder (.float a) other == some (some .eq)
  | left, right => numberOrder left right == some (some .eq)

/-- Whether two values are one number that differs from itself. -/
def sameNumber : Value → Value → Bool
  | .float _ m, .float _ n | .complex _ _ m, .complex _ _ n => m != 0 && m == n
  | _, _ => false

/-- Whether every pair of items is equal, given equality of items. -/
def allEqual (equal : Value → Value → Except Fault Bool) :
    List Value → List Value → Except Fault Bool
  | x :: xs, y :: ys =>
    match equal x y with
    | .ok true => allEqual equal xs ys
    | other => other
  | _, _ => .ok true

def anyEqual (equal : Value → Value → Except Fault Bool) (value : Value) :
    List Value → Except Fault Bool
  | [] => .ok false
  | item :: rest =>
    match equal item value with
    | .ok false => anyEqual equal value rest
    | other => other

def lookupWith (equal : Value → Value → Except Fault Bool) (key : Value) :
    List (Value × Value) → Except Fault (Option Value)
  | [] => .ok none
  | (candidate, value) :: rest =>
    match equal candidate key with
    | .ok true => .ok (some value)
    | .ok false => lookupWith equal key rest
    | .error fault => .error fault

/-- Whether every entry is found, with an equal value, in another table. -/
def entriesIncluded (equal : Value → Value → Except Fault Bool) (others : List (Value × Value)) :
    List (Value × Value) → Except Fault Bool
  | [] => .ok true
  | (key, value) :: rest =>
    match lookupWith equal key others with
    | .ok (some other) =>
      match equal value other with
      | .ok true => entriesIncluded equal others rest
      | result => result
    | .ok none => .ok false
    | .error fault => .error fault

def equalWithin (heap : Heap) : Nat → Value → Value → Except Fault Bool
  | 0, _, _ => .error .tooDeep
  | fuel + 1, left, right =>
    let equalItems (x y : Value) :=
      if sameNumber x y then .ok true else equalWithin heap fuel x y
    match left.numeric?, right.numeric? with
    | some x, some y => .ok (numberEqual x y)
    | _, _ =>
      match left, right with
      | .null, .null | .ellipsis, .ellipsis => .ok true
      | .text s, .text t => .ok (s == t)
      | .bytes s, .bytes t => .ok (s == t)
      | .list r, .list s | .tuple r, .tuple s =>
        if r = s then .ok true
        else if (heap.items r).length != (heap.items s).length then .ok false
        else allEqual equalItems (heap.items r) (heap.items s)
      | .set r, .set s =>
        if (heap.members r).size != (heap.members s).size then .ok false
        else (heap.members r).included equalItems (heap.members s)
      | .dict r, .dict s =>
        if r = s then .ok true
        else if (heap.entries r).length != (heap.entries s).length then .ok false
        else entriesIncluded equalItems (heap.entries s) (heap.entries r)
      | .raised _ m, .raised _ n => .ok (m == n)
      | .outside kind s, .outside other t => .ok (kind == other && s == t)
      | _, _ => .ok false

def equal (heap : Heap) (left right : Value) : Except Fault Bool :=
  equalWithin heap depthLimit left right

/-- Equality of items in lists and tables. -/
def equalItems (heap : Heap) (left right : Value) : Except Fault Bool :=
  if sameNumber left right then .ok true else equal heap left right

/-- Texts are ordered by code points. -/
def textOrder : List Char → List Char → Ordering
  | [], [] => .eq
  | [], _ => .lt
  | _, [] => .gt
  | c :: s, d :: t => (Ord.compare (Text.codeOf c) (Text.codeOf d)).then (textOrder s t)

def bytesOrder : List UInt8 → List UInt8 → Ordering
  | [], [] => .eq
  | [], _ => .lt
  | _, [] => .gt
  | x :: xs, y :: ys => if x < y then .lt else if y < x then .gt else bytesOrder xs ys

/-- The first pair of items that differ; `none` once one of the sequences has ended. -/
def firstDifference (equal : Value → Value → Except Fault Bool) :
    List Value → List Value → Except Fault (Option (Value × Value))
  | x :: xs, y :: ys =>
    match equal x y with
    | .ok true => firstDifference equal xs ys
    | .ok false => .ok (some (x, y))
    | .error fault => .error fault
  | _, _ => .ok none

/-- Sets are ordered by inclusion. -/
def setOrder (heap : Heap) (test : Comparison) (left right : Members) : Except Fault Bool :=
  match test with
  | .le => inside left right
  | .ge => inside right left
  | .lt => if left.size < right.size then inside left right else .ok false
  | _ => if right.size < left.size then inside right left else .ok false
where
  inside (left right : Members) : Except Fault Bool :=
    if left.size ≤ right.size then left.included (equalItems heap) right else .ok false

def orderedWithin (heap : Heap) (test : Comparison) : Nat → Value → Value → Except Fault Bool
  | 0, _, _ => .error .tooDeep
  | fuel + 1, left, right =>
    let refusal := Fault.unordered test.symbol left.kind right.kind
    match left.numeric?, right.numeric? with
    | some x, some y =>
      match numberOrder x y with
      | some order => .ok (order.any test.holds)
      | none => .error refusal
    | _, _ =>
      match left, right with
      | .text s, .text t => .ok (test.holds (textOrder s.toList t.toList))
      | .bytes s, .bytes t => .ok (test.holds (bytesOrder s t))
      | .list r, .list s | .tuple r, .tuple s => do
        let difference ←
          if r = s then pure none
          else firstDifference (equalItems heap) (heap.items r) (heap.items s)
        match difference with
        | some (x, y) => orderedWithin heap test fuel x y
        | none =>
          return test.holds (Ord.compare (heap.items r).length (heap.items s).length)
      | .set r, .set s => setOrder heap test (heap.members r) (heap.members s)
      | _, _ => .error refusal

/-- Whether a comparison holds between two values. -/
def compare (heap : Heap) (test : Comparison) (left right : Value) : Except Fault Bool :=
  match test with
  | .eq => equal heap left right
  | .ne => (equal heap left right).map (!·)
  | _ => orderedWithin heap test depthLimit left right

/-- Only values that have a hash may be keys. -/
def lookupKey (heap : Heap) (key : Value) (entries : List (Value × Value)) :
    Except Fault (Option Value) := do
  let _ ← key.hash heap
  lookupWith (equalItems heap) key entries

def replaceEntry (equal : Value → Value → Except Fault Bool) (key value : Value) :
    List (Value × Value) → Except Fault (List (Value × Value))
  | [] => .ok [(key, value)]
  | (candidate, old) :: rest =>
    match equal candidate key with
    | .ok true => .ok ((candidate, value) :: rest)
    | .ok false => (replaceEntry equal key value rest).map ((candidate, old) :: ·)
    | .error fault => .error fault

/-- A key that is there keeps its place and gets the new value; a new one goes to the end. -/
def insertEntry (heap : Heap) (entries : List (Value × Value)) (key value : Value) :
    Except Fault (List (Value × Value)) := do
  let _ ← key.hash heap
  replaceEntry (equalItems heap) key value entries

def insertMember (heap : Heap) (members : Members) (item : Value) : Except Fault Members := do
  members.insert (equalItems heap) (← item.hash heap) item

/-- The set of the given items, added one after the other. -/
def setOf (heap : Heap) (items : List Value) : Except Fault Members :=
  items.foldlM (insertMember heap) .empty

end Value

end Dalvik
