import Dalvik.Value.Format

/-!
Operators on any two values. Numbers are calculated with, sequences are joined and repeated, sets
and tables are combined, and every other pair is refused.
-/

namespace Dalvik

inductive Operator where
  | add
  | sub
  | mul
  | div
  | floorDiv
  | mod
  | pow
  | shl
  | shr
  | and
  | or
  | xor
  | matMul
deriving DecidableEq, Repr

def Operator.symbol : Operator → String
  | .add => "+"
  | .sub => "-"
  | .mul => "*"
  | .div => "/"
  | .floorDiv => "//"
  | .mod => "%"
  | .pow => "** or pow()"
  | .shl => "<<"
  | .shr => ">>"
  | .and => "&"
  | .or => "|"
  | .xor => "^"
  | .matMul => "@"

namespace Value

def isSequence : Value → Bool
  | .text _ | .bytes _ | .list _ | .tuple _ => true
  | _ => false

def repeatItems {α : Type} (items : List α) (count : Nat) : List α :=
  (List.replicate count items).flatten

/-- A sequence repeated; a negative count counts as zero. -/
def repeatSequence (heap : Heap) (value : Value) (count : Int) : Except Fault (Value × Heap) := do
  if !fitsIndex count then .error .repeatTooWide
  let size := (← length heap value) * count.toNat
  if size > maxLength then
    match value with
    | .text _ | .bytes _ =>
      if (size : Int) > maxIndex then .error (.repeatTooLong value.kind) else .error .outOfMemory
    | _ => .error .outOfMemory
  else
    let count := if size = 0 then 0 else count.toNat
    match value with
    | .text s => return (.text (String.ofList (repeatItems s.toList count)), heap)
    | .bytes data => return (.bytes (repeatItems data count), heap)
    | .list ref => return heap.newList (repeatItems (heap.items ref) count)
    | .tuple ref => return heap.newTuple (repeatItems (heap.items ref) count)
    | _ => .error (.notRepeatable value.kind)

def add (heap : Heap) (symbol : String) (left right : Value) : Except Fault (Value × Heap) :=
  match left.numeric?, right.numeric? with
  | some x, some y => (x.add y).map heap.newNumber
  | _, _ =>
    match left, right with
    | .text s, .text t => .ok (.text (s ++ t), heap)
    | .bytes s, .bytes t => .ok (.bytes (s ++ t), heap)
    | .list r, .list s => .ok (heap.newList (heap.items r ++ heap.items s))
    | .tuple r, .tuple s => .ok (heap.newTuple (heap.items r ++ heap.items s))
    | _, _ =>
      if left.isSequence then .error (.notConcatenable left.kind right.kind)
      else .error (.unsupportedOperands symbol left.kind right.kind)

/-- Adding to a list in place takes in whatever a walk through the other value meets. -/
def addInPlace (heap : Heap) (left right : Value) : Except Fault (Value × Heap) :=
  match left with
  | .list ref => do
    let items ← walk heap right
    return (left, heap.write ref (heap.items ref ++ items))
  | _ => add heap "+=" left right

def sub (heap : Heap) (symbol : String) (left right : Value) : Except Fault (Value × Heap) :=
  match left.numeric?, right.numeric? with
  | some x, some y => (x.sub y).map heap.newNumber
  | _, _ =>
    match left, right with
    | .set r, .set s =>
      ((heap.members r).diff (equalItems heap) (heap.members s)).map heap.newSet
    | _, _ => .error (.unsupportedOperands symbol left.kind right.kind)

def mul (heap : Heap) (symbol : String) (left right : Value) : Except Fault (Value × Heap) :=
  match left.numeric?, right.numeric? with
  | some x, some y => (x.mul y).map heap.newNumber
  | _, _ =>
    if left.isSequence then
      match right.asInt? with
      | some count => repeatSequence heap left count
      | none => .error (.notRepeatable right.kind)
    else if right.isSequence then
      match left.asInt? with
      | some count => repeatSequence heap right count
      | none => .error (.notRepeatable left.kind)
    else .error (.unsupportedOperands symbol left.kind right.kind)

/-- An operator that only numbers have. -/
def onNumbers (heap : Heap) (symbol : String)
    (operation : Fault → Numeric → Numeric → Except Fault Numeric) (left right : Value) :
    Except Fault (Value × Heap) :=
  let refusal := Fault.unsupportedOperands symbol left.kind right.kind
  match left.numeric?, right.numeric? with
  | some x, some y => (operation refusal x y).map heap.newNumber
  | _, _ => .error refusal

/-- The remainder of numbers; a text on the left has its conversions filled in instead. -/
def mod (heap : Heap) (symbol : String) (left right : Value) : Except Fault (Value × Heap) :=
  match left with
  | .text s => do
    return (.text (String.ofList (← format heap s.toList right .text)), heap)
  | .bytes data => do
    let text := data.map fun byte => Char.ofNat byte.toNat
    let filled ← format heap text right .bytes
    return (.bytes (filled.map fun c => c.toNat.toUInt8), heap)
  | _ => onNumbers heap symbol Numeric.mod left right

/-- A bitwise operator. Of two truth values it makes a truth value; sets have it too. -/
def bitwise (heap : Heap) (symbol : String) (onBools : Bool → Bool → Bool)
    (onInts : Int → Int → Int) (onSets : Members → Members → Except Fault Members)
    (left right : Value) : Except Fault (Value × Heap) :=
  match left, right with
  | .bool a, .bool b => .ok (.bool (onBools a b), heap)
  | .set r, .set s => (onSets (heap.members r) (heap.members s)).map heap.newSet
  | _, _ =>
    match left.asInt?, right.asInt? with
    | some m, some n => .ok (.int (onInts m n), heap)
    | _, _ => .error (.unsupportedOperands symbol left.kind right.kind)

def sameSet : Value → Value → Bool
  | .set r, .set s => r == s
  | _, _ => false

/-- The common members of a set with itself are a copy of it. -/
def bitAnd (heap : Heap) (symbol : String) (left right : Value) : Except Fault (Value × Heap) :=
  bitwise heap symbol (· && ·) Number.bitAnd
    (fun first second =>
      if left.sameSet right then .ok first.copy else first.inter (equalItems heap) second)
    left right

def bitXor (heap : Heap) (symbol : String) : Value → Value → Except Fault (Value × Heap) :=
  bitwise heap symbol (· != ·) Number.bitXor (Members.symmDiff (equalItems heap))

/-- Tables are merged, entries of the right one winning. -/
def bitOr (heap : Heap) (symbol : String) (left right : Value) : Except Fault (Value × Heap) :=
  match left, right with
  | .dict r, .dict s => do
    let merged ← (heap.entries s).foldlM
      (fun entries (key, value) => insertEntry heap entries key value) (heap.entries r)
    return heap.newDict merged
  | _, _ =>
    bitwise heap symbol (· || ·) Number.bitOr
      (fun first second =>
        if left.sameSet right then .ok first.copy else first.union (equalItems heap) second)
      left right

/-- Widest shift that can be carried out. As with `maxLength`, the memory that there is decides. -/
def maxShift : Int := 0x100000000

def shift (heap : Heap) (symbol : String) (operation : Int → Int → Except Fault Int)
    (left right : Value) : Except Fault (Value × Heap) :=
  match left.asInt?, right.asInt? with
  | some m, some n =>
    if n < 0 then .error .negativeShift else (operation m n).map fun result => (.int result, heap)
  | _, _ => .error (.unsupportedOperands symbol left.kind right.kind)

def shiftLeft (heap : Heap) (symbol : String) : Value → Value → Except Fault (Value × Heap) :=
  shift heap symbol fun m n =>
    if m = 0 then .ok 0
    else if n ≤ maxShift then .ok (Number.shiftLeft m n.toNat)
    else if n ≤ maxIndex then .error .outOfMemory
    else .error .shiftTooWide

def shiftRight (heap : Heap) (symbol : String) : Value → Value → Except Fault (Value × Heap) :=
  shift heap symbol fun m n =>
    if n ≤ maxShift then .ok (Number.shiftRight m n.toNat)
    else .ok (if m < 0 then -1 else 0)

def operate (heap : Heap) (operator : Operator) (left right : Value) :
    Except Fault (Value × Heap) :=
  let symbol := operator.symbol
  match operator with
  | .add => add heap symbol left right
  | .sub => sub heap symbol left right
  | .mul => mul heap symbol left right
  | .div => onNumbers heap symbol (fun _ => Numeric.div) left right
  | .floorDiv => onNumbers heap symbol Numeric.floorDiv left right
  | .mod => mod heap symbol left right
  | .pow => onNumbers heap symbol (fun _ => Numeric.pow) left right
  | .shl => shiftLeft heap symbol left right
  | .shr => shiftRight heap symbol left right
  | .and => bitAnd heap symbol left right
  | .or => bitOr heap symbol left right
  | .xor => bitXor heap symbol left right
  | .matMul => .error (.unsupportedOperands symbol left.kind right.kind)

/-- Operators in place; they differ from the plain ones in how they are named and, for lists, in
changing the list that is there. -/
def xorInPlace (heap : Heap) (left right : Value) : Except Fault (Value × Heap) :=
  bitXor heap "^=" left right

end Value

end Dalvik
