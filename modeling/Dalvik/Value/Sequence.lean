import Dalvik.Value.Compare

/-!
Sequences: length, items, single places and slices. A negative index counts from the end.
-/

namespace Dalvik.Value

/-- The largest index that a sequence can have. -/
def maxIndex : Int := 0x7fffffffffffffff

def fitsIndex (n : Int) : Bool :=
  -maxIndex - 1 ≤ n && n ≤ maxIndex

/-- The longest sequence that can be built. How much there is room for depends on the machine that
the emulator runs on; the bound is one that no program should come near. -/
def maxLength : Nat := 0x40000000

def length (heap : Heap) (value : Value) : Except Fault Nat :=
  match value with
  | .text s => .ok s.length
  | .bytes data => .ok data.length
  | .list ref | .tuple ref => .ok (heap.items ref).length
  | .set ref => .ok (heap.members ref).size
  | .dict ref => .ok (heap.entries ref).length
  | _ => .error (.noLength value.kind)

def ofChar (c : Char) : Value :=
  .text (String.ofList [c])

/-- What a walk through a value meets, `none` if there is nothing to walk through. -/
def walk? (heap : Heap) (value : Value) : Option (List Value) :=
  match value with
  | .text s => some (s.toList.map ofChar)
  | .bytes data => some (data.map fun byte => .int byte.toNat)
  | .list ref | .tuple ref => some (heap.items ref)
  | .set ref => some (heap.members ref).toList
  | .dict ref => some ((heap.entries ref).map Prod.fst)
  | _ => none

def walk (heap : Heap) (value : Value) : Except Fault (List Value) :=
  match walk? heap value with
  | some items => .ok items
  | none => .error (.notIterable value.kind)

/-- The place in a sequence of the given length that an index means. -/
def resolve (length : Nat) (index : Int) : Option Nat :=
  if 0 ≤ index then
    if index < length then some index.toNat else none
  else if 0 ≤ index + length then some (index + length).toNat
  else none

def itemAt {α : Type} (kind : ValueKind) (items : List α) (index : Value) : Except Fault α :=
  match index.asInt? with
  | none => .error (.badIndex kind index.kind)
  | some n =>
    match (resolve items.length n).bind (items[·]?) with
    | some item => .ok item
    | none => .error (if fitsIndex n then .outOfRange kind else .indexTooWide)

/-- The item of a value at an index or key. -/
def subscript (heap : Heap) (value index : Value) : Except Fault Value :=
  match value with
  | .text s => (itemAt .text s.toList index).map ofChar
  | .bytes data => (itemAt .bytes data index).map fun byte => .int byte.toNat
  | .list ref => itemAt .list (heap.items ref) index
  | .tuple ref => itemAt .tuple (heap.items ref) index
  | .dict ref => do
    match ← lookupKey heap index (heap.entries ref) with
    | some item => return item
    | none => .error (.ofKey (index.shown heap))
  | _ => .error (.notSubscriptable value.kind)

/-- Writes an item of a list or an entry of a dictionary in place. -/
def assign (heap : Heap) (value : Value) (index : Int) (item : Value) : Except Fault Heap :=
  match value with
  | .list ref =>
    match resolve (heap.items ref).length index with
    | some place => .ok (heap.write ref ((heap.items ref).set place item))
    | none => .error (if fitsIndex index then .assignmentOutOfRange else .indexTooWide)
  | .dict ref => do
    return heap.writeTable ref (← insertEntry heap (heap.entries ref) (.int index) item)
  | _ => .error (.noItemAssignment value.kind)

def append (heap : Heap) (value item : Value) : Except Fault Heap :=
  match value with
  | .list ref => .ok (heap.write ref (heap.items ref ++ [item]))
  | _ => .error (.noAttribute value.kind "append")

/-- A bound of a slice, moved into the range from zero to the length. -/
def clamp (length : Nat) (bound : Int) : Nat :=
  if 0 ≤ bound then min bound.toNat length else (bound + length).toNat

def sliceItems {α : Type} (items : List α) (first last : Int) : List α :=
  let first := clamp items.length first
  let last := clamp items.length last
  (items.take last).drop first

/-- The part of a sequence from one bound up to, but without, another. -/
def slice (heap : Heap) (value : Value) (first last : Int) : Except Fault (Value × Heap) :=
  match value with
  | .text s => .ok (.text (String.ofList (sliceItems s.toList first last)), heap)
  | .bytes data => .ok (.bytes (sliceItems data first last), heap)
  | .list ref => .ok (heap.newList (sliceItems (heap.items ref) first last))
  | .tuple ref => .ok (heap.newTuple (sliceItems (heap.items ref) first last))
  | .dict _ => .error (.unhashable "slice")
  | _ => .error (.notSubscriptable value.kind)

def joinItems : Nat → List Value → Except Fault String
  | _, [] => .ok ""
  | position, .text s :: rest => (joinItems (position + 1) rest).map (s ++ ·)
  | position, item :: _ => .error (.notJoinableItem position item.kind)

/-- The texts that a walk through a value meets, one after the other. -/
def join (heap : Heap) (value : Value) : Except Fault String :=
  match walk? heap value with
  | some items => joinItems 0 items
  | none => .error .notJoinable

/-- The code point of a single character. -/
def codePoint (value : Value) : Except Fault Int :=
  match value with
  | .text s =>
    match s.toList with
    | [c] => .ok (Text.codeOf c)
    | chars => .error (.notOneCharacter chars.length)
  | .bytes [byte] => .ok byte.toNat
  | .bytes data => .error (.notOneCharacter data.length)
  | _ => .error (.notACharacter value.kind)

def bytesText (data : List UInt8) : List Char :=
  data.map fun byte => if byte < 128 then Char.ofNat byte.toNat else Char.ofNat 0xfffd

def readNumeral (base : Nat) (text : List Char) (shown : String) : Except Fault Int :=
  match Number.readNumeral base text with
  | .ok n => .ok n
  | .error .invalid => .error (.badNumeral base shown)
  | .error (.tooLong digits) => .error (.numeralTooLong digits)

def truncateFloat (x : Float) : Except Fault Int :=
  match Number.truncate x with
  | some n => .ok n
  | none => .error (if x.isNaN then .nanToInt else .infinityToInt)

/-- The integer that a number stands for, or that a text or byte string writes in base ten. -/
def toInt (value : Value) : Except Fault Int :=
  match value with
  | .int n => .ok n
  | .bool b => .ok (if b then 1 else 0)
  | .float x _ => truncateFloat x
  | .text s => readNumeral 10 s.toList (Text.quote s)
  | .bytes data => readNumeral 10 (bytesText data) (Text.quoteBytes data)
  | _ => .error (.notANumber value.kind)

/-- The integer that a text or byte string writes in the given base. -/
def toIntInBase (base : Nat) (value : Value) : Except Fault Int :=
  match value with
  | .text s => readNumeral base s.toList (Text.quote s)
  | .bytes data => readNumeral base (bytesText data) (Text.quoteBytes data)
  | _ => .error .notAText

/-- Whether a value counts as true. -/
def truth (heap : Heap) (value : Value) : Bool :=
  match value with
  | .null => false
  | .bool b => b
  | .int n => n != 0
  | .float x _ => x != 0
  | .complex real imaginary _ => real != 0 || imaginary != 0
  | .ellipsis | .raised _ _ | .outside _ _ => true
  | _ => (length heap value).toOption != some 0

end Dalvik.Value
