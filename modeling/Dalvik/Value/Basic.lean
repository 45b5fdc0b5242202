import Dalvik.Value.Fault

/-!
Values of registers, and the store of the lists and tables that registers share. Two registers that
hold the same reference see each other's changes.
-/

namespace Dalvik

abbrev Ref := Nat

inductive Value where
  | null
  | bool (b : Bool)
  | int (n : Int)
  /-- A number that differs from itself has a serial number, by which lists and tables still find
  it; that of any other number is zero. -/
  | float (x : Float) (serial : Nat)
  | complex (real imaginary : Float) (serial : Nat)
  | ellipsis
  | text (s : String)
  | bytes (data : List UInt8)
  | list (ref : Ref)
  | tuple (ref : Ref)
  | dict (ref : Ref)
  | set (ref : Ref)
  /-- A fault that was raised; the serial number tells apart faults that look the same. -/
  | raised (cause : Fault) (serial : Nat)
  /-- Something that is no value of programs, with the name of its kind and its text. -/
  | outside (kind shown : String)
deriving Inhabited

def Value.kind : Value → ValueKind
  | .null => .null
  | .bool _ => .bool
  | .int _ => .int
  | .float _ _ => .float
  | .complex _ _ _ => .complex
  | .ellipsis => .ellipsis
  | .text _ => .text
  | .bytes _ => .bytes
  | .list _ => .list
  | .tuple _ => .tuple
  | .dict _ => .dict
  | .set _ => .set
  | .raised cause _ => .fault cause.kind
  | .outside kind _ => .outside kind

/-- A number, apart from the serial number that it may have as a value. -/
inductive Numeric where
  | int (n : Int)
  | float (x : Float)
  | complex (real imaginary : Float)

def Numeric.differsFromItself : Numeric → Bool
  | .int _ => false
  | .float x => x.isNaN
  | .complex real imaginary => real.isNaN || imaginary.isNaN

def Numeric.toValue (serial : Nat) : Numeric → Value
  | .int n => .int n
  | .float x => .float x serial
  | .complex real imaginary => .complex real imaginary serial

/-- A place in a set. A member that was taken out leaves its place unusable. -/
inductive Slot where
  | vacant
  | erased
  | taken (hash : UInt64) (member : Value)
deriving Inhabited

/-- The members of a set stand in slots according to their hashes; a walk through the set goes by
the slots. The number of slots is a power of two. -/
structure Members where
  slots : Array Slot

/-- Lists and tuples hold their items, sets their members; dictionaries hold entries in order of
insertion. -/
structure Heap where
  sequences : Array (List Value) := #[]
  sets : Array Members := #[]
  tables : Array (List (Value × Value)) := #[]
  /-- The last serial number given to a number. -/
  serial : Nat := 0

namespace Members

/-- The least number of slots. -/
def minSlots : Nat := 8

def empty : Members :=
  ⟨Array.replicate minSlots .vacant⟩

/-- Members with their hashes, by slots. -/
def entries (members : Members) : List (UInt64 × Value) :=
  members.slots.toList.filterMap fun
    | .taken hash member => some (hash, member)
    | _ => none

def toList (members : Members) : List Value :=
  members.entries.map Prod.snd

end Members

namespace Heap

def items (heap : Heap) (ref : Ref) : List Value :=
  heap.sequences[ref]?.getD []

def entries (heap : Heap) (ref : Ref) : List (Value × Value) :=
  heap.tables[ref]?.getD []

def members (heap : Heap) (ref : Ref) : Members :=
  heap.sets[ref]?.getD .empty

def alloc (heap : Heap) (items : List Value) : Ref × Heap :=
  (heap.sequences.size, { heap with sequences := heap.sequences.push items })

def allocTable (heap : Heap) (entries : List (Value × Value)) : Ref × Heap :=
  (heap.tables.size, { heap with tables := heap.tables.push entries })

def write (heap : Heap) (ref : Ref) (items : List Value) : Heap :=
  { heap with sequences := heap.sequences.setIfInBounds ref items }

def writeTable (heap : Heap) (ref : Ref) (entries : List (Value × Value)) : Heap :=
  { heap with tables := heap.tables.setIfInBounds ref entries }

def newList (heap : Heap) (items : List Value) : Value × Heap :=
  let (ref, heap) := heap.alloc items
  (.list ref, heap)

def newTuple (heap : Heap) (items : List Value) : Value × Heap :=
  let (ref, heap) := heap.alloc items
  (.tuple ref, heap)

def newSet (heap : Heap) (members : Members) : Value × Heap :=
  (.set heap.sets.size, { heap with sets := heap.sets.push members })

def newDict (heap : Heap) (entries : List (Value × Value)) : Value × Heap :=
  let (ref, heap) := heap.allocTable entries
  (.dict ref, heap)

/-- The value of a number that was calculated. -/
def newNumber (heap : Heap) (number : Numeric) : Value × Heap :=
  if number.differsFromItself then
    (number.toValue (heap.serial + 1), { heap with serial := heap.serial + 1 })
  else (number.toValue 0, heap)

end Heap

/-- A value that counts as an integer: truth values are zero and one. -/
def Value.asInt? : Value → Option Int
  | .int n => some n
  | .bool b => some (if b then 1 else 0)
  | _ => none

def Value.numeric? : Value → Option Numeric
  | .int n => some (.int n)
  | .bool b => some (.int (if b then 1 else 0))
  | .float x _ => some (.float x)
  | .complex real imaginary _ => some (.complex real imaginary)
  | _ => none

end Dalvik
