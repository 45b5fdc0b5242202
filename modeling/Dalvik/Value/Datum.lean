import Dalvik.Value.Compare

/-!
Values written out in full, without references: what is put into the store, and what can be seen of
it.
-/

namespace Dalvik

inductive Datum where
  | null
  | bool (b : Bool)
  | int (n : Int)
  | float (x : Float)
  | complex (real imaginary : Float)
  | ellipsis
  | text (s : String)
  | bytes (data : List UInt8)
  | list (items : List Datum)
  | tuple (items : List Datum)
  | set (items : List Datum)
  | dict (entries : List (Datum × Datum))
  | raised (cause : Fault)
  | outside (kind shown : String)
  /-- A container that was met inside itself. -/
  | cycle
deriving Inhabited

namespace Heap

mutual

/-- Puts a value into the store. -/
def store (heap : Heap) : Datum → Value × Heap
  | .null | .cycle => (.null, heap)
  | .bool b => (.bool b, heap)
  | .int n => (.int n, heap)
  | .float x => heap.newNumber (.float x)
  | .complex real imaginary => heap.newNumber (.complex real imaginary)
  | .ellipsis => (.ellipsis, heap)
  | .text s => (.text s, heap)
  | .bytes data => (.bytes data, heap)
  | .raised cause => (.raised cause 0, heap)
  | .outside kind shown => (.outside kind shown, heap)
  | .list items =>
    let (values, heap) := storeItems heap items
    heap.newList values
  | .tuple items =>
    let (values, heap) := storeItems heap items
    heap.newTuple values
  | .set items =>
    let (values, heap) := storeItems heap items
    heap.newSet ((Value.setOf heap values).toOption.getD .empty)
  | .dict entries =>
    let (table, heap) := storeEntries heap [] entries
    heap.newDict table

def storeItems (heap : Heap) : List Datum → List Value × Heap
  | [] => ([], heap)
  | item :: rest =>
    let (value, heap) := store heap item
    let (values, heap) := storeItems heap rest
    (value :: values, heap)

/-- Of entries with equal keys, the last value is kept under the first key. -/
def storeEntries (heap : Heap) (table : List (Value × Value)) :
    List (Datum × Datum) → List (Value × Value) × Heap
  | [] => (table, heap)
  | (key, value) :: rest =>
    let (key, heap) := store heap key
    let (value, heap) := store heap value
    storeEntries heap ((Value.insertEntry heap table key value).toOption.getD table) rest

end

/-- What can be seen of a value inside the containers of `path`. -/
def viewWithin (heap : Heap) : Nat → List Value.Container → Value → Datum
  | 0, _, _ => .cycle
  | fuel + 1, path, value =>
    let within (container : Value.Container) (make : (Value → Datum) → Datum) : Datum :=
      if path.contains container then .cycle else make (viewWithin heap fuel (container :: path))
    match value with
    | .null => .null
    | .bool b => .bool b
    | .int n => .int n
    | .float x _ => .float x
    | .complex real imaginary _ => .complex real imaginary
    | .ellipsis => .ellipsis
    | .text s => .text s
    | .bytes data => .bytes data
    | .raised cause _ => .raised cause
    | .outside kind shown => .outside kind shown
    | .list ref => within (.sequence ref) fun view => .list ((heap.items ref).map view)
    | .tuple ref => within (.sequence ref) fun view => .tuple ((heap.items ref).map view)
    | .set ref => .set ((heap.members ref).toList.map (viewWithin heap fuel path))
    | .dict ref => within (.table ref) fun view =>
      .dict ((heap.entries ref).map fun (key, value) => (view key, view value))

/-- No path is longer than the number of containers in the store. -/
def view (heap : Heap) (value : Value) : Datum :=
  viewWithin heap (heap.sequences.size + heap.sets.size + heap.tables.size + 1) [] value

end Heap

end Dalvik
