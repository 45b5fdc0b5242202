import Dalvik.Value.Basic

/-!
Sets as tables of slots. A member is looked for at the slot that its hash names, then at the slots
right behind, then at slots that depend on more and more of the hash; the first vacant one ends the
search. The table grows when three fifths of it are in use.
-/

namespace Dalvik.Members

/-- How many slots right behind the first one are looked at. -/
def neighbours : Nat := 9

/-- The first slot in the order of a search for which `stop` gives something. -/
def seek {α : Type} (size : Nat) (stop : Nat → Option α) : Nat → Nat → Nat → Option α
  | 0, _, _ => none
  | fuel + 1, index, hash =>
    let run := if index + neighbours < size then neighbours + 1 else 1
    match (List.range run).findSome? fun step => stop (index + step) with
    | some result => some result
    | none => seek size stop fuel ((index * 5 + 1 + hash / 32) % size) (hash / 32)

def seekFor {α : Type} (members : Members) (hash : UInt64) (stop : Nat → Slot → Option α) :
    Option α :=
  let size := members.slots.size
  seek size (fun index => members.slots[index]?.bind (stop index)) (size + 16)
    (hash.toNat % size) hash.toNat

/-- Where a search for a value ends. -/
inductive Found where
  | member (index : Nat)
  | vacancy (index : Nat)

/-- Searches for a value with the given hash, by an equality of values that may fail. -/
def locate (equal : Value → Value → Except Fault Bool) (members : Members) (hash : UInt64)
    (value : Value) : Except Fault Found :=
  let stop (index : Nat) : Slot → Option (Except Fault Found)
    | .vacant => some (.ok (.vacancy index))
    | .erased => none
    | .taken other member =>
      if other = hash then
        match equal member value with
        | .ok true => some (.ok (.member index))
        | .ok false => none
        | .error fault => some (.error fault)
      else none
  (members.seekFor hash stop).getD (.ok (.vacancy members.slots.size))

def contains (equal : Value → Value → Except Fault Bool) (members : Members) (hash : UInt64)
    (value : Value) : Except Fault Bool := do
  match ← locate equal members hash value with
  | .member _ => return true
  | .vacancy _ => return false

def put (members : Members) (index : Nat) (slot : Slot) : Members :=
  ⟨members.slots.setIfInBounds index slot⟩

/-- Adds a value that is known to be no member. -/
def place (members : Members) (hash : UInt64) (value : Value) : Members :=
  let stop (index : Nat) : Slot → Option Nat
    | .vacant => some index
    | _ => none
  match members.seekFor hash stop with
  | some index => members.put index (.taken hash value)
  | none => members

def size (members : Members) : Nat :=
  members.entries.length

/-- Slots that are not vacant. -/
def filled (members : Members) : Nat :=
  members.slots.toList.countP fun
    | .vacant => false
    | _ => true

/-- The number of slots for more than `least` members. -/
def slotsFor (least : Nat) : Nat :=
  max minSlots (Nat.pow 2 (least.log2 + 1))

/-- A table with room for more than `least` members. One of the least size without erased slots
stays as it is. -/
def resized (members : Members) (least : Nat) : Members :=
  if slotsFor least = minSlots && members.slots.size = minSlots &&
      members.filled = members.size then
    members
  else
    members.entries.foldl (fun table (hash, member) => table.place hash member)
      ⟨Array.replicate (slotsFor least) .vacant⟩

/-- Sets of many members grow more slowly. -/
def roomFor (count : Nat) : Nat :=
  if count > 50000 then count * 2 else count * 4

/-- Whether three fifths of the slots, or more, would be in use. -/
def crowded (members : Members) (filled : Nat) : Bool :=
  (members.slots.size - 1) * 3 ≤ filled * 5

def insert (equal : Value → Value → Except Fault Bool) (members : Members) (hash : UInt64)
    (value : Value) : Except Fault Members := do
  match ← locate equal members hash value with
  | .member _ => return members
  | .vacancy index =>
    let members := members.put index (.taken hash value)
    if members.crowded members.filled then return members.resized (roomFor members.size)
    else return members

/-- Takes a value out; `none` if it is no member. -/
def erase (equal : Value → Value → Except Fault Bool) (members : Members) (hash : UInt64)
    (value : Value) : Except Fault (Option Members) := do
  match ← locate equal members hash value with
  | .member index => return some (members.put index .erased)
  | .vacancy _ => return none

/-- Takes in the members of another set. -/
def merge (equal : Value → Value → Except Fault Bool) (members other : Members) :
    Except Fault Members :=
  if other.size = 0 then .ok members
  else
    let members :=
      if members.crowded (members.filled + other.size) then
        members.resized ((members.size + other.size) * 2)
      else members
    if members.filled = 0 then
      if members.slots.size = other.slots.size && other.filled = other.size then .ok other
      else .ok (other.entries.foldl (fun table (hash, member) => table.place hash member) members)
    else
      other.entries.foldlM (fun table (hash, member) => table.insert equal hash member) members

def copy (members : Members) : Members :=
  (merge (fun _ _ => .ok false) empty members).toOption.getD members

def union (equal : Value → Value → Except Fault Bool) (left right : Members) :
    Except Fault Members :=
  left.copy.merge equal right

/-- The members of the smaller set, or of the right one, that the other set has. -/
def inter (equal : Value → Value → Except Fault Bool) (left right : Members) :
    Except Fault Members :=
  let (walked, searched) := if left.size < right.size then (left, right) else (right, left)
  walked.entries.foldlM (fun table (hash, member) => do
    if ← searched.contains equal hash member then table.insert equal hash member
    else return table) empty

/-- Members of the left set that the right one lacks. A much larger left set is copied, and what
the right one has is taken out of it. -/
def diff (equal : Value → Value → Except Fault Bool) (left right : Members) :
    Except Fault Members := do
  if right.size < left.size / 4 then
    let table ← right.entries.foldlM (fun table (hash, member) => do
      return (← table.erase equal hash member).getD table) left.copy
    if table.filled - table.size ≤ (table.slots.size - 1) / 4 then return table
    else return table.resized (roomFor table.size)
  else
    left.entries.foldlM (fun table (hash, member) => do
      if ← right.contains equal hash member then return table
      else table.insert equal hash member) empty

/-- Members of exactly one of two sets. -/
def symmDiff (equal : Value → Value → Except Fault Bool) (left right : Members) :
    Except Fault Members :=
  left.entries.foldlM (fun table (hash, member) => do
    match ← table.erase equal hash member with
    | some table => return table
    | none => table.insert equal hash member) right.copy

/-- Whether every member is in the other set. -/
def included (equal : Value → Value → Except Fault Bool) (left right : Members) :
    Except Fault Bool :=
  left.entries.allM fun (hash, member) => right.contains equal hash member

end Dalvik.Members
