/-!
Tables with named entries in order of insertion. Writing an entry that is already there keeps its
place.
-/

namespace Dalvik

abbrev Table (α : Type) := List (String × α)

namespace Table

variable {α : Type}

def get? (table : Table α) (name : String) : Option α :=
  List.lookup name table

def insert (table : Table α) (name : String) (value : α) : Table α :=
  match table with
  | [] => [(name, value)]
  | (other, old) :: rest =>
    if other = name then (name, value) :: rest else (other, old) :: insert rest name value

def erase (table : Table α) (name : String) : Table α :=
  table.filter (·.1 ≠ name)

def names (table : Table α) : List String :=
  table.map Prod.fst

end Table

end Dalvik
