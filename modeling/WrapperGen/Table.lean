import WrapperGen.Text

/-!
# Tables

A table assigns values to texts. Every key stands in it once, in the order of first insertion, and
the value last inserted under a key counts.
-/

namespace WrapperGen

/-- The entries of a table, in order of the first insertion of their keys. -/
abbrev Table (α : Type) := List (Text × α)

namespace Table

variable {α : Type}

/-- The value under a key. -/
def find? (table : Table α) (key : Text) : Option α := List.lookup key table

/-- The table with a value under a key: in place if the key is there, else at the end. -/
def insert (key : Text) (value : α) : Table α → Table α
  | [] => [(key, value)]
  | (k, v) :: rest => if k = key then (k, value) :: rest else (k, v) :: insert key value rest

/-- The table built by inserting the pairs in order. -/
def ofList (pairs : List (Text × α)) : Table α :=
  pairs.foldl (fun table (key, value) => insert key value table) []

/-- The entries in ascending order of their keys. -/
def sorted (table : Table α) : Table α := table.mergeSort fun a b => Text.ascending a.1 b.1

end Table

end WrapperGen
