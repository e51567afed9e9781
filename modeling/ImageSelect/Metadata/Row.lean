/-!
# Rows

A row maps keys to values and keeps the order in which the keys first came.
Setting a key that is there changes its value and keeps its place.
-/

namespace ImageSelect

/-- Keys with their values, in order. -/
structure Row where
  cells : List (String × String) := []
  deriving Repr, DecidableEq

namespace Row

/-- Sets a key in a list of cells. -/
def setCell (key value : String) : List (String × String) → List (String × String)
  | [] => [(key, value)]
  | cell :: cells =>
    if cell.1 = key then (key, value) :: cells else cell :: setCell key value cells

/-- Sets a key. -/
def set (row : Row) (key value : String) : Row :=
  ⟨setCell key value row.cells⟩

/-- The value of a key. -/
def get? (row : Row) (key : String) : Option String :=
  row.cells.lookup key

/-- The keys in order. -/
def keys (row : Row) : List String :=
  row.cells.map (·.1)

/-- Sets all the keys of another row in their order. -/
def merge (row other : Row) : Row :=
  other.cells.foldl (fun r cell => r.set cell.1 cell.2) row

/-- The row of pairs; a later pair with the same key counts. -/
def ofPairs (pairs : List (String × String)) : Row :=
  pairs.foldl (fun r cell => r.set cell.1 cell.2) {}

end Row

end ImageSelect
