import QueryOptions.Value.Key

/-!
# QueryOptions.Call

What a query does to a handle: it selects columns, populates relations, sorts, and cuts a page.
Each step is data, so that the steps of a query can be looked at before any of them is taken.
-/

namespace QueryOptions

/-- Fields with their directions, the most significant first; a negative direction is descending. A
field is a name, but any other key of a mapping can stand in its place. -/
abbrev SortSpec := List (Value × Int)

namespace SortSpec

/-- Gives a field a direction: in the place of its old one, or at the end. -/
def put : SortSpec → Value → Int → SortSpec
  | [], field, direction => [(field, direction)]
  | (f, d) :: rest, field, direction =>
    if f.same field then (f, direction) :: rest else (f, d) :: put rest field direction

def toValue (spec : SortSpec) : Value :=
  .dict (spec.map fun e => (e.1, .int e.2))

end SortSpec

/-- A step that configures a handle. -/
inductive Step where
  /-- Loads only the columns of a projection: names with blanks between them. -/
  | select (projection : String)
  /-- Loads related rows, perhaps only some of their columns. -/
  | populate (relation : String) (fields : Option String)
  /-- Orders the rows. -/
  | sort (spec : SortSpec)
  /-- Bounds the number of rows. -/
  | limit (count : Value)
  /-- Leaves out the first rows. -/
  | skip (count : Value)
deriving Repr

inductive Opening where
  /-- All rows, or those that meet criteria. -/
  | find (predicate : Option Value)
  /-- The first row that meets criteria. -/
  | findOne (predicate : Value)
deriving Repr

end QueryOptions
