import QueryOptions.Store.Cell

/-!
# QueryOptions.Store.Schema

Tables and the models over them. A model names the columns of a table and its relationships to other
tables. The name `_id` stands for the key column of any model.
-/

namespace QueryOptions
namespace Store

structure Column where
  name : String
  kind : ColumnKind
deriving DecidableEq, Repr

/-- A row: the cells of its columns by name. -/
abbrev Row := List (String × Cell)

/-- The cell of a column, null if there is none. -/
def Row.cell (row : Row) (name : String) : Cell := (row.lookup name).getD .null

/-- How a model sees a table. -/
structure Shape where
  /-- What messages call the model. -/
  title : String
  /-- The table that holds its rows. -/
  table : String
  key : Column
  /-- All columns, with the key. -/
  columns : List Column
deriving DecidableEq, Repr

/-- How rows are related. -/
inductive Link where
  /-- To the row whose key is in a column. -/
  | toOne (column : String)
  /-- To the rows that hold the key in a column. -/
  | toMany (column : String)
  /-- To the rows that a table of pairs of keys gives. -/
  | through (pairs : String)
deriving DecidableEq, Repr

/-- A relationship to the rows of another table. -/
structure Relationship where
  name : String
  target : Shape
  link : Link
deriving DecidableEq, Repr

structure Model where
  shape : Shape
  relationships : List Relationship
deriving DecidableEq, Repr

/-- The contents of all tables; rows are in ascending order of their keys. -/
structure Database where
  tables : List (String × List Row)
  pairs : List (String × List (Cell × Cell))
deriving Repr

namespace Shape

def column? (s : Shape) (name : String) : Option Column :=
  s.columns.find? fun c => c.name == name

/-- The column that a name in criteria or in a sort stands for. -/
def resolve? (s : Shape) (name : String) : Option Column :=
  if name = "_id" then some s.key else s.column? name

end Shape

namespace Model

def relationship? (m : Model) (name : String) : Option Relationship :=
  m.relationships.find? fun r => r.name == name

end Model

namespace Database

def rowsOf (db : Database) (table : String) : List Row := (db.tables.lookup table).getD []

def pairsOf (db : Database) (table : String) : List (Cell × Cell) :=
  (db.pairs.lookup table).getD []

/-- The rows that a relationship gives for a row, in ascending order of their keys. -/
def related (db : Database) (source : Shape) (r : Relationship) (row : Row) : List Row :=
  let rows := db.rowsOf r.target.table
  let key := row.cell source.key.name
  match r.link with
  | .toOne column =>
    let wanted := row.cell column
    if wanted.isNull then [] else rows.filter fun t => t.cell r.target.key.name == wanted
  | .toMany column => rows.filter fun t => t.cell column == key
  | .through table =>
    let pairs := db.pairsOf table
    rows.filter fun t => pairs.contains (key, t.cell r.target.key.name)

end Database
end Store
end QueryOptions
