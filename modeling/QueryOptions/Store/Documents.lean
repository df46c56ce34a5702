import QueryOptions.Store.Criteria
import QueryOptions.Store.Order
import QueryOptions.Text.Integer
import QueryOptions.Trace

/-!
# QueryOptions.Store.Documents

Queries on the rows of a model, built step by step and run in a session. Criteria are compiled when
the query is made, and the names of a step are looked up when it is taken, so that unknown names are
refused before anything is run. A step that is refused leaves the query as it was.
-/

namespace QueryOptions
namespace Store

structure Session where
  name : String
  database : Database
deriving Repr

/-- A query on the rows of a model. -/
structure Documents where
  model : Model
  /-- The criteria as they were given. -/
  predicate : Value
  condition : Condition
  /-- Whether a single row is wanted. -/
  single : Bool
  session : Option Session
  /-- Names of the columns to load; all columns if there are none. -/
  columns : List String := []
  /-- Relationships to load, each with the columns of the related rows, all if there are none. -/
  relations : List (String × List String) := []
  order : RowOrder := []
  limit : Value := .null
  skip : Value := .null

abbrev Record := List (String × Value)

/-- Loaded rows of a relationship. -/
inductive Related where
  | one (record : Option Record)
  | many (records : List Record)
deriving Repr

structure Document where
  columns : Record
  related : List (String × Related)
deriving Repr

/-- What running a query gives. -/
inductive Result where
  | list (documents : List Document)
  | single (document : Option Document)
deriving Repr

namespace Documents

/-! ## Building -/

/-- A query with criteria; null stands for all rows. -/
def find (session : Option Session) (single : Bool) (model : Model) (predicate : Value) :
    Except Fault Documents :=
  match criteriaCondition model.shape predicate with
  | .error f => .error f
  | .ok condition => .ok { model, predicate, condition, single, session }

/-- Runs the query in another session, or in none. -/
def withSession (session : Option Session) (q : Documents) : Documents := { q with session }

/-- The columns among names; names of relationships and that of the key count for nothing. -/
def selectedColumns (m : Model) : List String → Except Fault (List String)
  | [] => .ok []
  | name :: rest =>
    if name = "_id" then selectedColumns m rest
    else if (m.shape.column? name).isSome then (selectedColumns m rest).map (name :: ·)
    else if (m.relationship? name).isSome then selectedColumns m rest
    else .error (.invalidColumn m.shape.title (.text name) .fields)

def select (projection : String) (q : Documents) : Except Fault Documents :=
  match selectedColumns q.model (Text.words projection) with
  | .error f => .error f
  | .ok columns => .ok { q with columns }

/-- The columns of related rows among names; the name of the key counts for nothing. -/
def relatedColumns (target : Shape) : List String → Except Fault (List String)
  | [] => .ok []
  | name :: rest =>
    if name = "_id" then relatedColumns target rest
    else if (target.column? name).isSome then (relatedColumns target rest).map (name :: ·)
    else .error (.invalidColumn target.title (.text name) .embed)

/-- Gives a relationship columns: in its old place, or at the end. -/
def putRelation : List (String × List String) → String → List String → List (String × List String)
  | [], name, columns => [(name, columns)]
  | (n, old) :: rest, name, columns =>
    if n = name then (n, columns) :: rest else (n, old) :: putRelation rest name columns

/-- Loads related rows, perhaps only some of their columns. -/
def populate (name : String) (fields : Option String) (q : Documents) : Except Fault Documents :=
  match q.model.relationship? name with
  | none => .error (.invalidRelation q.model.shape.title (.text name) .embed)
  | some r =>
    match relatedColumns r.target (Text.words (fields.getD "")) with
    | .error f => .error f
    | .ok columns => .ok { q with relations := putRelation q.relations name columns }

def orderOf (shape : Shape) : SortSpec → Except Fault RowOrder
  | [] => .ok []
  | (name, direction) :: rest =>
    match resolveColumn shape name .sort with
    | .error f => .error f
    | .ok c => (orderOf shape rest).map ((c, direction) :: ·)

def sort (spec : SortSpec) (q : Documents) : Except Fault Documents :=
  match orderOf q.model.shape spec with
  | .error f => .error f
  | .ok order => .ok { q with order }

def withLimit (count : Value) (q : Documents) : Documents := { q with limit := count }

def withSkip (count : Value) (q : Documents) : Documents := { q with skip := count }

def take (s : Step) (q : Documents) : Except Fault Documents :=
  match s with
  | .select projection => q.select projection
  | .populate relation fields => q.populate relation fields
  | .sort spec => q.sort spec
  | .limit count => .ok (q.withLimit count)
  | .skip count => .ok (q.withSkip count)

/-! ## Running -/

/-- The whole number that a count stands for; doubles lose their fraction. -/
def wholeCount (v : Value) : Except Fault Int :=
  match v with
  | .bool b => .ok (if b then 1 else 0)
  | .int n => .ok n
  | .float x =>
    match Decimal.readDouble x with
    | .finite f => .ok f.truncate
    | .infinite _ => .error .overflow
    | .undefined => .error .unreadable
  | .text s =>
    match Text.readInteger? s.toList with
    | some n => .ok n
    | none => .error .unreadable
  | .bytes bs =>
    match Text.readInteger? (bs.map fun b => if b < 128 then Char.ofNat b.toNat else '?') with
    | some n => .ok n
    | none => .error .unreadable
  | _ => .error .mismatch

/-- A count; an absent one counts for nothing. -/
def countOf (v : Value) : Except Fault (Option Int) :=
  if v.isFalsy then .ok none else (wholeCount v).map some

def slice (q : Documents) : Except Fault Slice :=
  match countOf q.skip with
  | .error f => .error f
  | .ok skip => (countOf q.limit).map fun limit => { limit, skip }

/-- Selects, orders and cuts the rows of a database. -/
def rows (q : Documents) (slice : Slice) (db : Database) : Except Fault (List Row) :=
  if q.condition.isMalformed then .error .databaseFailed
  else
    match Condition.bindAll (q.condition.parameters ++ slice.parameters) with
    | .error f => .error f
    | .ok _ =>
      match q.condition.filterRows (db.rowsOf q.model.shape.table) with
      | .error f => .error f
      | .ok selected => .ok (slice.take (sortRows q.order selected))

/-- Whether a column is loaded: the key always, the others if they are named or none is. -/
def isLoaded (shape : Shape) (names : List String) (c : Column) : Bool :=
  names.isEmpty || c == shape.key || names.contains c.name

def record (shape : Shape) (names : List String) (row : Row) : Record :=
  (shape.columns.filter (isLoaded shape names)).map fun c =>
    (c.name, (row.cell c.name).toValue c.kind)

/-- The loaded rows of a relationship. -/
def relatedOf (db : Database) (shape : Shape) (r : Relationship) (names : List String)
    (row : Row) : Related :=
  let records := (db.related shape r row).map (record r.target names)
  match r.link with
  | .toOne _ => .one records.head?
  | _ => .many records

def document (q : Documents) (db : Database) (row : Row) : Document where
  columns := record q.model.shape q.columns row
  related := q.relations.filterMap fun e =>
    (q.model.relationship? e.1).map fun r =>
      (r.name, relatedOf db q.model.shape r e.2 row)

/-- Loads rows in the session of the query. -/
def load (q : Documents) (slice : Slice) : Except Fault (List Document) :=
  match q.session with
  | none => .error .missingPart
  | some session =>
    (q.rows slice session.database).map fun rows => rows.map (q.document session.database)

def all (q : Documents) : Except Fault (List Document) :=
  match q.slice with
  | .error f => .error f
  | .ok slice => q.load slice

/-- The first document, if there is one. -/
def first (q : Documents) : Except Fault (Option Document) :=
  match q.slice with
  | .error f => .error f
  | .ok slice => (q.load { slice with limit := some 1 }).map List.head?

def written (q : Documents) : String :=
  "DocumentQuery(" ++ q.model.shape.title ++ ", " ++ q.predicate.written ++ ")"

/-- The message about a query that is run. -/
def runNotice (q : Documents) : Notice := ⟨.documents, "Executing " ++ q.written⟩

/-- The message about a query that failed. -/
def failNotice (q : Documents) (f : Fault) : Notice :=
  ⟨.documents, q.written ++ " failed: " ++ f.message.getD ""⟩

/-- Runs the query: for the first document, or for all of them. -/
def run (q : Documents) : List Notice × Except Fault Result :=
  if q.session.isNone then ([], .error (.unbound q.written))
  else
    match q.slice with
    | .error f => ([], .error f)
    | .ok _ =>
      ([q.runNotice], if q.single then q.first.map .single else q.all.map .list)

/-- What going through the query gives: its documents, or the single one, even if there is none. -/
def items (q : Documents) : List Notice × Except Fault (List (Option Document)) :=
  let (notices, outcome) := q.run
  (notices, outcome.map fun
    | .list documents => documents.map some
    | .single document => [document])

/-- Runs the query; a failure is written down if a callback waits for the result. -/
def execute (awaited : Bool) (q : Documents) : List Notice × Except Fault Result :=
  let (notices, outcome) := q.run
  match awaited, outcome with
  | true, .error f => (notices ++ [q.failNotice f], outcome)
  | _, _ => (notices, outcome)

end Documents

def source (session : Option Session) (model : Model) : Source Documents Result where
  acquire
    | .find predicate => Documents.find session false model (predicate.getD .null)
    | .findOne predicate => Documents.find session true model predicate
  configure := Documents.take
  execute := Documents.execute

end Store
end QueryOptions
