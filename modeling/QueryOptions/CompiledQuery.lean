import QueryOptions.Section.Embed
import QueryOptions.Value.Pairs

/-!
# QueryOptions.CompiledQuery

What query options come to: everything that a handle is configured with. `CompiledQuery.toDict`
describes one as a mapping without the parts that are absent. The description is that of a
`QuerySummary`, whose parts may be any values.
-/

namespace QueryOptions

/-- A relation in a summary; its parts may be any values. -/
structure RelationEntry where
  name : Value
  fields : Value := .null
deriving Repr

namespace RelationEntry

def same (a b : RelationEntry) : Bool := a.name.same b.name && a.fields.same b.fields

def written (r : RelationEntry) : String :=
  "EmbedRelation(" ++ r.name.written ++ ", " ++ r.fields.written ++ ")"

def toValue (r : RelationEntry) : Value :=
  .dict [(.text "name", r.name), (.text "fields", r.fields)]

def ofArguments : List Value → Except Fault RelationEntry
  | [name] => .ok ⟨name, .null⟩
  | [name, fields] => .ok ⟨name, fields⟩
  | _ => .error .mismatch

end RelationEntry

/-- The parts of a compiled query as any values. -/
structure QuerySummary where
  identifier : Value := .null
  predicate : Value := .null
  projection : Value := .text ""
  relations : List RelationEntry := []
  sort : Value := .null
  limit : Value := .null
  skip : Value := .null
deriving Repr

namespace QuerySummary

def isCollection (q : QuerySummary) : Bool := q.identifier.isFalsy

/-- An entry, unless its value is absent. -/
def entryUnlessFalsy (key : String) (v : Value) : Dict :=
  if v.isFalsy then [] else [(.text key, v)]

/-- The sort as an entry, if there is one; it has to give a mapping. -/
def sortEntry (q : QuerySummary) : Except Fault Dict :=
  match q.sort with
  | .null => .ok []
  | v => (Dict.ofValue v).map fun spec => [(.text "sort", .dict spec)]

/-- The entries for the page, if there is a limit. -/
def pageEntries (q : QuerySummary) : Dict :=
  match q.limit with
  | .null => []
  | v => [(.text "limit", v), (.text "skip", q.skip)]

def toDict (q : QuerySummary) : Except Fault Dict :=
  match q.sortEntry with
  | .error f => .error f
  | .ok sort =>
    .ok ((.text "predicate", q.predicate) :: (entryUnlessFalsy "identifier" q.identifier
      ++ entryUnlessFalsy "projection" q.projection
      ++ entryUnlessFalsy "relations" (.list (q.relations.map RelationEntry.toValue))
      ++ sort ++ q.pageEntries))

def written (q : QuerySummary) : Except Fault String :=
  q.toDict.map fun entries => "CompiledQuery(" ++ Value.written (.dict entries) ++ ")"

def partNames : List String :=
  ["identifier", "predicate", "projection", "relations", "sort", "limit", "skip"]

end QuerySummary

/-- A compiled query. -/
structure CompiledQuery where
  /-- The identifier of the single document to load; null for a collection. -/
  identifier : Value := .null
  /-- The criteria, null without any. -/
  predicate : Value := .null
  /-- Names of columns with blanks between them; empty for all columns. -/
  projection : String := ""
  /-- The relations to load. -/
  relations : List Relation := []
  /-- The order of the rows, if there is one. -/
  sort : Option SortSpec := none
  /-- The number of rows; null for a single document. -/
  limit : Value := .null
  /-- The number of rows to leave out; null for a single document. -/
  skip : Value := .null
deriving Repr

namespace CompiledQuery

def isCollection (q : CompiledQuery) : Bool := q.identifier.isFalsy

/-- The sort as a value, null without one. -/
def sortValue (q : CompiledQuery) : Value :=
  match q.sort with
  | none => .null
  | some spec => spec.toValue

def summary (q : CompiledQuery) : QuerySummary where
  identifier := q.identifier
  predicate := q.predicate
  projection := .text q.projection
  relations := q.relations.map fun r => ⟨.text r.name, r.fieldsValue⟩
  sort := q.sortValue
  limit := q.limit
  skip := q.skip

def toDict (q : CompiledQuery) : Except Fault Dict := q.summary.toDict

def written (q : CompiledQuery) : Except Fault String := q.summary.written

end CompiledQuery
end QueryOptions
