import QueryOptions.Query
import QueryOptions.Section.Family

/-!
# QueryOptions.Memory

Queries as objects. A query object refers to five sections, which are objects of their own, and
whoever uses it changes it and its sections: a section that has been given input is used up. So a
query that is meant for more than one use is copied before each of them. A copy takes over what its
original holds, and then gets copies of the sections in place of the sections themselves.
-/

namespace QueryOptions

/-- A query object. Nothing changes a keeper of settings once the query is made, so copies share
it. -/
structure QueryObject where
  model : String
  keeper : Keeper
  lookup : Value
  identifier : Value
  isReady : Bool
  /-- Where the sections lie. -/
  sections : SectionName → Nat

/-- The object that holds a query, with its sections in given places. -/
def QueryObject.ofQuery (q : Query) (sections : SectionName → Nat) : QueryObject where
  model := q.model
  keeper := q.keeper
  lookup := q.lookup
  identifier := q.identifier
  isReady := q.isReady
  sections

def Query.part (q : Query) : SectionName → AnySection
  | .fields => .fields q.fields
  | .embed => .embed q.embed
  | .sort => .sort q.sorting
  | .filters => .filters q.filters
  | .pagination => .pagination q.pagination

/-- All query objects and all sections that have been made; objects refer to them by their
places. -/
structure Memory where
  queries : List QueryObject := []
  sections : List AnySection := []

namespace Memory

/-- The query in a place, put together from its object and its sections. -/
def read (m : Memory) (i : Nat) : Option Query :=
  match m.queries[i]? with
  | none => none
  | some o =>
    match m.sections[o.sections .fields]?, m.sections[o.sections .embed]?,
      m.sections[o.sections .sort]?, m.sections[o.sections .filters]?,
      m.sections[o.sections .pagination]? with
    | some (.fields fields), some (.embed embed), some (.sort sorting), some (.filters filters),
      some (.pagination pagination) =>
      some
        { model := o.model
          keeper := o.keeper
          lookup := o.lookup
          identifier := o.identifier
          isReady := o.isReady
          fields, embed, sorting, filters, pagination }
    | _, _, _, _, _ => none

/-- The query in a place after it was changed. -/
def write (i : Nat) (q : Query) (m : Memory) : Memory :=
  match m.queries[i]? with
  | none => m
  | some o =>
    { queries := m.queries.set i (.ofQuery q o.sections)
      sections :=
        SectionName.all.foldl (fun cells part => cells.set (o.sections part) (q.part part))
          m.sections }

def make (q : Query) (m : Memory) : Memory × Nat :=
  let sections := fun part => m.sections.length + SectionName.all.idxOf part
  ({ queries := m.queries ++ [.ofQuery q sections]
     sections := m.sections ++ SectionName.all.map q.part },
   m.queries.length)

/-- Gives a query object a copy of a section in place of the section itself. -/
def copySection (i : Nat) (m : Memory) (part : SectionName) : Memory :=
  match m.queries[i]? with
  | none => m
  | some o =>
    match m.sections[o.sections part]? with
    | none => m
    | some s =>
      let sections := fun other =>
        if other = part then m.sections.length else o.sections other
      { queries := m.queries.set i { o with sections }
        sections := m.sections ++ [s] }

/-- Copies a query: first the object, which then has the sections of its original, and then each
section. -/
def copy (i : Nat) (m : Memory) : Memory × Nat :=
  let shallow := { m with queries := m.queries ++ m.queries[i]?.toList }
  (SectionName.all.foldl (copySection m.queries.length) shallow, m.queries.length)

def use {E α : Type} (i : Nat) (action : Query → Act E Query α) (m : Memory) : Act E Memory α :=
  match m.read i with
  | none => .done m (.error .missingPart)
  | some q =>
    let a := action q
    ⟨a.events, m.write i a.state, a.outcome⟩

end Memory
end QueryOptions
