import QueryOptions.Section.Embed
import QueryOptions.Section.Fields
import QueryOptions.Section.Filters
import QueryOptions.Section.Pagination
import QueryOptions.Section.Sorting
import QueryOptions.Settings

/-!
# QueryOptions.Section.Family

A section of any kind, made from settings and used on its own. The settings are those of its kind
only; any other one is refused.
-/

namespace QueryOptions

inductive AnySection where
  | fields (s : Fields)
  | embed (s : Embed)
  | sort (s : Sorting)
  | filters (s : Filters)
  | pagination (s : Pagination)

inductive SectionResult where
  | projection (text : String)
  | relations (items : List Relation)
  | order (spec : Option SortSpec)
  | criteria (entries : Dict)
  | page (limit skip : Value)
deriving Repr

namespace AnySection

def new (library : Library) (part : SectionName) (settings : Dict) : Except Fault AnySection :=
  let parameters := part.parameters
  let isKnown : Value → Bool := fun key => parameters.any fun p => key.same (.text p.1)
  if !settings.keys.all isKnown then .error .mismatch
  else
    let value (name : String) : Value :=
      Settings.valueOf settings name ((parameters.lookup name).getD .null)
    match part with
    | .fields => (Fields.new (value "force_include")).map .fields
    | .embed => .ok (.embed .new)
    | .sort => .ok (.sort .new)
    | .filters => (Filters.new library (value "operators")).map .filters
    | .pagination =>
      (Pagination.new ⟨value "default_page", value "default_size", value "max_size"⟩).map
        .pagination

def reader : AnySection → String
  | .fields _ => SectionName.fields.reader
  | .embed _ => SectionName.embed.reader
  | .sort _ => SectionName.sort.reader
  | .filters _ => SectionName.filters.reader
  | .pagination _ => SectionName.pagination.reader

def isReceived : AnySection → Bool
  | .fields s => s.isReceived
  | .embed s => s.isReceived
  | .sort s => s.isReceived
  | .filters s => s.isReceived
  | .pagination s => s.isReceived

/-- The input as it came, null before. -/
def input : AnySection → Value
  | .fields s => s.input
  | .embed s => s.input
  | .sort s => s.input
  | .filters s => s.input
  | .pagination s => s.input

/-- Gives the section its input; only fields take a second argument, the extra fields. -/
def give (arguments : List Value) (s : AnySection) : AnySection × Except Fault Unit :=
  if s.isReceived then (s, .error (.consumed s.reader))
  else
    match s, arguments with
    | .fields f, [v] =>
      let (f, outcome) := f.give v .null
      (.fields f, outcome)
    | .fields f, [v, extra] =>
      let (f, outcome) := f.give v extra
      (.fields f, outcome)
    | .embed e, [v] =>
      let (e, outcome) := e.give v
      (.embed e, outcome)
    | .sort o, [v] =>
      let (o, outcome) := o.give v
      (.sort o, outcome)
    | .filters f, [v] =>
      let (f, outcome) := f.give v
      (.filters f, outcome)
    | .pagination p, [v] =>
      let (p, outcome) := p.give v
      (.pagination p, outcome)
    | s, _ => (s, .error .mismatch)

def notices (arguments : List Value) (s : AnySection) : List Notice :=
  match s, arguments with
  | .sort o, [v] => o.notices v
  | _, _ => []

def compile : AnySection → Except Fault SectionResult
  | .fields s => s.compile.map .projection
  | .embed s => .ok (.relations s.compile)
  | .sort s => .ok (.order s.compile)
  | .filters s => s.compile.map .criteria
  | .pagination s => .ok (.page s.compile.1 s.compile.2)

def steps : AnySection → Except Fault (List Step)
  | .fields s => s.steps
  | .embed s => .ok s.steps
  | .sort s => .ok s.steps
  | .filters _ => .ok []
  | .pagination s => .ok s.steps

def final : AnySection → Value
  | .fields s => s.input
  | .embed s => s.input
  | .sort s => s.final
  | .filters s => s.input
  | .pagination s => s.final

end AnySection

/-- Sections by name, for instance a section and its copies. -/
abbrev Family := List (String × AnySection)

namespace Family

def get? (family : Family) (name : String) : Option AnySection := family.lookup name

def put (family : Family) (name : String) (s : AnySection) : Family :=
  (name, s) :: family.filter fun e => e.1 != name

end Family
end QueryOptions
