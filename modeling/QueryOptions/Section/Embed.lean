import QueryOptions.Section.Intake
import QueryOptions.Call

/-!
# QueryOptions.Section.Embed

The `embed` section: which related rows are loaded. Each path is the name of a relation, or a name,
a dot and a field of the related rows. Paths of one relation add up their fields; a path without a
dot loads the relation in full, whatever other paths say.
-/

namespace QueryOptions

/-- A relation to load: all fields, or those of a list. -/
structure Relation where
  name : String
  fields : Option (List String)
deriving DecidableEq, Repr

namespace Relation

/-- Takes up one more path of the relation: a field, or none for all of them. -/
def add (r : Relation) : Option String → Relation
  | none => { r with fields := none }
  | some field => { r with fields := r.fields.map (· ++ [field]) }

/-- The fields as a value, null for all of them. -/
def fieldsValue (r : Relation) : Value :=
  match r.fields with
  | none => .null
  | some names => .list (names.map .text)

def toValue (r : Relation) : Value :=
  .dict [(.text "name", .text r.name), (.text "fields", r.fieldsValue)]

/-- The step that loads a relation; a list of no fields means all of them. -/
def step (r : Relation) : Step :=
  match r.fields with
  | some (field :: more) => .populate r.name (some (Text.unwords (field :: more)))
  | _ => .populate r.name none

end Relation

/-- The `embed` section. -/
abbrev Embed := Section Unit (List Relation)

namespace Embed

def new : Embed := { settings := () }

/-- Cuts a path at its first dot. -/
def cutPath : List Char → List Char × Option (List Char)
  | [] => ([], none)
  | c :: rest =>
    if c = '.' then ([], some rest)
    else
      let (name, field) := cutPath rest
      (c :: name, field)

/-- Takes up a path of a relation, which may have been mentioned before. -/
def mention : List Relation → String → Option String → List Relation
  | [], name, field => [Relation.add ⟨name, some []⟩ field]
  | r :: rest, name, field =>
    if r.name = name then r.add field :: rest else r :: mention rest name field

def mentionAll : List Relation → List Value → Except Fault (List Relation)
  | relations, [] => .ok relations
  | relations, v :: rest =>
    match v with
    | .text path =>
      let (name, field) := cutPath path.toList
      mentionAll (mention relations (String.ofList name) (field.map String.ofList)) rest
    | v => .error (.input (.embedItem v.kind))

def read (v : Value) : Except Fault (List Relation) :=
  match v with
  | .null => .ok []
  | .list paths => mentionAll [] paths
  | .tuple paths => mentionAll [] paths
  | _ => .error (.input .embedShape)

def give (v : Value) (s : Embed) : Embed × Except Fault Unit :=
  s.receive SectionName.embed.reader (fun _ w => .ofExcept (read w)) v

/-- The relations to load, in the order in which they were first mentioned. -/
def compile (s : Embed) : List Relation := s.reading.getD []

def steps (s : Embed) : List Step := s.compile.map Relation.step

/-- The relations that paths mention. -/
def relations (v : Value) : Except Fault (List Relation) :=
  let (s, outcome) := give v new
  match outcome with
  | .error f => .error f
  | .ok _ => .ok s.compile

end Embed
end QueryOptions
