import QueryOptions.Section.Intake
import QueryOptions.Call

/-!
# QueryOptions.Section.Fields

The `fields` section: which columns are loaded. Fields are a list of names, or a text with blanks
between the names. Extra fields and fields that are always included follow the names, but nothing
is included by force where no name is given, because then all columns are loaded anyway.
-/

namespace QueryOptions

/-- The `fields` section; its setting is the fields that are always included. -/
abbrev Fields := Section (List Value) (List Value)

namespace Fields

/-- A new section; the fields always included are gone through one by one. -/
def new (forceInclude : Value) : Except Fault Fields :=
  match (forceInclude.orElse (.list [])).items? with
  | some items => .ok { settings := items }
  | none => .error .mismatch

def namesOf (v : Value) : Except Fault (List Value) :=
  if v.isFalsy then .ok []
  else
    match v with
    | .text s => .ok ((Text.words s).map .text)
    | .list items => .ok items
    | .tuple items => .ok items
    | v => .error (.input (.fieldsShape v.kind))

/-- Reads names, with extra names after them; extra names that are no array count for nothing. -/
def read (forced : List Value) (v extra : Value) : Except Fault (List Value) :=
  match namesOf v with
  | .error f => .error f
  | .ok names =>
    match names ++ extra.array?.getD [] with
    | [] => .ok []
    | all => .ok (all ++ forced)

def give (v extra : Value) (s : Fields) : Fields × Except Fault Unit :=
  s.receive SectionName.fields.reader (fun forced w => .ofExcept (read forced w extra)) v

/-- The projection: all names with blanks between them. -/
def compile (s : Fields) : Except Fault String :=
  match Value.texts? (s.reading.getD []) with
  | some names => .ok (Text.unwords names)
  | none => .error .mismatch

/-- The step for a projection: none if it is empty. -/
def stepsOf (projection : String) : List Step :=
  if projection = "" then [] else [.select projection]

def steps (s : Fields) : Except Fault (List Step) := s.compile.map stepsOf

/-- The projection of names and extra names. -/
def projection (v extra : Value) : Except Fault String :=
  let (s, outcome) := give v extra { settings := [] }
  match outcome with
  | .error f => .error f
  | .ok _ => s.compile

end Fields
end QueryOptions
