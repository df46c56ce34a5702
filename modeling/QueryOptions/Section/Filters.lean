import QueryOptions.Section.Intake
import QueryOptions.Section.Clause
import QueryOptions.Text.Order

/-!
# QueryOptions.Section.Filters

The `filters` section: which rows are loaded. Each clause contributes criteria for one or more
keys, and a later contribution to a key replaces an earlier one. All choices between two criteria
share one key, so only the last of them has an effect.
-/

namespace QueryOptions

/-- What the `filters` section is set up with: operators beside the built-in ones. -/
structure FilterSettings where
  library : Library
  operators : Dict

/-- The `filters` section. -/
abbrev Filters := Section FilterSettings (List Expression)

namespace Filters

/-- The tokens of operators that would replace built-in ones. -/
def shadowed (operators : Dict) : List String :=
  (operators.keys.filterMap Value.text?).filter fun token => (Operator.ofToken? token).isSome

/-- A new section; built-in operators cannot be replaced. -/
def new (library : Library) (operators : Value) : Except Fault Filters :=
  match Dict.ofValue (operators.orElse (.dict [])) with
  | .error f => .error f
  | .ok entries =>
    match shadowed entries with
    | [] => .ok { settings := ⟨library, entries⟩ }
    | tokens => .error (.shadowedOperators (Text.sortTexts tokens))

/-- A section without operators of its own. -/
def plain : Filters := { settings := ⟨fun _ _ _ => .error .mismatch, []⟩ }

/-- Reads a clause, which has to be a mapping with a key and an operator. -/
def readClause (settings : FilterSettings) (v : Value) : Except Fault Expression :=
  match v with
  | .dict entries =>
    match Dict.get? entries (.text "key"), Dict.get? entries (.text "operator") with
    | some key, some operator =>
      Expression.read settings.library settings.operators key operator (Dict.get entries "value")
    | _, _ => .error (.input .clauseShape)
  | _ => .error (.input .clauseShape)

/-- Reads clauses up to the first one that is refused. -/
def readClauses (settings : FilterSettings) : List Value → Except Fault (List Expression)
  | [] => .ok []
  | v :: rest =>
    match readClause settings v with
    | .error f => .error f
    | .ok e =>
      match readClauses settings rest with
      | .error f => .error f
      | .ok more => .ok (e :: more)

/-- Reads clauses; an absent list of clauses is an empty one. -/
def read (settings : FilterSettings) (v : Value) : Except Fault (List Expression) :=
  if v.isFalsy then .ok []
  else
    match v.array? with
    | none => .error (.input (.notArray SectionName.filters.text v.kind))
    | some clauses => readClauses settings clauses

def give (v : Value) (s : Filters) : Filters × Except Fault Unit :=
  s.receive SectionName.filters.reader (fun settings w => .ofExcept (read settings w)) v

def expressions (s : Filters) : List Expression := s.reading.getD []

/-- Adds the criteria of clauses one after the other. -/
def contribute (library : Library) : Dict → List Expression → Except Fault Dict
  | criteria, [] => .ok criteria
  | criteria, e :: rest =>
    match e.criteria library with
    | .error f => .error f
    | .ok more => contribute library (criteria.merge more) rest

def compile (s : Filters) : Except Fault Dict :=
  contribute s.settings.library [] s.expressions

/-- The criteria of clauses with built-in operators. -/
def predicate (v : Value) : Except Fault Dict :=
  let (s, outcome) := give v plain
  match outcome with
  | .error f => .error f
  | .ok _ => s.compile

end Filters
end QueryOptions
