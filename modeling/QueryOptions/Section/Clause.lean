import QueryOptions.Fault.Basic
import QueryOptions.Value.Pairs
import QueryOptions.Regex.Parser

/-!
# QueryOptions.Section.Clause

Clauses of the `filters` section: a key, an operator and a value. Operators compare a field with
the value, or make a choice between two criteria, or are functions of the settings. A clause is
checked when it is read, so that a value that does not fit its operator, or a text that is no
regular expression, is refused right away.
-/

namespace QueryOptions

/-- The built-in operators. -/
inductive Operator where
  | equal
  | unequal
  | found
  | unfound
  | less
  | atMost
  | greater
  | atLeast
  | within
  | without
  | between
  | outside
deriving DecidableEq, Repr

namespace Operator

def token : Operator → String
  | .equal => "=="
  | .unequal => "!="
  | .found => "~"
  | .unfound => "!~"
  | .less => "<"
  | .atMost => "<="
  | .greater => ">"
  | .atLeast => ">="
  | .within => "in"
  | .without => "not in"
  | .between => "between"
  | .outside => "not between"

def all : List Operator :=
  [.equal, .unequal, .found, .unfound, .less, .atMost, .greater, .atLeast, .within, .without,
    .between, .outside]

def ofToken? (s : String) : Option Operator := all.find? fun o => o.token == s

def takesPattern : Operator → Bool
  | .found => true
  | .unfound => true
  | _ => false

def takesArray : Operator → Bool
  | .within => true
  | .without => true
  | _ => false

def takesRange : Operator → Bool
  | .between => true
  | .outside => true
  | _ => false

end Operator

/-- A function of a key and a value, for each name. -/
abbrev Library := String → Value → Value → Except Fault Value

/-- Compiles a pattern without regard to case; `given` is the value that is carried by a refusal. -/
def compilePattern (source : String) (given : Value) : Except Fault Value :=
  match Regex.compile source { ignoreCase := true } with
  | .ok r => .ok (.regex r)
  | .error (.fault fault) => .error (.invalidPattern given (.malformed fault source))
  | .error .tooManyRepeats => .error .overflow
  | .error .twoAlphabets => .error .unreadable

/-- A pattern that finds something only if nothing up to there meets the given pattern. -/
def unfoundSource (pattern : String) : String := "^((?!" ++ pattern ++ ").)*$"

/-- A mapping of one text to a value. -/
def single (key : String) (v : Value) : Value := .dict [(.text key, v)]

namespace Operator

/-- What an operator asks of a field. -/
def criterion (o : Operator) (v : Value) : Except Fault Value :=
  match o with
  | .equal => .ok v
  | .unequal => .ok (single "$ne" v)
  | .found =>
    match v with
    | .text pattern => compilePattern pattern v
    | _ => .error (.invalidPattern v .notText)
  | .unfound =>
    match v with
    | .text pattern => compilePattern (unfoundSource pattern) v
    | _ => .error (.invalidPattern v .notText)
  | .less => .ok (single "$lt" v)
  | .atMost => .ok (single "$lte" v)
  | .greater => .ok (single "$gt" v)
  | .atLeast => .ok (single "$gte" v)
  | .within =>
    match v.array? with
    | some items => .ok (single "$in" (.list items))
    | none => .error .mismatch
  | .without =>
    match v.array? with
    | some items => .ok (single "$not" (single "$in" (.list items)))
    | none => .error .mismatch
  | .between =>
    match v.array? with
    | some [low, high] => .ok (.dict [(.text "$gte", low), (.text "$lte", high)])
    | _ => .error .mismatch
  | .outside => .error .mismatch

def check (o : Operator) (key v : Value) : Except Fault Unit :=
  if o.takesArray then
    match v.array? with
    | some _ => .ok ()
    | none => .error (.input (.needsArray o.token key))
  else if o.takesRange then
    match v.array? with
    | some [_, _] => .ok ()
    | _ => .error (.input (.needsRange o.token key))
  else if o.takesPattern then
    match v with
    | .text _ => .ok ()
    | _ => .error (.invalidPattern v .notText)
  else .ok ()

end Operator

/-- A clause that has been read. -/
inductive Expression where
  /-- A field is compared with a value. -/
  | field (key : Value) (operator : Operator) (value : Value)
  /-- A field lies outside two bounds. -/
  | disjunction (key : Value) (value : Value)
  /-- A function of the settings is asked. -/
  | custom (key : Value) (token : Value) (function : Value) (value : Value)
deriving Repr

/-- Criteria of one key; lists and mappings are no keys. -/
def keyed (key v : Value) : Except Fault Dict :=
  if key.isKey then .ok [(key, v)] else .error .mismatch

/-- Calls what a setting gives for an operator. -/
def callFunction (library : Library) (function key v : Value) : Except Fault Value :=
  match function with
  | .function name => library name key v
  | .callback _ true => .error .callbackFailed
  | .callback _ false => .ok .null
  | _ => .error .mismatch

namespace Expression

def key : Expression → Value
  | .field key _ _ => key
  | .disjunction key _ => key
  | .custom key _ _ _ => key

/-- The operator of a clause as it was written. -/
def token : Expression → Value
  | .field _ o _ => .text o.token
  | .disjunction _ _ => .text Operator.outside.token
  | .custom _ token _ _ => token

def value : Expression → Value
  | .field _ _ v => v
  | .disjunction _ v => v
  | .custom _ _ _ v => v

def label : Expression → String
  | .field _ _ _ => "FilterFieldExpression"
  | .disjunction _ _ => "FilterDisjunctionExpression"
  | .custom _ _ _ _ => "FilterCustomExpression"

def writtenAs (key token value : Value) : String :=
  key.plain ++ " " ++ token.plain ++ " " ++ value.written

def written (e : Expression) : String := writtenAs e.key e.token e.value

def criteria (library : Library) : Expression → Except Fault Dict
  | .field key o v =>
    match o.criterion v with
    | .error f => .error f
    | .ok c => keyed key c
  | .disjunction key v =>
    match v.array? with
    | some [low, high] =>
      match keyed key (single "$lt" low), keyed key (single "$gt" high) with
      | .ok below, .ok above => .ok [(.text "$or", .list [.dict below, .dict above])]
      | .error f, _ => .error f
      | _, .error f => .error f
    | _ => .error .mismatch
  | .custom key _ function v =>
    match callFunction library function key v with
    | .error f => .error f
    | .ok result => Dict.ofValue result

/-- Reads a clause with an operator of the settings or a built-in one; the former come first. -/
def read (library : Library) (operators : Dict) (key operator v : Value) :
    Except Fault Expression :=
  if !operator.isKey then .error .mismatch
  else
    match operators.get? operator with
    | some function => .ok (.custom key operator function v)
    | none =>
      match operator.text?.bind Operator.ofToken? with
      | none => .error (.unsupportedOperator operator key)
      | some o =>
        match o.check key v with
        | .error f => .error f
        | .ok _ =>
          if o = .outside then .ok (.disjunction key v)
          else
            let e := Expression.field key o v
            if o.takesPattern then (e.criteria library).map fun _ => e else .ok e

end Expression
end QueryOptions
