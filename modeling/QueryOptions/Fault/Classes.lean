import QueryOptions.Value.Key
import QueryOptions.Value.Written

/-!
# QueryOptions.Fault.Classes

Classes of refusals. A caller can tell a refused option from a refused column by the class alone:
every class stands below a more general one. `FaultClass.report` gives the words for a refusal of
a class together with the details that it carries.
-/

namespace QueryOptions

/-- Classes of refusals. -/
inductive FaultClass where
  | base
  | query
  | input
  | pattern
  | operator
  | disabled
  | column
  | relation
deriving DecidableEq, Repr

/-- What a refusal says and carries. -/
structure Report where
  message : String
  attributes : List (String × Value)
deriving Repr

def queryText (detail : String) : String := "Query options error: " ++ detail

def patternText (pattern : Value) (reason : String) : String :=
  queryText ("Invalid RegExp " ++ pattern.written ++ ": " ++ reason)

def operatorText (operator key : Value) : String :=
  queryText ("Not Supported Operator \"" ++ operator.plain ++ "\" found in filters for key `"
    ++ key.plain ++ "`")

/-- A name that is no column or no relation. -/
def nameText (what : String) (model name place : Value) : String :=
  "Invalid " ++ what ++ " \"" ++ name.plain ++ "\" for \"" ++ model.plain ++ "\" specified in "
    ++ place.plain

namespace FaultClass

def name : FaultClass → String
  | .base => "BaseMongoFilterException"
  | .query => "InvalidQueryError"
  | .input => "InvalidInputError"
  | .pattern => "InvalidPatternError"
  | .operator => "UnsupportedOperatorError"
  | .disabled => "DisabledError"
  | .column => "InvalidColumnError"
  | .relation => "InvalidRelationError"

/-- The classes above a class, nearest first. -/
def above : FaultClass → List FaultClass
  | .base => []
  | .query => [.base]
  | .input => [.query, .base]
  | .pattern => [.query, .base]
  | .operator => [.query, .base]
  | .disabled => [.query, .base]
  | .column => [.base]
  | .relation => [.column, .base]

/-- The names of a class, of the classes above it, and of the general classes above those. -/
def lineage (c : FaultClass) : List String :=
  (c :: c.above).map name ++ ["ValueError", "Exception", "BaseException", "object"]

/-- Whether a class is another one or stands below it. -/
def isA (c d : FaultClass) : Bool := c == d || c.above.contains d

/-- The words and details of a refusal made from arguments; none if their number is wrong. -/
def report : FaultClass → List Value → Option Report
  | .base, [] => some ⟨"", []⟩
  | .base, [v] => some ⟨v.plain, []⟩
  | .base, vs => some ⟨Value.written (.tuple vs), []⟩
  | .query, [detail] => some ⟨queryText detail.plain, []⟩
  | .input, [detail] => some ⟨queryText detail.plain, []⟩
  | .disabled, [detail] => some ⟨queryText detail.plain, []⟩
  | .pattern, [source, reason] => some ⟨patternText source reason.plain, [("pattern", source)]⟩
  | .operator, [token] => some ⟨operatorText token .null, [("operator", token), ("key", .null)]⟩
  | .operator, [token, key] => some ⟨operatorText token key, [("operator", token), ("key", key)]⟩
  | .column, [model, title, place] =>
    some ⟨nameText "column" model title place,
      [("model", model), ("column_name", title), ("where", place)]⟩
  | .relation, [model, title, place] =>
    some ⟨nameText "relation" model title place,
      [("model", model), ("column_name", title), ("where", place)]⟩
  | _, _ => none

end FaultClass
end QueryOptions
