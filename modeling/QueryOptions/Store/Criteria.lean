import QueryOptions.Store.Condition

/-!
# QueryOptions.Store.Criteria

Criteria as conditions. Criteria map columns to what is asked of them, and `$and`, `$or` and `$nor`
to lists of criteria. A column is asked to equal a value, to contain a match of a regular
expression, or to meet each of several operators.

What is refused is refused at the first place where it stands, before any row is looked at.

A list of no criteria is a part of a condition that is not there: it adds nothing to the parts
beside it. `Part` tells such parts from conditions. Parts in parentheses must not all be absent,
and an absent part has no contrary, because the database cannot read empty parentheses or a
negation of nothing.
-/

namespace QueryOptions
namespace Store

/-- How parts of a condition are joined. -/
inductive Join where
  | conjunction
  | disjunction
deriving DecidableEq, Repr

/-- A part of a condition. -/
inductive Part where
  /-- A list without parts. -/
  | absent (join : Join)
  /-- A list of parts, all of which are absent. -/
  | hollow (join : Join)
  /-- A condition. -/
  | proper (c : Condition)
deriving Repr

namespace Join

/-- The condition that adds nothing to others. -/
def neutral : Join → Condition
  | .conjunction => .always
  | .disjunction => .never

/-- Whether a part adds nothing to others. -/
def isNeutral (j : Join) : Part → Bool
  | .proper .always => j == .conjunction
  | .proper .never => j == .disjunction
  | _ => false

/-- Whether a part outweighs all others. -/
def isDominant (j : Join) : Part → Bool
  | .proper .always => j == .disjunction
  | .proper .never => j == .conjunction
  | _ => false

def link : Join → Condition → Condition → Condition
  | .conjunction, a, b => .both a b
  | .disjunction, a, b => .either a b

/-- Several conditions joined; none if there are none. -/
def linkAll (j : Join) : List Condition → Option Condition
  | [] => none
  | a :: rest =>
    match linkAll j rest with
    | none => some a
    | some b => some (j.link a b)

/-- The condition that a part of a longer list stands for; a hollow list in parentheses cannot be
read. -/
def conditionOf? (j : Join) : Part → Option Condition
  | .absent _ => none
  | .hollow inner => if j = .conjunction ∧ inner = .disjunction then some .malformed else none
  | .proper c => some c

/-- Whether a part leaves nothing behind in a longer list, not even a gap. -/
def vanishes (j : Join) : Part → Bool
  | .absent inner => inner == j
  | _ => false

/-- Several parts joined, none of which is neutral or dominant. -/
def compose (j : Join) (parts : List Part) : Part :=
  match j.linkAll (parts.filterMap j.conditionOf?) with
  | some c => .proper c
  | none => if parts.all j.vanishes then .absent j else .hollow j

def join (j : Join) (parts : List Part) : Part :=
  match parts.find? j.isDominant with
  | some p => p
  | none =>
    match parts, parts.filter fun p => !j.isNeutral p with
    | [], _ => .absent j
    | _ :: _, [] => .proper j.neutral
    | _, [p] => p
    | _, others => j.compose others

end Join

namespace Part

/-- The contrary of a part; there is none of a part that is not there. -/
def contrary : Part → Part
  | .proper c => .proper c.contrary
  | _ => .proper .malformed

/-- All parts of criteria together; without any, they always hold. -/
def together : List Part → Part
  | [] => .proper .always
  | [p] => p
  | parts => Join.conjunction.join parts

/-- The condition for rows; a part that is absent leaves all rows. -/
def condition : Part → Condition
  | .proper c => c
  | _ => .always

end Part

/-! ## Columns -/

def comparison? (operator : String) : Option Comparison :=
  if operator = "$lt" then some .less
  else if operator = "$lte" then some .atMost
  else if operator = "$gt" then some .greater
  else if operator = "$gte" then some .atLeast
  else none

/-- Whether values have an order in the database: null and booleans have none. -/
def isOrdered : Value → Bool
  | .null => false
  | .bool _ => false
  | _ => true

def equals (c : Column) : Value → Condition
  | .null => .isNull c
  | v => .compare c .equal v

def differsFrom (c : Column) : Value → Condition
  | .null => .negated (.isNull c)
  | v => .differs c v

/-- The values of a list; beside a null, there must not be lists or mappings in it. -/
def memberOf (c : Column) (items : List Value) : Except Fault Condition :=
  if items.any Value.isNull && !items.all Value.isKey then .error .mismatch
  else .ok (.member c items)

def valuesOf (operator : String) (key v : Value) : Except Fault (List Value) :=
  match v.array? with
  | some items => .ok items
  | none => .error (.criteria (.needsArray operator key))

/-- The condition of an operator other than `$not`. -/
def operatorCondition (c : Column) (key : Value) (operator : String) (v : Value) :
    Except Fault Condition :=
  if operator = "$eq" then .ok (equals c v)
  else if operator = "$ne" then .ok (differsFrom c v)
  else if operator = "$in" then
    match valuesOf operator key v with
    | .error f => .error f
    | .ok items => memberOf c items
  else if operator = "$nin" then
    match valuesOf operator key v with
    | .error f => .error f
    | .ok items =>
      match memberOf c items with
      | .error f => .error f
      | .ok m => .ok (.either (.isNull c) (.negated m))
  else
    match comparison? operator with
    | some comparison =>
      if isOrdered v then .ok (.compare c comparison v) else .error .badArgument
    | none => .error (.criteria (.unknownOperator (.text operator) key))

/-- The pattern that is handed to the database: of all options, only that on case is kept. -/
def patternOf (r : Regex) : String :=
  if r.flags.ignoreCase then "(?i)" ++ r.source else r.source

/-- What does not meet criteria, null included. -/
def excluding (c : Column) (conditions : List Condition) : Condition :=
  (Condition.isNull c).orElse (Condition.all conditions).contrary

mutual

def columnConditions (c : Column) (key : Value) : Value → Except Fault (List Condition)
  | .regex r => .ok [.found c (patternOf r)]
  | .dict entries => operatorConditions c key entries
  | v => .ok [equals c v]

def operatorConditions (c : Column) (key : Value) :
    List (Value × Value) → Except Fault (List Condition)
  | [] => .ok []
  | (.text operator, v) :: rest =>
    if operator = "$not" then
      match columnConditions c key v with
      | .error f => .error f
      | .ok conditions =>
        match operatorConditions c key rest with
        | .error f => .error f
        | .ok more => .ok (excluding c conditions :: more)
    else
      match operatorCondition c key operator v with
      | .error f => .error f
      | .ok condition =>
        match operatorConditions c key rest with
        | .error f => .error f
        | .ok more => .ok (condition :: more)
  | (operator, _) :: _ => .error (.criteria (.unknownOperator operator key))

end

/-! ## Criteria -/

/-- What joins lists of criteria. -/
inductive Connective where
  | allOf
  | anyOf
  | noneOf
deriving DecidableEq, Repr

namespace Connective

def token : Connective → String
  | .allOf => "$and"
  | .anyOf => "$or"
  | .noneOf => "$nor"

def ofKey? : Value → Option Connective
  | .text s => [Connective.allOf, .anyOf, .noneOf].find? fun c => c.token == s
  | _ => none

def apply : Connective → List Part → Part
  | .allOf, parts => Join.conjunction.join parts
  | .anyOf, parts => Join.disjunction.join parts
  | .noneOf, parts => (Join.disjunction.join parts).contrary

end Connective

def resolveColumn (shape : Shape) (key : Value) (place : NamePlace) : Except Fault Column :=
  match key.text?.bind shape.resolve? with
  | some c => .ok c
  | none => .error (.invalidColumn shape.title key place)

def columnParts (shape : Shape) (key criterion : Value) : Except Fault (List Part) :=
  match resolveColumn shape key .filter with
  | .error f => .error f
  | .ok c => (columnConditions c key criterion).map fun conditions => conditions.map .proper

mutual

/-- The parts of criteria; absent criteria have none. -/
def criteriaParts (shape : Shape) : Value → Except Fault (List Part)
  | .dict entries => entryParts shape entries
  | v => if v.isFalsy then .ok [] else .error (.criteria .shape)

def entryParts (shape : Shape) : List (Value × Value) → Except Fault (List Part)
  | [] => .ok []
  | (key, criterion) :: rest =>
    match keyParts shape key criterion with
    | .error f => .error f
    | .ok parts =>
      match entryParts shape rest with
      | .error f => .error f
      | .ok more => .ok (parts ++ more)

def keyParts (shape : Shape) (key : Value) : Value → Except Fault (List Part)
  | .list items =>
    match Connective.ofKey? key with
    | none => columnParts shape key (.list items)
    | some connective => (listParts shape items).map fun parts => [connective.apply parts]
  | .tuple items =>
    match Connective.ofKey? key with
    | none => columnParts shape key (.tuple items)
    | some connective => (listParts shape items).map fun parts => [connective.apply parts]
  | v =>
    match Connective.ofKey? key with
    | none => columnParts shape key v
    | some connective => .error (.criteria (.needsList connective.token))

def listParts (shape : Shape) : List Value → Except Fault (List Part)
  | [] => .ok []
  | v :: rest =>
    match criteriaParts shape v with
    | .error f => .error f
    | .ok parts =>
      match listParts shape rest with
      | .error f => .error f
      | .ok more => .ok (Part.together parts :: more)

end

/-- The condition that criteria put on rows. -/
def criteriaCondition (shape : Shape) (criteria : Value) : Except Fault Condition :=
  (criteriaParts shape criteria).map fun parts => (Join.conjunction.join parts).condition

end Store
end QueryOptions
