import QueryOptions.Fault.Classes
import QueryOptions.Regex.Fault

/-!
# QueryOptions.Fault.Basic

Why a step is refused. Each constructor of `Fault` is one cause with its details. `Fault.message`
gives the words where the words are settled here; the other faults are told apart by their kind
alone.
-/

namespace QueryOptions

inductive SectionName where
  | fields
  | embed
  | sort
  | filters
  | pagination
deriving DecidableEq, Repr

namespace SectionName

def text : SectionName → String
  | .fields => "fields"
  | .embed => "embed"
  | .sort => "sort"
  | .filters => "filters"
  | .pagination => "pagination"

def reader : SectionName → String
  | .fields => "MongoFields"
  | .embed => "MongoEmbed"
  | .sort => "MongoSort"
  | .filters => "MongoFilter"
  | .pagination => "MongoPagination"

def all : List SectionName := [.fields, .embed, .sort, .filters, .pagination]

end SectionName

inductive InputFault where
  /-- The options are no mapping. -/
  | optionsShape (given : Kind)
  /-- Some options are unknown. -/
  | unknownOptions (names : List String)
  /-- Fields are neither names nor a text. -/
  | fieldsShape (given : Kind)
  /-- The paths to embed are no array. -/
  | embedShape
  /-- A path to embed is no text. -/
  | embedItem (given : Kind)
  /-- A section is no array. -/
  | notArray (part : String) (given : Kind)
  /-- A sort term names several fields. -/
  | sortTerm
  /-- A clause lacks its key or its operator, or is no mapping. -/
  | clauseShape
  /-- An operator lacks its array of values. -/
  | needsArray (operator : String) (key : Value)
  /-- An operator lacks its two bounds. -/
  | needsRange (operator : String) (key : Value)
  /-- The pagination is no mapping. -/
  | paginationShape (given : Kind)
  /-- A page or a size is no whole number. -/
  | paginationNumber (name : String)
  /-- Any other words. -/
  | worded (detail : String)
deriving Repr

/-- The words for options of the wrong shape. -/
def InputFault.detail : InputFault → String
  | .optionsShape given => "Query options must be an object, " ++ given.name ++ " given"
  | .unknownOptions names => "Unknown query options: " ++ Text.joinWith ", " names
  | .fieldsShape given =>
    "fields must be either a list or a string; " ++ given.name ++ " provided."
  | .embedShape => "Expected array of docs to populate"
  | .embedItem given => "embed: every item must be a string, " ++ given.name ++ " given"
  | .notArray part given => part ++ " must be an array, " ++ given.name ++ " given"
  | .sortTerm =>
    "sort term is a plain object; can only have 1 field because of unstable ordering of object "
      ++ "keys; use one object per field instead"
  | .clauseShape => "filters: every clause must be an object with `key` and `operator`"
  | .needsArray operator key =>
    operator ++ " operator requires an array of values for key `" ++ key.plain ++ "`"
  | .needsRange operator key =>
    "Expected 2 values for " ++ operator ++ " operator for key `" ++ key.plain ++ "`"
  | .paginationShape given => "pagination must be an object, " ++ given.name ++ " given"
  | .paginationNumber name =>
    "Pagination " ++ name ++ " must be either an integer, or null"
  | .worded detail => detail

inductive CriteriaFault where
  /-- Criteria are no mapping. -/
  | shape
  /-- A combination of criteria is no array. -/
  | needsList (operator : String)
  /-- A comparison is unknown. -/
  | unknownOperator (operator key : Value)
  /-- A comparison with several values lacks its array. -/
  | needsArray (operator : String) (key : Value)
deriving Repr

/-- The words for criteria of the wrong shape. -/
def CriteriaFault.detail : CriteriaFault → String
  | .shape => "filter: criteria must be an object"
  | .needsList operator => "filter: " ++ operator ++ " argument must be a list"
  | .unknownOperator operator key =>
    "Unsupported operator \"" ++ operator.plain ++ "\" found in filter for column `"
      ++ key.plain ++ "`"
  | .needsArray operator key =>
    "filter: " ++ operator ++ " argument must be an array for column `" ++ key.plain ++ "`"

inductive PatternFault where
  /-- The pattern is no text. -/
  | notText
  /-- The text in which the pattern stands is no regular expression. -/
  | malformed (fault : Regex.Fault) (source : String)
deriving DecidableEq, Repr

def PatternFault.detail : PatternFault → String
  | .notText => "a string is expected"
  | .malformed fault source => fault.message source

inductive NamePlace where
  | filter
  | fields
  | embed
  | sort
deriving DecidableEq, Repr

def NamePlace.text : NamePlace → String
  | .filter => "filter"
  | .fields => "fields"
  | .embed => "embed"
  | .sort => "sort"

/-- Why a step is refused. -/
inductive Fault where
  /-- Options of the wrong shape. -/
  | input (f : InputFault)
  /-- A pattern is refused; it is carried as it was given. -/
  | invalidPattern (pattern : Value) (reason : PatternFault)
  /-- An operator of a clause is unknown. -/
  | unsupportedOperator (operator key : Value)
  /-- A section is switched off. -/
  | disabled (part : String) (model : String)
  /-- Criteria of the wrong shape. -/
  | criteria (f : CriteriaFault)
  /-- A name is no column. -/
  | invalidColumn (model : String) (name : Value) (place : NamePlace)
  /-- A name is no relation. -/
  | invalidRelation (model : String) (name : Value) (place : NamePlace)
  /-- Settings are no mapping. -/
  | settingsShape (given : Kind)
  /-- Too many positional arguments. -/
  | tooManyArguments (count : Nat)
  /-- Operators of the settings would replace built-in ones. -/
  | shadowedOperators (tokens : List String)
  /-- Settings that nobody knows. -/
  | unknownSettings (owner : String) (names : List String)
  /-- A section was given input before. -/
  | consumed (reader : String)
  /-- No options were given yet. -/
  | notQueried
  /-- The largest size is not positive. -/
  | sizeLimit
  /-- A step that is left to special kinds of sections or expressions. -/
  | unspecified
  /-- A query without a session was run. -/
  | unbound (query : String)
  /-- The callback raised an error. -/
  | callbackFailed
  /-- The model failed. -/
  | modelFailed (text : String)
  /-- A value of the wrong kind. -/
  | mismatch
  /-- Entries of a mapping that are no pairs, or a text that is no number. -/
  | unreadable
  /-- A number out of range. -/
  | overflow
  /-- A text or an array that would be too long. -/
  | tooLarge
  /-- A value without the wanted part. -/
  | missingPart
  /-- The database refuses an argument of a comparison. -/
  | badArgument
  /-- The database refuses a value. -/
  | badValue
  /-- The database fails. -/
  | databaseFailed
deriving Repr

namespace Fault

/-- The class of a refusal that callers can tell apart. -/
def class? : Fault → Option FaultClass
  | .input _ => some .input
  | .invalidPattern _ _ => some .pattern
  | .unsupportedOperator _ _ => some .operator
  | .disabled _ _ => some .disabled
  | .criteria _ => some .query
  | .invalidColumn _ _ _ => some .column
  | .invalidRelation _ _ _ => some .relation
  | _ => none

/-- The words for a fault, where they are settled. -/
def message : Fault → Option String
  | .input f => some (queryText f.detail)
  | .invalidPattern pattern reason => some (patternText pattern reason.detail)
  | .unsupportedOperator operator key => some (operatorText operator key)
  | .disabled part model =>
    some (queryText
      ("Query options section \"" ++ part ++ "\" is disabled for \"" ++ model ++ "\""))
  | .criteria f => some (queryText f.detail)
  | .invalidColumn model name place =>
    some (nameText "column" (.text model) name (.text place.text))
  | .invalidRelation model name place =>
    some (nameText "relation" (.text model) name (.text place.text))
  | .settingsShape given =>
    some ("Handler settings must be a dict, <class '" ++ given.fullName ++ "'> given")
  | .tooManyArguments count =>
    some ("filter() takes at most 3 positional arguments (" ++ Decimal.natText count ++ " given)")
  | .shadowedOperators tokens =>
    some ("Custom operators cannot replace built-in ones: " ++ Text.joinWith ", " tokens)
  | .unknownSettings owner names =>
    some (Text.quote
      ("Invalid settings were provided for " ++ owner ++ ": " ++ Text.joinWith "," names))
  | .consumed reader =>
    some ("You can't use the " ++ reader ++ ".input() method twice. copy() the handler!")
  | .notQueried => some "MongoFilterQuery.compile() can only be used after query()"
  | .sizeLimit => some ""
  | .unspecified => some ""
  | .unbound query => some (query ++ " is not bound to a Session: use with_session()")
  | .callbackFailed => some "callback failed"
  | .modelFailed text => some text
  | _ => none

end Fault
end QueryOptions
