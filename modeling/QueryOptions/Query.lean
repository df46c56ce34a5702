import QueryOptions.CompiledQuery
import QueryOptions.Section.Fields
import QueryOptions.Section.Filters
import QueryOptions.Section.Pagination
import QueryOptions.Section.Sorting
import QueryOptions.Settings
import QueryOptions.Trace

/-!
# QueryOptions.Query

Query options for a model. A query is made with settings, takes options once, and is compiled or
configures a handle of the model. With an identifier it asks for a single document, to which only
the sections `fields` and `embed` apply; without one it asks for a collection.

`Query.take` reads the options section by section and stops at the first refusal. What was read
before that stays read, the identifier included.
-/

namespace QueryOptions

/-- Query options for a model. -/
structure Query where
  /-- What messages call the model. -/
  model : String
  keeper : Keeper
  /-- Criteria that look the document up in place of the identifier. -/
  lookup : Value := .null
  /-- The identifier of the single document to load; null for a collection. -/
  identifier : Value := .null
  /-- Whether options have been read. -/
  isReady : Bool := false
  fields : Fields
  embed : Embed
  sorting : Sorting
  filters : Filters
  pagination : Pagination

namespace Query

/-- What messages call a query for a model. -/
def writtenFor (model : String) : String := "MongoFilterQuery(" ++ model ++ ")"

def written (q : Query) : String := writtenFor q.model

def parameter (picked : List (String × Value)) (name : String) : Value :=
  (picked.lookup name).getD .null

/-- A new query for a model. Every section asks for its settings; after that, settings that nobody
knows are refused. -/
def new (library : Library) (model : String) (settings : Value) : Except Fault Query :=
  match Keeper.ofValue (settings.orElse (.dict [])) with
  | .error f => .error f
  | .ok keeper =>
    let (keeper, forFields) := keeper.take SectionName.fields.text .fields
    let (keeper, _) := keeper.take SectionName.embed.text .embed
    let (keeper, _) := keeper.take SectionName.sort.text .sort
    let (keeper, forFilters) := keeper.take SectionName.filters.text .filters
    let (keeper, forPages) := keeper.take SectionName.pagination.text .pagination
    match Fields.new (parameter forFields "force_include") with
    | .error f => .error f
    | .ok fields =>
      match Filters.new library (parameter forFilters "operators") with
      | .error f => .error f
      | .ok filters =>
        match Pagination.new
            ⟨parameter forPages "default_page", parameter forPages "default_size",
              parameter forPages "max_size"⟩ with
        | .error f => .error f
        | .ok pagination =>
          match keeper.requireKnown (writtenFor model) with
          | .error f => .error f
          | .ok _ =>
            .ok { model, keeper, fields, embed := .new, sorting := .new, filters, pagination }

def isCollection (q : Query) : Bool := q.identifier.isFalsy

/-! ## Options -/

/-- The options beside the sections. -/
def plainOptions : List String := ["extra_fields", "extraFields", "indifier"]

/-- The extra fields of options; the second spelling goes first. -/
def extraFields (options : Dict) : Value :=
  (options.get? (.text "extraFields")).getD (options.get "extra_fields")

def isOption (key : String) : Bool :=
  plainOptions.contains key || (SectionName.all.map SectionName.text).contains key

/-- The options that are not known; a name that is no text never is. -/
def unknownOptions (options : Dict) : List Value :=
  options.keys.filter fun key => !key.text?.any isOption

/-- Why options with unknown names are refused. Only texts can be put in order and joined. -/
def unknownFault (names : List Value) : Fault :=
  match Value.texts? names with
  | some texts => .input (.unknownOptions (Text.sortTexts texts))
  | none => .mismatch

/-- Refuses input for a section that is switched off; no input is null. -/
def requireSection (q : Query) (part : SectionName) (hasInput : Bool) : Except Fault Unit :=
  if hasInput then q.keeper.requireEnabled q.model part.text else .ok ()

def giveFilters (options : Dict) (q : Query) : Act Notice Query Unit :=
  let v := options.get SectionName.filters.text
  match q.requireSection .filters (!v.isNull) with
  | .error f => .done q (.error f)
  | .ok _ =>
    let (filters, outcome) := q.filters.give v
    .done { q with filters } outcome

def giveFields (options : Dict) (q : Query) : Act Notice Query Unit :=
  let v := options.get SectionName.fields.text
  let extra := extraFields options
  match q.requireSection .fields (!v.isNull || !extra.isNull) with
  | .error f => .done q (.error f)
  | .ok _ =>
    let (fields, outcome) := q.fields.give v extra
    .done { q with fields } outcome

def giveEmbed (options : Dict) (q : Query) : Act Notice Query Unit :=
  let v := options.get SectionName.embed.text
  match q.requireSection .embed (!v.isNull) with
  | .error f => .done q (.error f)
  | .ok _ =>
    let (embed, outcome) := q.embed.give v
    .done { q with embed } outcome

def giveSort (options : Dict) (q : Query) : Act Notice Query Unit :=
  let v := options.get SectionName.sort.text
  match q.requireSection .sort (!v.isNull) with
  | .error f => .done q (.error f)
  | .ok _ =>
    let (sorting, outcome) := q.sorting.give v
    ⟨q.sorting.notices v, { q with sorting }, outcome⟩

def givePagination (options : Dict) (q : Query) : Act Notice Query Unit :=
  let v := options.get SectionName.pagination.text
  match q.requireSection .pagination (!v.isNull) with
  | .error f => .done q (.error f)
  | .ok _ =>
    let (pagination, outcome) := q.pagination.give v
    .done { q with pagination } outcome

/-- Gives every section that applies its input: filters, fields, embed, sort, pagination. -/
def giveSections (options : Dict) (q : Query) : Act Notice Query Unit :=
  if q.isCollection then
    ((((q.giveFilters options).andThen fun q _ => q.giveFields options).andThen
      fun q _ => q.giveEmbed options).andThen
      fun q _ => q.giveSort options).andThen
      fun q _ => q.givePagination options
  else (q.giveFields options).andThen fun q _ => q.giveEmbed options

/-! ## Compiled queries and steps -/

/-- What the options come to. -/
def compile (q : Query) : Except Fault CompiledQuery :=
  if !q.isReady then .error .notQueried
  else if q.isCollection then
    match q.filters.compile with
    | .error f => .error f
    | .ok criteria =>
      match q.fields.compile with
      | .error f => .error f
      | .ok projection =>
        let (limit, skip) := q.pagination.compile
        .ok { predicate := if criteria.isEmpty then .null else .dict criteria
              projection
              relations := q.embed.compile
              sort := q.sorting.compile
              limit
              skip }
  else
    match q.fields.compile with
    | .error f => .error f
    | .ok projection =>
      .ok { identifier := q.identifier
            predicate := q.lookup.orElse (single "_id" q.identifier)
            projection
            relations := q.embed.compile }

def openingOf (compiled : CompiledQuery) : Opening :=
  if !compiled.isCollection then .findOne compiled.predicate
  else if compiled.predicate.isFalsy then .find none
  else .find (some compiled.predicate)

/-- The steps of the sections that apply; filters were given to the handle when it was made. -/
def steps (q : Query) : Except Fault (List Step) :=
  match q.fields.steps with
  | .error f => .error f
  | .ok selection =>
    let common := selection ++ q.embed.steps
    .ok (if q.isCollection then common ++ q.sorting.steps ++ q.pagination.steps else common)

/-- The handle to ask for and the steps to take on it. -/
def plan (q : Query) : Except Fault (Opening × List Step) :=
  match q.compile with
  | .error f => .error f
  | .ok compiled =>
    match q.steps with
    | .error f => .error f
    | .ok steps => .ok (openingOf compiled, steps)

def compiledNotice (q : Query) : Except Fault Notice :=
  match q.compile with
  | .error f => .error f
  | .ok compiled => compiled.written.map fun text => ⟨.query, q.written ++ ": compiled " ++ text⟩

/-- Marks that options have been read; whoever watches is told what they come to. -/
def finish (watched : Bool) (q : Query) : Act Notice Query Unit :=
  let ready := { q with isReady := true }
  if watched then
    match ready.compiledNotice with
    | .error f => .done ready (.error f)
    | .ok notice => ⟨[notice], ready, .ok ()⟩
  else .done ready (.ok ())

/-- Takes options, with the identifier of a single document or an absent one. -/
def take (watched : Bool) (options identifier : Value) (q : Query) : Act Notice Query Unit :=
  let given : Option Dict := if options.isNull then some [] else options.dict?
  match given with
  | none => .done q (.error (.input (.optionsShape options.kind)))
  | some entries =>
    let q :=
      { q with lookup := Dict.get entries "indifier", identifier := identifier.orElse .null }
    match unknownOptions entries with
    | [] => (q.giveSections entries).andThen fun q _ => q.finish watched
    | names => .done q (.error (unknownFault names))

/-! ## Handles -/

variable {H R : Type}

/-- Gets a handle of the model and configures it. -/
def handle (source : Source H R) (q : Query) : Act (Event R) Unit H :=
  match q.plan with
  | .error f => .done () (.error f)
  | .ok (opening, steps) => source.prepare opening steps

def replyOf : Option R → Reply H R
  | some r => .result r
  | none => .nothing

/-- Gets a handle, configures and executes it. -/
def exec (source : Source H R) (callback : Value) (q : Query) : Act (Event R) Unit (Reply H R) :=
  (q.handle source).andThen fun _ h =>
    let a := source.exec callback h
    ⟨a.events, (), a.outcome.map replyOf⟩

end Query
end QueryOptions
