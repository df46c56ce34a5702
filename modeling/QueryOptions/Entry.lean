import QueryOptions.Arguments
import QueryOptions.CallShape
import QueryOptions.Query

/-!
# QueryOptions.Entry

Calls that do everything at once: they take options, get a handle of the model and configure it.
Without a callback they give the handle back; with one they execute it and call the callback with
an error or the result. Options that are refused are refused to the caller, never to the callback.
-/

namespace QueryOptions
namespace Query

variable {H R : Type}

/-- Options with extra fields, if there are any. -/
def withExtra (options : Dict) (extra : Value) : Dict :=
  if extra.isNull then options else options.put (.text "extra_fields") extra

/-- Takes conditions, an identifier, a callback and extra fields. -/
def load (watched : Bool) (source : Source H R) (conditions identifier callback extra : Value)
    (q : Query) : Act (Event R) Query (Reply H R) :=
  let given : Option Dict := if conditions.isNull then some [] else conditions.dict?
  match given with
  | none => .done q (.error (.input (.optionsShape conditions.kind)))
  | some options =>
    ((q.take watched (.dict (withExtra options extra)) identifier).mapEvents .notice).andThen
      fun q _ =>
        if callback.isNull then
          let a := q.handle source
          ⟨a.events, q, a.outcome.map Reply.handle⟩
        else
          let a := q.exec source callback
          ⟨a.events, q, a.outcome.map fun _ => .nothing⟩

def loadOne (watched : Bool) (source : Source H R) (identifier conditions callback extra : Value)
    (q : Query) : Act (Event R) Query (Reply H R) :=
  q.load watched source conditions identifier callback extra

def loadMany (watched : Bool) (source : Source H R) (conditions callback extra : Value)
    (q : Query) : Act (Event R) Query (Reply H R) :=
  q.load watched source conditions .null callback extra

def loadAny (watched : Bool) (source : Source H R) (arguments : List Value) (extra : Value)
    (q : Query) : Act (Event R) Query (Reply H R) :=
  match CallShape.resolve arguments with
  | .error f => .done q (.error f)
  | .ok shape =>
    if shape.identifier.isFalsy then
      q.loadMany watched source shape.conditions shape.callback extra
    else q.loadOne watched source shape.identifier shape.conditions shape.callback extra

end Query

/-- The calls that load documents. -/
inductive Entry where
  /-- Arguments of any shape. -/
  | filter
  /-- A single document. -/
  | filterOne
  /-- A collection. -/
  | filterMany
deriving DecidableEq, Repr

/-- A call whose arguments have been matched with its parameters. -/
inductive Loading where
  | any (arguments : List Value) (extra : Value)
  | one (identifier conditions callback extra : Value)
  | many (conditions callback extra : Value)
deriving Repr

namespace Entry

/-- The parameters of a call; those of a call of any shape are given by name only. -/
def parameters : Entry → List Parameter
  | .filter => [.optional "extra_fields"]
  | .filterOne =>
    [.required "identifier", .optional "conditions", .optional "callback",
      .optional "extra_fields"]
  | .filterMany => [.optional "conditions", .optional "callback", .optional "extra_fields"]

/-- Matches arguments with the parameters of a call and with more parameters after them; the
values of the latter come second. -/
def matchWith (e : Entry) (more : List Parameter) (arguments : Arguments) :
    Except Fault (Loading × List Value) :=
  let parameters := e.parameters ++ more
  match e with
  | .filter =>
    match arguments.named parameters with
    | .ok (extra :: rest) => .ok (.any arguments.places extra, rest)
    | .ok [] => .error .mismatch
    | .error f => .error f
  | .filterOne =>
    match arguments.values parameters with
    | .ok (identifier :: conditions :: callback :: extra :: rest) =>
      .ok (.one identifier conditions callback extra, rest)
    | .ok _ => .error .mismatch
    | .error f => .error f
  | .filterMany =>
    match arguments.values parameters with
    | .ok (conditions :: callback :: extra :: rest) =>
      .ok (.many conditions callback extra, rest)
    | .ok _ => .error .mismatch
    | .error f => .error f

/-- Matches arguments with the parameters of a call. -/
def loading (e : Entry) (arguments : Arguments) : Except Fault Loading :=
  (e.matchWith [] arguments).map Prod.fst

/-- Matches arguments with the parameters of a call that is also given settings. -/
def loadingWithSettings (e : Entry) (arguments : Arguments) : Except Fault (Loading × Value) :=
  (e.matchWith [.optional "handler_settings"] arguments).map
    fun m => (m.1, m.2.headD .null)

end Entry

namespace Query

variable {H R : Type}

/-- Makes a call whose arguments have been matched. -/
def run (watched : Bool) (source : Source H R) (loading : Loading) (q : Query) :
    Act (Event R) Query (Reply H R) :=
  match loading with
  | .any arguments extra => q.loadAny watched source arguments extra
  | .one identifier conditions callback extra =>
    q.loadOne watched source identifier conditions callback extra
  | .many conditions callback extra => q.loadMany watched source conditions callback extra

/-- Matches the arguments of a call and makes it. -/
def enter (watched : Bool) (source : Source H R) (e : Entry) (arguments : Arguments) (q : Query) :
    Act (Event R) Query (Reply H R) :=
  match e.loading arguments with
  | .error f => .done q (.error f)
  | .ok loading => q.run watched source loading

/-- Makes a call on a new query for a model; the settings are an argument of the call. -/
def enterNew (watched : Bool) (library : Library) (model : String) (source : Source H R)
    (e : Entry) (arguments : Arguments) : Act (Event R) Unit (Reply H R) :=
  match e.loadingWithSettings arguments with
  | .error f => .done () (.error f)
  | .ok (loading, settings) =>
    match Query.new library model settings with
    | .error f => .done () (.error f)
    | .ok q =>
      let a := q.run watched source loading
      ⟨a.events, (), a.outcome⟩

end Query
end QueryOptions
