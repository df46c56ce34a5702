import QueryOptions.Entry
import QueryOptions.Memory
import QueryOptions.Store.Documents

/-!
# QueryOptions.Store.Registry

Classes of models, with the session that their queries run in and the query that they are set up
with. A class takes its session from the nearest class above it that has been bound to one, and
being bound to none counts too. Settings are those of the class alone; nothing of them is taken from
the classes above, and a refused set-up changes nothing.

The query that a class is set up with is an object like any other, which giving it options would use
up. So calls are made on a copy of it.
-/

namespace QueryOptions
namespace Store

/-- A class of models, with the classes from which it takes its session, nearest first. -/
structure ModelClass where
  name : String
  lineage : List String
  model : Model
deriving Repr

/-- What a class is bound to. -/
inductive Binding where
  | nothing
  | session (s : Session)
  /-- Something that gives its current session when it is called. -/
  | scoped (current : Session)
deriving Repr

def Binding.session? : Binding → Option Session
  | .nothing => none
  | .session s => some s
  | .scoped current => some current

/-- What classes are bound to and set up with; the queries lie in a memory that all classes share.
-/
structure Registry where
  bindings : List (String × Binding) := []
  memory : Memory := {}
  /-- Where the query lies that a class is set up with. -/
  templates : List (String × Nat) := []

namespace Registry

def bind (name : String) (binding : Binding) (r : Registry) : Registry :=
  { r with bindings := (name, binding) :: r.bindings.filter fun e => e.1 != name }

/-- What the first of some classes is bound to that has been bound at all. -/
def bindingFrom (r : Registry) : List String → Binding
  | [] => .nothing
  | name :: rest =>
    match r.bindings.lookup name with
    | some binding => binding
    | none => bindingFrom r rest

def sessionOf (r : Registry) (c : ModelClass) : Option Session :=
  (r.bindingFrom c.lineage).session?

/-- The source of a class: its model in its session. -/
def sourceOf (r : Registry) (c : ModelClass) : Source Documents Result :=
  source (r.sessionOf c) c.model

/-- Sets a class up with a new query, and says where it lies. -/
def keep (name : String) (q : Query) (r : Registry) : Registry × Nat :=
  let (memory, i) := r.memory.make q
  ({ r with memory, templates := (name, i) :: r.templates.filter fun e => e.1 != name }, i)

/-- Sets a class up with settings. -/
def configure (library : Library) (name : String) (settings : Value) (r : Registry) :
    Registry × Except Fault Query :=
  match Query.new library name settings with
  | .error f => (r, .error f)
  | .ok q => ((r.keep name q).1, .ok q)

/-- Where the query lies that a class is set up with. A class that has not been set up is set up
without settings. -/
def template (library : Library) (name : String) (r : Registry) : Registry × Except Fault Nat :=
  match r.templates.lookup name with
  | some i => (r, .ok i)
  | none =>
    match Query.new library name .null with
    | .error f => (r, .error f)
    | .ok q =>
      let (r, i) := r.keep name q
      (r, .ok i)

/-- Makes a copy of the query that a class is set up with, and says where it lies. -/
def ready (library : Library) (name : String) (r : Registry) : Registry × Except Fault Nat :=
  match r.template library name with
  | (r, .error f) => (r, .error f)
  | (r, .ok i) =>
    let (memory, j) := r.memory.copy i
    ({ r with memory }, .ok j)

/-- A query of a class, ready for options. -/
def query (library : Library) (name : String) (r : Registry) : Registry × Except Fault Query :=
  match r.ready library name with
  | (r, .error f) => (r, .error f)
  | (r, .ok j) =>
    match r.memory.read j with
    | none => (r, .error .missingPart)
    | some q => (r, .ok q)

/-- Makes a call on a class. -/
def enter (watched : Bool) (library : Library) (c : ModelClass) (e : Entry)
    (arguments : Arguments) (r : Registry) :
    Act (Event Result) Registry (Reply Documents Result) :=
  match e.loading arguments with
  | .error f => .done r (.error f)
  | .ok loading =>
    match r.ready library c.name with
    | (r, .error f) => .done r (.error f)
    | (r, .ok j) =>
      let a := r.memory.use j fun q => q.run watched (r.sourceOf c) loading
      ⟨a.events, { r with memory := a.state }, a.outcome⟩

end Registry
end Store
end QueryOptions
