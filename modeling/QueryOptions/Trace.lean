import QueryOptions.Call
import QueryOptions.Fault.Basic
import QueryOptions.Notice

/-!
# QueryOptions.Trace

What happens while a query is answered, in order: messages, calls of the model and of the handle
that it gives, and calls of the callback. `Act` is the outcome of an action on a state together
with what happened; `Source` is a model that answers calls.
-/

namespace QueryOptions

/-- Something that happens. -/
inductive Event (R : Type) where
  /-- A message is written. -/
  | notice (n : Notice)
  /-- The model is asked for a handle. -/
  | opened (o : Opening)
  /-- The handle is configured. -/
  | taken (s : Step)
  /-- The handle is executed. -/
  | executed
  /-- A callback is called with an error or a result. -/
  | answered (receiver : Nat) (error : Option Fault) (result : Option R)

namespace Event

variable {R : Type}

/-- Whether something is a message. -/
def isNotice : Event R → Bool
  | .notice _ => true
  | _ => false

end Event

/-- The outcome of an action on a state, with what happened. -/
structure Act (E σ α : Type) where
  events : List E
  state : σ
  outcome : Except Fault α

namespace Act

variable {E F σ τ α β : Type}

/-- Nothing happens. -/
def done (s : σ) (outcome : Except Fault α) : Act E σ α := ⟨[], s, outcome⟩

/-- Goes on if nothing was refused. -/
def andThen (a : Act E σ α) (next : σ → α → Act E σ β) : Act E σ β :=
  match a.outcome with
  | .error f => ⟨a.events, a.state, .error f⟩
  | .ok v =>
    let b := next a.state v
    ⟨a.events ++ b.events, b.state, b.outcome⟩

def mapEvents (g : E → F) (a : Act E σ α) : Act F σ α := ⟨a.events.map g, a.state, a.outcome⟩

theorem andThen_ok (events : List E) (s : σ) (v : α) (next : σ → α → Act E σ β) :
    andThen ⟨events, s, .ok v⟩ next
      = ⟨events ++ (next s v).events, (next s v).state, (next s v).outcome⟩ := rfl

end Act

/-- A model that answers calls: `H` are its handles and `R` the results of executing them. -/
structure Source (H R : Type) where
  /-- Gives a handle. -/
  acquire : Opening → Except Fault H
  /-- Configures a handle. -/
  configure : Step → H → Except Fault H
  /-- Executes a handle; `awaited` says whether a callback waits for the result. -/
  execute : (awaited : Bool) → H → List Notice × Except Fault R

namespace Source

variable {H R : Type}

/-- Takes steps one after the other, up to the first one that is refused. -/
def configureAll (source : Source H R) : List Step → H → Act (Event R) Unit H
  | [], handle => .done () (.ok handle)
  | s :: rest, handle =>
    match source.configure s handle with
    | .error f => ⟨[.taken s], (), .error f⟩
    | .ok configured =>
      let a := configureAll source rest configured
      ⟨.taken s :: a.events, (), a.outcome⟩

def prepare (source : Source H R) (opening : Opening) (steps : List Step) :
    Act (Event R) Unit H :=
  match source.acquire opening with
  | .error f => ⟨[.opened opening], (), .error f⟩
  | .ok handle =>
    let a := configureAll source steps handle
    ⟨.opened opening :: a.events, (), a.outcome⟩

def answer (callback : Value) (outcome : Except Fault R) : Act (Event R) Unit (Option R) :=
  match callback with
  | .callback number raises =>
    let event : Event R :=
      match outcome with
      | .ok r => .answered number none (some r)
      | .error f => .answered number (some f) none
    ⟨[event], (), if raises then .error .callbackFailed else .ok none⟩
  | _ => .done () (.error .mismatch)

/-- Executes a handle. The result goes to the callback, if there is one; no callback is null. -/
def exec (source : Source H R) (callback : Value) (handle : H) : Act (Event R) Unit (Option R) :=
  let awaited := !callback.isNull
  let (notices, outcome) := source.execute awaited handle
  let before := Event.executed :: notices.map Event.notice
  if awaited then
    let a := answer callback outcome
    ⟨before ++ a.events, (), a.outcome⟩
  else ⟨before, (), outcome.map some⟩

end Source

inductive Reply (H R : Type) where
  /-- A configured handle, not executed. -/
  | handle (h : H)
  /-- The result of an execution. -/
  | result (r : R)
  /-- Nothing, because the callback was given the result. -/
  | nothing

end QueryOptions
