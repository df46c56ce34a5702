import QueryOptions.Proofs.Acceptance
import QueryOptions.Proofs.Calls
import QueryOptions.Proofs.Entries
import QueryOptions.Proofs.Handles
import QueryOptions.Sample.Operators
import QueryOptions.Store.Registry

/-!
# QueryOptions.Proofs.Isolation

Whole runs of requests to classes of models. All classes share one registry with one memory, calls
on them may be refused halfway, and whoever has asked for a query does with it as they like. What a
request is answered depends only on two things in the history before it: the settings of the last
set-up of the class itself that was not refused, and what the nearest of the classes from which the
class takes its session was last bound to.

The queries that classes are set up with stay as new, since nothing is ever done with them
themselves, and the queries that something is done with have no section in common with them.

* `Registry.settingsAfter`, `Registry.sessionAfter`, `Registry.handedAfter`: what the history says
  about a class, and about the queries that have been asked for;
* `Registry.reflects_ready`: a query that is made ready is as new, and nobody else has it;
* `Registry.reflects_answer`: the registry says what the history says, and keeps on doing so;
* `Registry.run_isolated`: each answer of a run is that of a new query with these settings, and each
  handle runs in this session.
-/

namespace QueryOptions
namespace Store
namespace Registry

/-! ## Requests and their history -/

/-- A request to a class of models, or to a query that such a request was answered with. -/
inductive Request where
  | bind (name : String) (binding : Binding)
  | configure (name : String) (settings : Value)
  /-- Asks for a query of a class, ready for options. -/
  | ask (name : String)
  /-- Does something with a query that has been asked for; they are numbered as they are asked
  for. -/
  | use (number : Nat) (action : Query → Act (Event Result) Query (Reply Documents Result))
  /-- Loads documents of a class. -/
  | load (c : ModelClass) (e : Entry) (arguments : Arguments)

inductive Answer where
  | done
  | query (outcome : Except Fault Query)
  | ran (events : List (Event Result)) (outcome : Except Fault (Reply Documents Result))

/-- The classes, and where the queries lie that have been asked for. -/
structure World where
  registry : Registry := {}
  handed : List Nat := []

/-- What doing something with a query is answered, if there is such a query. -/
def Answer.ofUse (q : Option Query)
    (action : Query → Act (Event Result) Query (Reply Documents Result)) : Answer :=
  match q with
  | none => .done
  | some q => .ran (action q).events (action q).outcome

/-- Does something with a query that has been asked for. -/
def World.use (w : World) (number : Nat)
    (action : Query → Act (Event Result) Query (Reply Documents Result)) : World × Answer :=
  match w.handed[number]? with
  | none => (w, .done)
  | some i =>
    let a := w.registry.memory.use i action
    ({ w with registry := { w.registry with memory := a.state } }, .ran a.events a.outcome)

section

variable (library : Library) (watched : Bool)

def World.ask (w : World) (name : String) : World × Answer :=
  match w.registry.ready library name with
  | (registry, .error f) => ({ w with registry }, .query (.error f))
  | (registry, .ok j) => (⟨registry, w.handed ++ [j]⟩, .query (w.registry.query library name).2)

def answer (w : World) : Request → World × Answer
  | .bind name binding => ({ w with registry := w.registry.bind name binding }, .done)
  | .configure name settings =>
    let (registry, outcome) := w.registry.configure library name settings
    ({ w with registry }, .query outcome)
  | .ask name => w.ask library name
  | .use number action => w.use number action
  | .load c e arguments =>
    let a := w.registry.enter watched library c e arguments
    ({ w with registry := a.state }, .ran a.events a.outcome)

def run (w : World) : List Request → List Answer
  | [] => []
  | request :: rest =>
    let (w, a) := answer library watched w request
    a :: run w rest

/-- The settings that a request sets a class up with, unless it is refused. -/
def settingsGiven (name : String) : Request → Option Value
  | .configure n settings =>
    if n = name then (Query.new library n settings).toOption.map fun _ => settings else none
  | _ => none

def bindingGiven (name : String) : Request → Option Binding
  | .bind n binding => if n = name then some binding else none
  | _ => none

/-- The settings that a class was last set up with; no settings if it never was. -/
def settingsAfter (past : List Request) (name : String) : Value :=
  (past.reverse.findSome? (settingsGiven library name)).getD .null

/-- The session of the first of some classes that was bound, by what it was last bound to. -/
def sessionAfter (past : List Request) (lineage : List String) : Option Session :=
  ((lineage.findSome? fun name => past.reverse.findSome? (bindingGiven name)).getD
    .nothing).session?

/-- The queries that have been asked for, each as it is after what was done with it; the latest
request stands first. -/
def handedBefore : List Request → List Query
  | [] => []
  | .ask name :: before =>
    handedBefore before
      ++ (Query.new library name (settingsAfter library before.reverse name)).toOption.toList
  | .use number action :: before =>
    (handedBefore before).modify number fun q => (action q).state
  | _ :: before => handedBefore before

/-- The queries that have been asked for, each as it is after what was done with it. -/
def handedAfter (past : List Request) : List Query := handedBefore library past.reverse

/-- An answer that tells nothing of the history but the settings and the session of the class. What
is done with a query that has been asked for tells nothing but what was done with it before. -/
def Isolated (past : List Request) : Request → Answer → Prop
  | .bind _ _, a => a = .done
  | .configure name settings, a => a = .query (Query.new library name settings)
  | .ask name, a =>
    ∃ q, Query.new library name (settingsAfter library past name) = .ok q ∧ a = .query (.ok q)
  | .use number action, a => a = .ofUse (handedAfter library past)[number]? action
  | .load c e arguments, a =>
    ∃ q, Query.new library c.name (settingsAfter library past c.name) = .ok q ∧
      let entered := q.enter watched (source (sessionAfter past c.lineage) c.model) e arguments
      a = .ran entered.events entered.outcome ∧
        ∀ handle, entered.outcome = .ok (.handle handle) →
          handle.session = sessionAfter past c.lineage

end

variable {library : Library} {watched : Bool} {past : List Request} {request : Request}
  {w : World} {name : String}

theorem findSome?_past_append {α : Type} (given : Request → Option α) (request : Request) :
    (past ++ [request]).reverse.findSome? given
      = (given request).or (past.reverse.findSome? given) := by
  rw [List.reverse_append, List.reverse_singleton, List.singleton_append, List.findSome?_cons]
  cases given request <;> rfl

theorem settingsAfter_append (request : Request) :
    settingsAfter library (past ++ [request]) name
      = (settingsGiven library name request).getD (settingsAfter library past name) := by
  unfold settingsAfter
  rw [findSome?_past_append]
  cases settingsGiven library name request <;> rfl

theorem handedAfter_append (request : Request) :
    handedAfter library (past ++ [request]) = handedBefore library (request :: past.reverse) := by
  unfold handedAfter
  rw [List.reverse_append]
  rfl

-- settings that were refused do not count, and settings of another class do not either
example :
    let size : Value := .dict [(.text "default_size", .int 5)]
    settingsAfter Sample.library
      [.configure "Person" size, .configure "Person" (.dict [(.text "page_size", .int 5)]),
        .configure "Team" .null] "Person" = size := rfl

/-! ## What the registry says about the history -/

/-- What the classes are bound to and set up with is what the history says, and the queries that
have been asked for are as it says. The queries that classes are set up with are as new, and nobody
has them. A class without such a query was never set up. -/
structure Reflects (library : Library) (past : List Request) (w : World) : Prop where
  separate : w.registry.memory.Separate
  bindings : ∀ name,
    w.registry.bindings.lookup name = past.reverse.findSome? (bindingGiven name)
  kept : ∀ {name : String} {i : Nat}, w.registry.templates.lookup name = some i →
    ∃ q, w.registry.memory.read i = some q ∧
      Query.new library name (settingsAfter library past name) = .ok q
  absent : ∀ {name : String}, w.registry.templates.lookup name = none →
    settingsAfter library past name = .null
  handed : w.handed.map w.registry.memory.read = (handedAfter library past).map some
  nodup : w.handed.Nodup
  apart : ∀ {name : String} {i : Nat}, w.registry.templates.lookup name = some i →
    i ∉ w.handed

/-- A place that no class is set up with, and that nobody who has asked for a query has. -/
structure IsFree (j : Nat) (w : World) : Prop where
  template : ∀ {name : String} {i : Nat}, w.registry.templates.lookup name = some i → i ≠ j
  handed : j ∉ w.handed

theorem reflects_empty : Reflects library [] {} where
  separate := Memory.separate_empty
  bindings _ := rfl
  kept h := by cases h
  absent _ := rfl
  handed := rfl
  nodup := List.nodup_nil
  apart h := by cases h

theorem bindingFrom_eq (h : Reflects library past w) (lineage : List String) :
    w.registry.bindingFrom lineage
      = (lineage.findSome? fun name => past.reverse.findSome? (bindingGiven name)).getD
        .nothing := by
  induction lineage with
  | nil => rfl
  | cons name rest ih =>
    unfold bindingFrom
    rw [h.bindings name, List.findSome?_cons]
    cases past.reverse.findSome? (bindingGiven name) with
    | none => exact ih
    | some binding => rfl

theorem sourceOf_eq (h : Reflects library past w) (c : ModelClass) :
    w.registry.sourceOf c = source (sessionAfter past c.lineage) c.model := by
  unfold sourceOf sessionOf sessionAfter
  rw [bindingFrom_eq h]

namespace Reflects

theorem length_handed (h : Reflects library past w) :
    w.handed.length = (handedAfter library past).length := by
  simpa using congrArg List.length h.handed

/-- A query that has been asked for lies where `handed` says, and is the one that the history tells
of. -/
theorem read_handed (h : Reflects library past w) {number i : Nat}
    (hi : w.handed[number]? = some i) :
    ∃ q, (handedAfter library past)[number]? = some q ∧ w.registry.memory.read i = some q := by
  have hread := congrArg (·[number]?) h.handed
  simp only [List.getElem?_map, hi, Option.map_some] at hread
  obtain ⟨q, hq, he⟩ := Option.map_eq_some_iff.mp hread.symm
  exact ⟨q, hq, he.symm⟩

theorem lt_of_handed (h : Reflects library past w) {i : Nat} (hi : i ∈ w.handed) :
    i < w.registry.memory.queries.length := by
  obtain ⟨number, hnumber⟩ := List.mem_iff_getElem?.mp hi
  obtain ⟨q, -, hread⟩ := h.read_handed hnumber
  exact Memory.lt_of_read hread

/-- `write` changes one of the queries that have been asked for, and the others stay as they are. -/
theorem handed_write (h : Reflects library past w) {number i : Nat} {q : Query}
    (hi : w.handed[number]? = some i) (hread : w.registry.memory.read i = some q)
    (change : Query → Query) :
    w.handed.map (w.registry.memory.write i (change q)).read
      = ((handedAfter library past).modify number change).map some := by
  refine List.ext_getElem? fun k => ?_
  rw [List.getElem?_map, List.getElem?_map, List.getElem?_modify]
  cases hk : w.handed[k]? with
  | none =>
    have hout : (handedAfter library past)[k]? = none := by
      rw [List.getElem?_eq_none_iff, ← h.length_handed, ← List.getElem?_eq_none_iff, hk]
    rw [hout]
    rfl
  | some l =>
    obtain ⟨p, hp, hother⟩ := h.read_handed hk
    rw [hp]
    by_cases he : number = k
    · subst he
      obtain rfl : i = l := Option.some.inj (hi.symm.trans hk)
      obtain rfl : q = p := Option.some.inj (hread.symm.trans hother)
      simp [Memory.read_write_self h.separate hread]
    · have hne : i ≠ l := by
        rintro rfl
        have hbound := (List.getElem?_eq_some_iff.mp hi).1
        exact he ((List.getElem?_inj hbound h.nodup).mp (hi.trans hk.symm))
      simp [Memory.read_write_of_ne h.separate hne hother, he]

/-- The place of the next query is free. -/
theorem isFree_next (h : Reflects library past w) :
    IsFree w.registry.memory.queries.length w where
  template hi := by
    obtain ⟨_, hread, -⟩ := h.kept hi
    exact Nat.ne_of_lt (Memory.lt_of_read hread)
  handed hmem := Nat.lt_irrefl _ (h.lt_of_handed hmem)

/-- A memory in which the queries of classes, and those that have been asked for, are as before. -/
theorem withMemory (h : Reflects library past w) {memory : Memory} (hseparate : memory.Separate)
    (htemplate : ∀ {name : String} {i : Nat} {q : Query},
      w.registry.templates.lookup name = some i → w.registry.memory.read i = some q →
        memory.read i = some q)
    (hhanded : ∀ {i : Nat} {q : Query}, i ∈ w.handed → w.registry.memory.read i = some q →
      memory.read i = some q) :
    Reflects library past { w with registry := { w.registry with memory } } where
  separate := hseparate
  bindings := h.bindings
  kept hi := by
    obtain ⟨q, hread, hnew⟩ := h.kept hi
    exact ⟨q, htemplate hi hread, hnew⟩
  absent := h.absent
  handed := by
    rw [← h.handed]
    refine List.map_congr_left fun i hi => ?_
    obtain ⟨number, hnumber⟩ := List.mem_iff_getElem?.mp hi
    obtain ⟨q, -, hread⟩ := h.read_handed hnumber
    rw [hread, hhanded hi hread]
  nodup := h.nodup
  apart := h.apart

/-- `Memory.make` leaves `Reflects` as it was: the new objects belong to nobody. -/
theorem make (h : Reflects library past w) (q : Query) :
    Reflects library past
      { w with registry := { w.registry with memory := (w.registry.memory.make q).1 } } :=
  h.withMemory (Memory.separate_make h.separate q)
    (fun _ hread => Memory.read_make_of_read hread q)
    fun _ hread => Memory.read_make_of_read hread q

/-- Something is done with a query that neither a class is set up with nor anybody has who has asked
for a query. -/
theorem use_free (h : Reflects library past w) {j : Nat} (hj : IsFree j w) {E α : Type}
    (action : Query → Act E Query α) :
    Reflects library past
      { w with
        registry := { w.registry with memory := (w.registry.memory.use j action).state } } := by
  cases hread : w.registry.memory.read j with
  | none =>
    unfold Memory.use
    rw [hread]
    exact h
  | some q =>
    rw [Memory.use_of_read hread]
    have hne {i : Nat} (hi : i ∈ w.handed) : j ≠ i := fun he => hj.handed (he ▸ hi)
    exact h.withMemory (Memory.separate_write h.separate j _)
      (fun hi hother =>
        Memory.read_write_of_ne h.separate (Ne.symm (hj.template hi)) hother _)
      fun hi hother => Memory.read_write_of_ne h.separate (hne hi) hother _

/-- `Reflects` after a request that says nothing about settings, bindings and queries. -/
theorem append (h : Reflects library past w)
    (hsettings : ∀ other, settingsGiven library other request = none)
    (hbinding : ∀ other, bindingGiven other request = none)
    (hhanded : handedAfter library (past ++ [request]) = handedAfter library past) :
    Reflects library (past ++ [request]) w where
  separate := h.separate
  bindings other := by
    rw [findSome?_past_append, hbinding]
    exact h.bindings other
  kept hi := by
    rw [settingsAfter_append, hsettings]
    exact h.kept hi
  absent hi := by
    rw [settingsAfter_append, hsettings]
    exact h.absent hi
  handed := by rw [hhanded, h.handed]
  nodup := h.nodup
  apart := h.apart

/-- `Reflects` after `Registry.keep`: the class is set up with a new query, with the settings that
the history says it was set up with. -/
theorem keep (h : Reflects library past w) {q : Query} {settings : Value} {now : List Request}
    (hnew : Query.new library name settings = .ok q)
    (hgiven : settingsAfter library now name = settings)
    (hothers : ∀ other, other ≠ name →
      settingsAfter library now other = settingsAfter library past other)
    (hbindings : ∀ other, now.reverse.findSome? (bindingGiven other)
      = past.reverse.findSome? (bindingGiven other))
    (hhanded : handedAfter library now = handedAfter library past) :
    Reflects library now { w with registry := (w.registry.keep name q).1 } := by
  have htemplates (other : String) :
      (w.registry.keep name q).1.templates.lookup other
        = if name = other then some w.registry.memory.queries.length
          else w.registry.templates.lookup other :=
    lookup_replaced w.registry.templates name other _
  have hmade := h.make q
  constructor
  case separate => exact hmade.separate
  case bindings =>
    intro other
    rw [hbindings]
    exact h.bindings other
  case kept =>
    intro other i hi
    rw [htemplates] at hi
    split at hi
    · rename_i he
      subst he
      cases hi
      rw [hgiven]
      exact ⟨q, Memory.read_make_self q w.registry.memory, hnew⟩
    · rename_i hne
      rw [hothers other (Ne.symm hne)]
      exact hmade.kept hi
  case absent =>
    intro other hi
    rw [htemplates] at hi
    split at hi
    · cases hi
    · rename_i hne
      rw [hothers other (Ne.symm hne)]
      exact h.absent hi
  case handed =>
    rw [hhanded]
    exact hmade.handed
  case nodup => exact h.nodup
  case apart =>
    intro other i hi
    rw [htemplates] at hi
    split at hi
    · cases hi
      exact h.isFree_next.handed
    · exact h.apart hi

end Reflects

/-! ## One request -/

theorem reflects_bind (h : Reflects library past w) (binding : Binding) :
    Reflects library (past ++ [.bind name binding])
      { w with registry := w.registry.bind name binding } where
  separate := h.separate
  bindings other := by
    rw [findSome?_past_append, ← h.bindings other]
    refine (lookup_replaced w.registry.bindings name other binding).trans ?_
    by_cases hname : name = other
    · simp [bindingGiven, hname]
    · simp [bindingGiven, hname]
  kept hi := by
    rw [settingsAfter_append]
    exact h.kept hi
  absent hi := by
    rw [settingsAfter_append]
    exact h.absent hi
  handed := by
    rw [handedAfter_append]
    exact h.handed
  nodup := h.nodup
  apart := h.apart

theorem reflects_configure (h : Reflects library past w) (settings : Value) :
    Reflects library (past ++ [.configure name settings])
      { w with registry := (w.registry.configure library name settings).1 } := by
  have hhanded : handedAfter library (past ++ [.configure name settings])
      = handedAfter library past := handedAfter_append _
  unfold configure
  cases hnew : Query.new library name settings with
  | error f =>
    refine h.append (fun other => ?_) (fun _ => rfl) hhanded
    rw [settingsGiven, hnew]
    exact ite_self none
  | ok q =>
    refine h.keep hnew ?_ (fun other hne => ?_) (fun other => ?_) hhanded
    · rw [settingsAfter_append, settingsGiven, if_pos rfl, hnew]
      rfl
    · rw [settingsAfter_append, settingsGiven, if_neg (Ne.symm hne)]
      rfl
    · rw [findSome?_past_append]
      rfl

/-- The query that a class is set up with is as new. -/
theorem reflects_template (h : Reflects library past w) (name : String) :
    ∃ r i q, w.registry.template library name = (r, .ok i) ∧ r.memory.read i = some q ∧
      Query.new library name (settingsAfter library past name) = .ok q ∧
      Reflects library past { w with registry := r } := by
  unfold template
  cases hi : w.registry.templates.lookup name with
  | some i =>
    obtain ⟨q, hread, hnew⟩ := h.kept hi
    exact ⟨_, i, q, rfl, hread, hnew, h⟩
  | none =>
    dsimp only
    rw [h.absent hi, Query.new_null]
    exact ⟨_, _, _, rfl, Memory.read_make_self _ _, rfl,
      h.keep (Query.new_null _ _) (h.absent hi) (fun _ _ => rfl) (fun _ => rfl) rfl⟩

/-- A query of a class that is made ready is as new, and nobody else has it. -/
theorem reflects_ready (h : Reflects library past w) (name : String) :
    ∃ r j q, w.registry.ready library name = (r, .ok j) ∧ r.memory.read j = some q ∧
      Query.new library name (settingsAfter library past name) = .ok q ∧
      Reflects library past { w with registry := r } ∧ IsFree j { w with registry := r } := by
  obtain ⟨r, i, q, htemplate, hread, hnew, hr⟩ := reflects_template h name
  unfold ready
  rw [htemplate]
  dsimp only
  rw [Memory.copy_eq hread]
  have hfree := hr.isFree_next
  exact ⟨_, _, q, rfl, Memory.read_make_self q r.memory, hnew, hr.make q,
    ⟨hfree.template, hfree.handed⟩⟩

theorem query_of_reflects (h : Reflects library past w) (name : String) :
    ∃ q, Query.new library name (settingsAfter library past name) = .ok q ∧
      (w.registry.query library name).2 = .ok q := by
  obtain ⟨r, j, q, hready, hread, hnew, -, -⟩ := reflects_ready h name
  refine ⟨q, hnew, query_ok_iff.mpr ⟨j, ?_, ?_⟩⟩
  · rw [hready]
  · rw [hready]
    exact hread

/-- A query is handed out to whoever asks for it. -/
theorem reflects_ask (h : Reflects library past w) (name : String) :
    (∃ q, Query.new library name (settingsAfter library past name) = .ok q ∧
      (w.ask library name).2 = .query (.ok q)) ∧
      Reflects library (past ++ [.ask name]) (w.ask library name).1 := by
  obtain ⟨r, j, q, hready, hread, hnew, hr, hfree⟩ := reflects_ready h name
  obtain ⟨q', hnew', hquery⟩ := query_of_reflects h name
  have hhanded : handedAfter library (past ++ [.ask name]) = handedAfter library past ++ [q] := by
    rw [handedAfter_append, handedBefore, List.reverse_reverse, hnew]
    rfl
  unfold World.ask
  rw [hready]
  refine ⟨⟨q', hnew', congrArg Answer.query hquery⟩, ?_⟩
  constructor
  case separate => exact hr.separate
  case bindings =>
    intro other
    rw [findSome?_past_append]
    exact hr.bindings other
  case kept =>
    intro other i hi
    rw [settingsAfter_append]
    exact hr.kept hi
  case absent =>
    intro other hi
    rw [settingsAfter_append]
    exact hr.absent hi
  case handed =>
    rw [hhanded, List.map_append, List.map_append, ← hr.handed, List.map_singleton,
      List.map_singleton, hread]
  case nodup =>
    refine List.nodup_append.mpr ⟨h.nodup, List.pairwise_singleton _ j, ?_⟩
    intro i hi k hk he
    obtain rfl := List.mem_singleton.mp hk
    exact hfree.handed (he ▸ hi)
  case apart =>
    intro other i hi hmem
    rcases List.mem_append.mp hmem with hmem | hmem
    · exact hr.apart hi hmem
    · exact hfree.template hi (List.mem_singleton.mp hmem)

/-- What is done with a query that has been asked for changes no other one. -/
theorem reflects_use (h : Reflects library past w) (number : Nat)
    (action : Query → Act (Event Result) Query (Reply Documents Result)) :
    (w.use number action).2 = .ofUse (handedAfter library past)[number]? action ∧
      Reflects library (past ++ [.use number action]) (w.use number action).1 := by
  have hhanded : handedAfter library (past ++ [.use number action])
      = (handedAfter library past).modify number fun q => (action q).state :=
    handedAfter_append _
  unfold World.use
  cases hi : w.handed[number]? with
  | none =>
    have hout : (handedAfter library past).length ≤ number := by
      rw [← h.length_handed]
      exact List.getElem?_eq_none_iff.mp hi
    rw [List.getElem?_eq_none hout]
    exact ⟨rfl, h.append (fun _ => rfl) (fun _ => rfl)
      (hhanded.trans (List.modify_eq_self hout))⟩
  | some i =>
    obtain ⟨q, hq, hread⟩ := h.read_handed hi
    have hmem := List.mem_of_getElem? hi
    dsimp only
    rw [hq, Memory.use_of_read hread]
    refine ⟨rfl, ?_⟩
    constructor
    case separate => exact Memory.separate_write h.separate i _
    case bindings =>
      intro other
      rw [findSome?_past_append]
      exact h.bindings other
    case kept =>
      intro other k hk
      obtain ⟨p, hp, hnew⟩ := h.kept hk
      have hne : i ≠ k := fun he => h.apart hk (he ▸ hmem)
      rw [settingsAfter_append]
      exact ⟨p, Memory.read_write_of_ne h.separate hne hp _, hnew⟩
    case absent =>
      intro other hk
      rw [settingsAfter_append]
      exact h.absent hk
    case handed =>
      rw [hhanded]
      exact h.handed_write hi hread fun q => (action q).state
    case nodup => exact h.nodup
    case apart => exact h.apart

/-- A handle that a query has configured runs in the session of its source. -/
theorem session_of_handle {session : Option Session} {model : Model} {q : Query} {d : Documents}
    (h : (q.handle (source session model)).outcome = .ok d) : d.session = session := by
  unfold Query.handle at h
  split at h
  · cases h
  · rename_i opening steps hplan
    unfold Source.prepare at h
    split at h
    · cases h
    · rename_i found hf
      have hfound : found.session = session := by
        cases opening with
        | find predicate | findOne predicate =>
          obtain ⟨condition, hcondition, rfl⟩ := Documents.find_eq_ok hf
          rfl
      exact (Documents.configureAll_sameRows h).session.trans hfound

theorem session_of_load {session : Option Session} {model : Model} {q : Query} {d : Documents}
    {conditions identifier callback extra : Value}
    (h : (q.load watched (source session model) conditions identifier callback extra).outcome
      = .ok (.handle d)) : d.session = session := by
  unfold Query.load at h
  dsimp only at h
  generalize (if conditions.isNull then some [] else conditions.dict?) = given at h
  cases given with
  | none => cases h
  | some options =>
    obtain ⟨_, _, hlast, -⟩ := Act.ok_of_andThen h
    split at hlast
    · obtain ⟨handle, hhandle, heq⟩ := map_eq_ok_iff.mp hlast
      cases heq
      exact session_of_handle hhandle
    · obtain ⟨_, _, heq⟩ := map_eq_ok_iff.mp hlast
      cases heq

theorem session_of_enter {session : Option Session} {model : Model} {q : Query} {d : Documents}
    {e : Entry} {arguments : Arguments}
    (h : (q.enter watched (source session model) e arguments).outcome = .ok (.handle d)) :
    d.session = session := by
  unfold Query.enter at h
  split at h
  · cases h
  · rename_i loading hl
    cases loading with
    | any places extra =>
      simp only [Query.run, Query.loadAny] at h
      split at h
      · cases h
      · split at h
        · exact session_of_load h
        · exact session_of_load h
    | one identifier conditions callback extra => exact session_of_load h
    | many conditions callback extra => exact session_of_load h

/-- A call on a class is the same call on a new query with the settings of the class. -/
theorem enter_of_reflects (watched : Bool) (h : Reflects library past w) (c : ModelClass)
    (e : Entry)
    (arguments : Arguments) :
    ∃ q, Query.new library c.name (settingsAfter library past c.name) = .ok q ∧
      let entered := q.enter watched (source (sessionAfter past c.lineage) c.model) e arguments
      (w.registry.enter watched library c e arguments).events = entered.events ∧
        (w.registry.enter watched library c e arguments).outcome = entered.outcome := by
  obtain ⟨q, hnew, hquery⟩ := query_of_reflects h c.name
  rw [← sourceOf_eq h c]
  exact ⟨q, hnew, enter_eq watched hquery e arguments⟩

theorem reflects_enter (h : Reflects library past w) (c : ModelClass) (e : Entry)
    (arguments : Arguments) :
    Reflects library (past ++ [.load c e arguments])
      { w with registry := (w.registry.enter watched library c e arguments).state } := by
  refine Reflects.append ?_ (fun _ => rfl) (fun _ => rfl) (handedAfter_append _)
  unfold enter
  cases e.loading arguments with
  | error f => exact h
  | ok loading =>
    obtain ⟨r, j, q, hready, -, -, hr, hfree⟩ := reflects_ready h c.name
    dsimp only
    rw [hready]
    exact hr.use_free hfree _

/-- One request: the answer is that of a new query, and the registry goes on to say what the history
says. -/
theorem reflects_answer (watched : Bool) (h : Reflects library past w) (request : Request) :
    Isolated library watched past request (answer library watched w request).2 ∧
      Reflects library (past ++ [request]) (answer library watched w request).1 := by
  cases request with
  | bind name binding => exact ⟨rfl, reflects_bind h binding⟩
  | configure name settings =>
    refine ⟨congrArg Answer.query ?_, reflects_configure h settings⟩
    change (w.registry.configure library name settings).2 = Query.new library name settings
    unfold configure
    cases Query.new library name settings <;> rfl
  | ask name => exact reflects_ask h name
  | use number action => exact reflects_use h number action
  | load c e arguments =>
    refine ⟨?_, reflects_enter h c e arguments⟩
    obtain ⟨q, hnew, hevents, houtcome⟩ := enter_of_reflects watched h c e arguments
    refine ⟨q, hnew, ?_, fun handle => session_of_enter⟩
    change Answer.ran _ _ = _
    rw [hevents, houtcome]

/-! ## Whole runs -/

theorem run_of_reflects (h : Reflects library past w) (between later : List Request)
    (request : Request) :
    ∃ a, (run library watched w (between ++ request :: later))[between.length]? = some a ∧
      Isolated library watched (past ++ between) request a := by
  induction between generalizing past w with
  | nil =>
    rw [List.append_nil]
    exact ⟨_, rfl, (reflects_answer watched h request).1⟩
  | cons first rest ih =>
    obtain ⟨a, ha, hisolated⟩ := ih (reflects_answer watched h first).2
    rw [List.append_assoc] at hisolated
    exact ⟨a, ha, hisolated⟩

/-- In a run from the start, each request is answered as if its class had been alone, with a new
query that has the settings of the last set-up of that class that was not refused, and the session
of the nearest class that was bound, by what it was last bound to. -/
theorem run_isolated (library : Library) (watched : Bool) (past later : List Request)
    (request : Request) :
    ∃ a, (run library watched {} (past ++ request :: later))[past.length]? = some a ∧
      Isolated library watched past request a :=
  run_of_reflects reflects_empty past later request

end Registry
end Store
end QueryOptions
