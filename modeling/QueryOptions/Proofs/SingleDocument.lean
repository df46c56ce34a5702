import QueryOptions.Proofs.Additions
import QueryOptions.Proofs.Handles
import QueryOptions.Sample.Staff

/-!
# QueryOptions.Proofs.SingleDocument

Calls for a single document. The identifier decides what such a call asks for. If it counts for
something, the call asks for the first row that meets its predicate, and only says what is loaded of
it; a class of models then gives a single document, or none (`Query.enter_document`). If it counts
for nothing, as an empty text or zero, the call goes as the call for a collection with the same
options, in spite of its name (`Query.emptyIdentifier_collection`).

* `LoadsOne`: the ways in which a call with an identifier may go;
* `load_loadsOne`: a call goes in one of them;
* `Store.Documents.prepare_single`: a handle for the first row gives a single document.
-/

namespace QueryOptions

variable {H R : Type}

def Step.isLoading : Step → Bool
  | .select _ => true
  | .populate _ _ => true
  | _ => false

namespace CompiledQuery

variable {compiled : CompiledQuery}

theorem opening_document (h : compiled.isCollection = false) :
    compiled.opening = .findOne compiled.predicate := by
  unfold opening
  rw [if_neg (by simp [h])]

theorem steps_document (h : compiled.isCollection = false) :
    ∀ s ∈ compiled.steps, s.isLoading = true := by
  have harrangement : compiled.arrangement = [] := by
    unfold arrangement
    rw [if_neg (by simp [h])]
  intro s hs
  unfold steps at hs
  rw [harrangement, List.append_nil, List.mem_append] at hs
  rcases hs with hs | hs
  · unfold selection at hs
    split at hs
    · cases hs
    · obtain rfl := List.mem_singleton.mp hs
      rfl
  · obtain ⟨r, -, rfl⟩ := List.mem_map.mp hs
    rfl

end CompiledQuery

/-- How a call for the row that meets a predicate may go, after messages. -/
inductive LoadsOne (source : Source H R) (callback predicate : Value) :
    List (Event R) → Except Fault (Reply H R) → Prop where
  /-- Nothing is asked of the model. -/
  | refused (f : Fault) : LoadsOne source callback predicate [] (.error f)
  /-- The model gives no handle, or one that does not take the steps. -/
  | stopped {steps : List Step} {f : Fault} :
      (∀ s ∈ steps, s.isLoading = true) →
      (source.prepare (.findOne predicate) steps).outcome = .error f →
      LoadsOne source callback predicate (source.prepare (.findOne predicate) steps).events
        (.error f)
  /-- The handle is given back. -/
  | returned {steps : List Step} {handle : H} :
      callback.isNull = true → (∀ s ∈ steps, s.isLoading = true) →
      (source.prepare (.findOne predicate) steps).outcome = .ok handle →
      LoadsOne source callback predicate (source.prepare (.findOne predicate) steps).events
        (.ok (.handle handle))
  /-- The handle is executed for the callback. -/
  | executed {steps : List Step} {handle : H} :
      callback.isNull = false → (∀ s ∈ steps, s.isLoading = true) →
      (source.prepare (.findOne predicate) steps).outcome = .ok handle →
      LoadsOne source callback predicate
        ((source.prepare (.findOne predicate) steps).events
          ++ (source.exec callback handle).events)
        ((source.exec callback handle).outcome.map fun _ => .nothing)

namespace Query

variable {source : Source H R} {q s : Query} {options : Dict}
  {identifier conditions callback extra : Value}

/-- What looks a document up: the lookup of the options, or else the identifier. -/
def predicateOf (options : Dict) (identifier : Value) : Value :=
  (options.get "indifier").orElse (single "_id" identifier)

theorem take_predicate (watched : Bool) (options : Dict) (q : Query)
    (hi : identifier.isFalsy = false)
    (h : (q.take watched (.dict options) identifier).outcome = .ok ()) :
    let taken := (q.take watched (.dict options) identifier).state
    taken.isCollection = false ∧
      taken.lookup.orElse (single "_id" taken.identifier) = predicateOf options identifier := by
  obtain ⟨_, hentries, -, hstate⟩ := take_ok h
  obtain rfl := Option.some.inj hentries
  have hsame := giveSections_sameAim options (q.aim options identifier)
  have hidentifier : (q.aim options identifier).identifier = identifier := by
    simp [aim, Value.orElse, hi]
  have hlookup : (q.aim options identifier).lookup = options.get "indifier" := rfl
  rw [hstate]
  refine ⟨?_, ?_⟩
  · show Value.isFalsy _ = false
    rw [hsame.identifier, hidentifier, hi]
  · show Value.orElse _ _ = _
    rw [hsame.lookup, hsame.identifier, hidentifier, hlookup]
    rfl

/-- What a query for a single document asks of a model. -/
theorem handle_document (source : Source H R) (hc : s.isCollection = false) :
    (∃ f, s.handle source = .done () (.error f)) ∨
      ∃ steps : List Step, (∀ t ∈ steps, t.isLoading = true) ∧
        s.handle source
          = source.prepare (.findOne (s.lookup.orElse (single "_id" s.identifier))) steps := by
  cases h : s.compile with
  | error f => exact .inl ⟨f, handle_eq_error source h⟩
  | ok compiled =>
    have hdocument : compiled.isCollection = false := (isCollection_of_compile h).trans hc
    refine .inr ⟨compiled.steps, CompiledQuery.steps_document hdocument, ?_⟩
    rw [handle_eq_prepare source h, CompiledQuery.opening_document hdocument]
    obtain ⟨_, -, rfl⟩ := compile_document hc h
    rfl

theorem predicateOf_withExtra (options : Dict) (extra identifier : Value) :
    predicateOf (withExtra options extra) identifier = predicateOf options identifier := by
  unfold predicateOf withExtra Dict.get
  split
  · rfl
  · rw [Dict.get?_put_of_ne (by decide)]

theorem handle_loadsOne (source : Source H R) (hc : s.isCollection = false)
    (hcallback : callback.isNull = true) :
    LoadsOne source callback (s.lookup.orElse (single "_id" s.identifier))
      (s.handle source).events ((s.handle source).outcome.map .handle) := by
  rcases handle_document source hc with ⟨f, hrefused⟩ | ⟨steps, hsteps, hprepare⟩
  · rw [hrefused]
    exact .refused f
  · rw [hprepare]
    cases houtcome : (source.prepare _ steps).outcome with
    | error f => exact .stopped hsteps houtcome
    | ok handle => exact .returned hcallback hsteps houtcome

theorem exec_loadsOne (source : Source H R) (hc : s.isCollection = false)
    (hcallback : callback.isNull = false) :
    LoadsOne source callback (s.lookup.orElse (single "_id" s.identifier))
      (s.exec source callback).events ((s.exec source callback).outcome.map fun _ => .nothing) := by
  unfold exec
  rcases handle_document source hc with ⟨f, hrefused⟩ | ⟨steps, hsteps, hprepare⟩
  · rw [hrefused]
    exact .refused f
  · rw [hprepare]
    unfold Act.andThen
    cases houtcome : (source.prepare _ steps).outcome with
    | error f => exact .stopped hsteps houtcome
    | ok handle =>
      have hreply (o : Except Fault (Option R)) :
          (o.map (replyOf : Option R → Reply H R)).map (fun _ => (.nothing : Reply H R))
            = o.map fun _ => .nothing := by
        cases o <;> rfl
      rw [hreply]
      exact .executed hcallback hsteps houtcome

/-- A call with an identifier that counts for something. -/
theorem load_loadsOne (source : Source H R) (watched : Bool) (hi : identifier.isFalsy = false)
    (conditions callback extra : Value) (q : Query) :
    ∃ (notices : List Notice) (events : List (Event R)),
      (q.load watched source conditions identifier callback extra).events
        = notices.map .notice ++ events ∧
      LoadsOne source callback (predicateOf ((entriesOf conditions).getD []) identifier) events
        (q.load watched source conditions identifier callback extra).outcome := by
  unfold load
  dsimp only
  split
  · exact ⟨[], [], rfl, .refused _⟩
  · rename_i options hgiven
    have hoptions : entriesOf conditions = some options := hgiven
    have hdocument := take_predicate watched (withExtra options extra) q hi
    rw [predicateOf_withExtra] at hdocument
    rw [hoptions, Option.getD_some]
    generalize q.take watched (.dict (withExtra options extra)) identifier = taken at hdocument
    obtain ⟨notices, s, outcome⟩ := taken
    cases outcome with
    | error f => exact ⟨notices, [], (List.append_nil _).symm, .refused f⟩
    | ok _ =>
      obtain ⟨hc, hpredicate⟩ := hdocument rfl
      rw [← hpredicate]
      simp only [Act.mapEvents, Act.andThen_ok]
      cases hcallback : callback.isNull with
      | true => exact ⟨notices, _, rfl, handle_loadsOne source hc hcallback⟩
      | false => exact ⟨notices, _, rfl, exec_loadsOne source hc hcallback⟩

/-- `load` with an identifier that counts for nothing is `load` without one. -/
theorem load_falsy (source : Source H R) (watched : Bool) (hi : identifier.isFalsy = true)
    (conditions callback extra : Value) (q : Query) :
    q.load watched source conditions identifier callback extra
      = q.load watched source conditions .null callback extra := by
  have hnone : identifier.orElse .null = .null := Value.orElse_of_falsy .null hi
  have htake (options : Value) :
      q.take watched options identifier = q.take watched options .null := by
    unfold take
    rw [hnone]
    rfl
  unfold load
  simp only [htake]

end Query

/-! ## What a call for a single document asks for, and what it gives -/

/-- A call asks for the row that meets a predicate and says what is loaded of it, and that is all
that it asks for. What it gives comes from a handle for that row. -/
structure IsForDocument (source : Source H R) (predicate : Value) (events : List (Event R))
    (outcome : Except Fault (Reply H R)) : Prop where
  opened : ∀ o, .opened o ∈ events → o = .findOne predicate
  taken : ∀ s, .taken s ∈ events → s.isLoading = true
  returned : ∀ reply, outcome = .ok reply → .opened (.findOne predicate) ∈ events ∧
    ∀ r, reply ≠ .result r
  handle : ∀ handle, outcome = .ok (.handle handle) →
    ∃ steps, (source.prepare (.findOne predicate) steps).outcome = .ok handle
  answered : ∀ number f r, .answered number f (some r) ∈ events →
    ∃ steps handle, (source.prepare (.findOne predicate) steps).outcome = .ok handle ∧
      (source.execute true handle).2 = .ok r

namespace Source

variable {source : Source H R} {opening : Opening} {steps : List Step} {callback : Value}
  {handle : H}

theorem mem_prepare {e : Event R} (h : e ∈ (source.prepare opening steps).events) :
    e = .opened opening ∨ ∃ s ∈ steps, e = .taken s := by
  have hm := (source.prepare_prefix opening steps).subset h
  rcases List.mem_cons.mp hm with rfl | hm
  · exact .inl rfl
  · obtain ⟨s, hs, rfl⟩ := List.mem_map.mp hm
    exact .inr ⟨s, hs, rfl⟩

theorem opened_mem_prepare (source : Source H R) (opening : Opening) (steps : List Step) :
    .opened opening ∈ (source.prepare opening steps).events := by
  unfold prepare
  split
  · exact List.mem_cons_self
  · exact List.mem_cons_self

/-- A callback is told what the execution gives. -/
theorem answered_mem_exec {number : Nat} {f : Option Fault} {r : R}
    (hcallback : callback.isNull = false)
    (h : .answered number f (some r) ∈ (source.exec callback handle).events) :
    (source.execute true handle).2 = .ok r := by
  unfold exec answer at h
  simp only [hcallback, Bool.not_false, if_true] at h
  rcases List.mem_append.mp h with h | h
  · simp at h
  · split at h
    · cases houtcome : (source.execute true handle).2 with
      | ok r' =>
        rw [houtcome] at h
        have he := List.mem_singleton.mp h
        simp only [Event.answered.injEq, Option.some.injEq] at he
        rw [he.2.2]
      | error f' =>
        rw [houtcome] at h
        simp at h
    · cases h

end Source

theorem LoadsOne.isForDocument {source : Source H R} {callback predicate : Value}
    {events : List (Event R)} {outcome : Except Fault (Reply H R)}
    (h : LoadsOne source callback predicate events outcome) :
    IsForDocument source predicate events outcome := by
  have hopened {steps : List Step} {o : Opening}
      (ho : .opened o ∈ (source.prepare (.findOne predicate) steps).events) :
      o = .findOne predicate := by
    rcases Source.mem_prepare ho with he | ⟨_, _, he⟩
    · exact Event.opened.inj he
    · cases he
  have htaken {steps : List Step} (hsteps : ∀ s ∈ steps, s.isLoading = true) {s : Step}
      (hs : .taken s ∈ (source.prepare (.findOne predicate) steps).events) :
      s.isLoading = true := by
    rcases Source.mem_prepare hs with he | ⟨t, ht, he⟩
    · cases he
    · cases he
      exact hsteps _ ht
  have hanswered {steps : List Step} {number : Nat} {f : Option Fault} {r : Option R} :
      .answered number f r ∉ (source.prepare (.findOne predicate) steps).events := by
    intro hm
    rcases Source.mem_prepare hm with he | ⟨_, _, he⟩ <;> cases he
  cases h with
  | refused f => exact ⟨nofun, nofun, nofun, nofun, nofun⟩
  | stopped hsteps houtcome =>
    exact ⟨fun _ => hopened, fun _ => htaken hsteps, nofun, nofun, fun _ _ _ hm =>
      (hanswered hm).elim⟩
  | @returned steps handle hcallback hsteps houtcome =>
    refine ⟨fun _ => hopened, fun _ => htaken hsteps, ?_, ?_, fun _ _ _ hm => (hanswered hm).elim⟩
    · rintro _ ⟨rfl⟩
      exact ⟨source.opened_mem_prepare _ _, nofun⟩
    · rintro _ ⟨rfl⟩
      exact ⟨steps, houtcome⟩
  | @executed steps handle hcallback hsteps houtcome =>
    have hquiet {e : Event R} (he : e.isConfiguring = true)
        (hm : e ∈ (source.prepare (.findOne predicate) steps).events
          ++ (source.exec callback handle).events) :
        e ∈ (source.prepare (.findOne predicate) steps).events := by
      refine (List.mem_append.mp hm).resolve_right fun hexec => ?_
      simp [source.isConfiguring_exec e hexec] at he
    refine ⟨fun _ hm => hopened (hquiet rfl hm), fun _ hm => htaken hsteps (hquiet rfl hm), ?_, ?_,
      ?_⟩
    · intro reply hreply
      obtain ⟨_, -, rfl⟩ := map_eq_ok_iff.mp hreply
      exact ⟨List.mem_append_left _ (source.opened_mem_prepare _ _), nofun⟩
    · intro _ hreply
      obtain ⟨_, -, he⟩ := map_eq_ok_iff.mp hreply
      cases he
    · intro number f r hm
      have hexec := (List.mem_append.mp hm).resolve_left hanswered
      exact ⟨steps, handle, houtcome, Source.answered_mem_exec hcallback hexec⟩

/-- `IsForDocument` does not see messages: they may come before the calls. -/
theorem IsForDocument.after {source : Source H R} {predicate : Value} {events : List (Event R)}
    {outcome : Except Fault (Reply H R)} (h : IsForDocument source predicate events outcome)
    (notices : List Notice) :
    IsForDocument source predicate (notices.map .notice ++ events) outcome where
  opened o hm := h.opened o (by simpa using hm)
  taken s hm := h.taken s (by simpa using hm)
  returned reply hreply :=
    ⟨List.mem_append_right _ (h.returned reply hreply).1, (h.returned reply hreply).2⟩
  handle := h.handle
  answered number f r hm := h.answered number f r (by simpa using hm)

namespace Store.Documents

variable {session : Option Session} {model : Model} {predicate : Value} {steps : List Step}
  {d : Documents}

theorem prepare_single
    (h : ((source session model).prepare (.findOne predicate) steps).outcome = .ok d) :
    d.single = true := by
  unfold Source.prepare at h
  split at h
  · cases h
  · rename_i found hfound
    obtain ⟨_, -, rfl⟩ := find_eq_ok hfound
    exact (configureAll_sameRows h).single

theorem execute_single {awaited : Bool} {result : Result} (hsingle : d.single = true)
    (h : (d.execute awaited).2 = .ok result) : ∃ document, result = .single document := by
  rw [execute_snd] at h
  unfold run at h
  split at h
  · cases h
  · split at h
    · cases h
    · obtain ⟨document, -, rfl⟩ := map_eq_ok_iff.mp h
      exact ⟨document, rfl⟩

end Store.Documents

namespace Query

variable {identifier conditions callback extra : Value} {q : Query}

/-- How a call with an identifier goes on a query. -/
structure GoesByIdentifier (watched : Bool) (source : Source H R)
    (identifier conditions callback extra : Value) (q : Query) (events : List (Event R))
    (outcome : Except Fault (Reply H R)) : Prop where
  /-- An identifier that counts for something asks for a document. -/
  document : identifier.isFalsy = false →
    IsForDocument source (predicateOf ((entriesOf conditions).getD []) identifier) events outcome
  /-- Another one asks for a collection. -/
  collection : identifier.isFalsy = true →
    events = (q.run watched source (.many conditions callback extra)).events ∧
      outcome = (q.run watched source (.many conditions callback extra)).outcome

theorem run_goesByIdentifier (watched : Bool) (source : Source H R)
    (identifier conditions callback extra : Value) (q : Query) :
    GoesByIdentifier watched source identifier conditions callback extra q
      (q.run watched source (.one identifier conditions callback extra)).events
      (q.run watched source (.one identifier conditions callback extra)).outcome where
  document hi := by
    obtain ⟨notices, events, hevents, hone⟩ :=
      load_loadsOne source watched hi conditions callback extra q
    have hfor := hone.isForDocument.after notices
    rw [← hevents] at hfor
    exact hfor
  collection hi := by
    have hload := load_falsy source watched hi conditions callback extra q
    exact ⟨congrArg Act.events hload, congrArg Act.outcome hload⟩

/-- Calls for a single document: on a query with any settings, on a new query with settings of the
call, and on a class of models, which gives a single document or none. -/
theorem enter_document (watched : Bool) {arguments : Arguments} :
    (∀ {H R : Type} (source : Source H R) (q : Query),
      Entry.filterOne.loading arguments = .ok (.one identifier conditions callback extra) →
      GoesByIdentifier watched source identifier conditions callback extra q
        (q.enter watched source .filterOne arguments).events
        (q.enter watched source .filterOne arguments).outcome) ∧
    (∀ {H R : Type} (source : Source H R) (library : Library) (model : String) (settings : Value)
      (q : Query), Entry.filterOne.loadingWithSettings arguments
        = .ok (.one identifier conditions callback extra, settings) →
      Query.new library model settings = .ok q →
      GoesByIdentifier watched source identifier conditions callback extra q
        (enterNew watched library model source .filterOne arguments).events
        (enterNew watched library model source .filterOne arguments).outcome) ∧
    ∀ (library : Library) (c : Store.ModelClass) (r : Store.Registry) (q : Query),
      Entry.filterOne.loading arguments = .ok (.one identifier conditions callback extra) →
      (r.query library c.name).2 = .ok q →
      GoesByIdentifier watched (r.sourceOf c) identifier conditions callback extra q
        (r.enter watched library c .filterOne arguments).events
        (r.enter watched library c .filterOne arguments).outcome ∧
      (identifier.isFalsy = false →
        (∀ d awaited result,
          (r.enter watched library c .filterOne arguments).outcome = .ok (.handle d) →
          (d.execute awaited).2 = .ok result → ∃ document, result = .single document) ∧
        ∀ number f result,
          .answered number f (some result)
            ∈ (r.enter watched library c .filterOne arguments).events →
          ∃ document, result = .single document) := by
  have hentered : ∀ {H R : Type} (source : Source H R) (q : Query),
      Entry.filterOne.loading arguments = .ok (.one identifier conditions callback extra) →
      GoesByIdentifier watched source identifier conditions callback extra q
        (q.enter watched source .filterOne arguments).events
        (q.enter watched source .filterOne arguments).outcome := by
    intro H R source q hloading
    unfold enter
    rw [hloading]
    exact run_goesByIdentifier watched source identifier conditions callback extra q
  refine ⟨hentered, ?_, ?_⟩
  · intro H R source library model settings q hloading hnew
    unfold enterNew
    rw [hloading]
    dsimp only
    rw [hnew]
    exact run_goesByIdentifier watched source identifier conditions callback extra q
  · intro library c r q hloading hquery
    have hgoes : GoesByIdentifier watched (r.sourceOf c) identifier conditions callback extra q
        (r.enter watched library c .filterOne arguments).events
        (r.enter watched library c .filterOne arguments).outcome := by
      obtain ⟨hevents, houtcome⟩ :=
        Store.Registry.enter_eq watched hquery .filterOne arguments
      rw [hevents, houtcome]
      exact hentered (r.sourceOf c) q hloading
    refine ⟨hgoes, fun hi => ⟨?_, ?_⟩⟩
    · intro d awaited result hhandle hexecute
      obtain ⟨steps, hprepare⟩ := (hgoes.document hi).handle d hhandle
      exact Store.Documents.execute_single (Store.Documents.prepare_single hprepare) hexecute
    · intro number f result hanswered
      obtain ⟨steps, d, hprepare, hexecute⟩ :=
        (hgoes.document hi).answered number f result hanswered
      exact Store.Documents.execute_single (Store.Documents.prepare_single hprepare) hexecute

def teamClass : Store.ModelClass := ⟨"Team", ["Team", Sample.baseName], Sample.teamModel⟩

/-- A call for the name of a team, with a page that does not apply. -/
def nameOfBeta : Arguments :=
  ⟨[.int 2,
    .dict [(.text "fields", .text "name"), (.text "pagination", .dict [(.text "size", .int 5)])]],
    []⟩

/-- The handle for it gives the team. -/
theorem nameOfBeta_document :
    ∃ d result,
      (Sample.registry.enter false Sample.library teamClass .filterOne nameOfBeta).outcome
        = .ok (.handle d) ∧
      IsForDocument (Sample.registry.sourceOf teamClass) (single "_id" (.int 2))
        (Sample.registry.enter false Sample.library teamClass .filterOne nameOfBeta).events
        (Sample.registry.enter false Sample.library teamClass .filterOne nameOfBeta).outcome ∧
      (Sample.registry.enter false Sample.library teamClass .filterOne nameOfBeta).events =
        [.opened (.findOne (single "_id" (.int 2))), .taken (.select "name")] ∧
      (d.execute false).2 = .ok result ∧ (∃ document, result = .single document) ∧
      result = .single (some ⟨[("id", .int 2), ("name", .text "Beta")], []⟩) := by
  have hloading : Entry.filterOne.loading nameOfBeta = .ok (.one (.int 2)
      (.dict [(.text "fields", .text "name"),
        (.text "pagination", .dict [(.text "size", .int 5)])]) .null .null) := rfl
  have habsent : Sample.registry.templates.lookup teamClass.name = none := rfl
  have hquery := Store.Registry.query_of_absent habsent (new_null Sample.library teamClass.name)
  obtain ⟨hgoes, hsingle⟩ := (enter_document false).2.2 Sample.library teamClass Sample.registry _
    hloading hquery
  obtain ⟨hevents, houtcome⟩ := Store.Registry.enter_eq false hquery .filterOne nameOfBeta
  obtain ⟨d, result, hcall, hexecute, hresult⟩ : ∃ d result,
      (Sample.registry.enter false Sample.library teamClass .filterOne nameOfBeta).outcome
        = .ok (.handle d) ∧
      (d.execute false).2 = .ok result ∧
      result = .single (some ⟨[("id", .int 2), ("name", .text "Beta")], []⟩) :=
    ⟨_, _, houtcome.trans rfl, rfl, rfl⟩
  exact ⟨d, result, hcall, hgoes.document rfl, hevents.trans rfl, hexecute,
    (hsingle rfl).1 d false result hcall hexecute, hresult⟩

/-- A call for a single document with an empty text as its identifier asks for the first thirty. -/
theorem emptyIdentifier_collection :
    ∃ q, Query.new Sample.library "Person" .null = .ok q ∧
      Entry.filterOne.loading ⟨[.text ""], []⟩ = .ok (.one (.text "") .null .null .null) ∧
      (q.enter false (Sample.recording none .null) .filterOne ⟨[.text ""], []⟩).events =
        [.opened (.find none), .taken (.limit (.int 30)), .taken (.skip (.int 0))] :=
  ⟨_, new_null _ _, rfl, rfl⟩

end Query
end QueryOptions
