import QueryOptions.Proofs.Acceptance
import QueryOptions.Proofs.Conduct
import QueryOptions.Proofs.Validation

/-!
# QueryOptions.Proofs.Watching

Watching changes nothing. Whoever watches is told what options come to as soon as they have been
read, so a query is compiled once more and earlier than it would be. If that fails, the options are
refused at once, and nobody has been asked anything yet. Without a watcher they are accepted, but
the first thing that is done with them is to compile them, which fails in the same way. Between the
two places nothing happens that anybody sees (`Foresees`).

* `finish_foresees`, `take_foresees`: options that are taken;
* `load_watched`, `run_watched`: conditions, an identifier, a callback and extra fields;
* `enter_watched`: the calls themselves, on a query, on a new one and on a class.
-/

namespace QueryOptions

variable {H R : Type} {σ α : Type}

/-! ## Calls and messages -/

/-- Two actions that may differ in their messages. -/
structure Act.SameCalls (a b : Act (Event R) σ α) : Prop where
  calls : a.calls = b.calls
  state : a.state = b.state
  outcome : a.outcome = b.outcome

theorem Act.SameCalls.refl (a : Act (Event R) σ α) : a.SameCalls a := ⟨rfl, rfl, rfl⟩

/-- Messages are no calls; what is done after them is. -/
theorem Act.calls_after_notices (notices : List Notice) (a : Act (Event R) σ α) :
    calls ⟨notices.map .notice ++ a.events, a.state, a.outcome⟩ = a.calls := by
  unfold calls
  rw [List.filter_append, filter_notices, List.nil_append]

namespace Query

/-! ## Refused early -/

/-- Options that are taken in two ways, which come to the same query. It is refused in the first way
only if it is refused in the second way, too, or if it cannot be compiled and would be refused for
that later. -/
structure Foresees (a b : Act Notice Query Unit) : Prop where
  state : a.state = b.state
  outcome : a.outcome = b.outcome ∨
    ∃ f, a.outcome = .error f ∧ b.outcome = .ok () ∧ b.state.compile = .error f

variable {q : Query}

/-- `compiledNotice` fails only with what `compile` fails with. -/
theorem compiledNotice_error {f : Fault} (h : q.compiledNotice = .error f) :
    q.compile = .error f := by
  unfold compiledNotice at h
  cases hc : q.compile with
  | error g =>
    rw [hc] at h
    cases h
    rfl
  | ok compiled =>
    obtain ⟨text, ht⟩ := written_ok compiled
    simp [hc, ht, Except.map] at h

theorem finish_foresees (q : Query) : Foresees (q.finish true) (q.finish false) := by
  refine ⟨(finish_state true q).trans (finish_state false q).symm, ?_⟩
  dsimp only [finish]
  cases hn : ({ q with isReady := true } : Query).compiledNotice with
  | ok notice => exact .inl rfl
  | error f => exact .inr ⟨f, rfl, rfl, compiledNotice_error hn⟩

/-- `Foresees` is kept when the same action is done before both: each step of `take` but `finish` is
the same, watched or not. -/
theorem Foresees.after {first second : Query → Act Notice Query Unit} (a : Act Notice Query Unit)
    (h : ∀ q, Foresees (first q) (second q)) :
    Foresees (a.andThen fun q _ => first q) (a.andThen fun q _ => second q) := by
  obtain ⟨events, s, outcome⟩ := a
  cases outcome with
  | error f => exact ⟨rfl, .inl rfl⟩
  | ok _ => exact ⟨(h s).state, (h s).outcome⟩

theorem take_foresees (options identifier : Value) (q : Query) :
    Foresees (q.take true options identifier) (q.take false options identifier) := by
  cases ho : entriesOf options with
  | none =>
    rw [take_of_none ho, take_of_none ho]
    exact ⟨rfl, .inl rfl⟩
  | some entries =>
    rw [take_of_some ho, take_of_some ho]
    cases unknownOptions entries with
    | nil => exact .after _ finish_foresees
    | cons name more => exact ⟨rfl, .inl rfl⟩

/-- A field that is named by a number is refused at once if anybody watches. -/
example :
    ∃ q, Query.new Sample.library "Person" .null = .ok q ∧
      (q.take true (.dict [(.text "fields", .list [.int 1])]) .null).outcome = .error .mismatch ∧
      (q.take false (.dict [(.text "fields", .list [.int 1])]) .null).outcome = .ok () :=
  ⟨_, new_null _ _, rfl, rfl⟩

/-! ## Calls that do everything at once -/

/-- A query that cannot be compiled is refused before anything else is done. -/
theorem proceed_error (source : Source H R) (callback : Value) {f : Fault}
    (h : q.compile = .error f) : q.proceed source callback = .done q (.error f) := by
  unfold proceed exec
  rw [handle_eq_error source h]
  cases callback.isNull <;> rfl

/-- `proceed` makes the same calls after both, whatever messages there are. -/
theorem Foresees.proceed {a b : Act Notice Query Unit} (h : Foresees a b) (source : Source H R)
    (callback : Value) :
    ((a.mapEvents .notice).andThen fun q _ => q.proceed source callback).SameCalls
      ((b.mapEvents .notice).andThen fun q _ => q.proceed source callback) := by
  obtain ⟨notices, s, outcome⟩ := a
  obtain ⟨others, t, second⟩ := b
  obtain ⟨hstate, houtcome⟩ := h
  dsimp only at hstate houtcome
  subst hstate
  rcases houtcome with heq | ⟨f, hf, hok, hc⟩
  · subst heq
    cases outcome with
    | error f => exact ⟨(filter_notices notices).trans (filter_notices others).symm, rfl, rfl⟩
    | ok _ =>
      exact ⟨(Act.calls_after_notices notices _).trans (Act.calls_after_notices others _).symm,
        rfl, rfl⟩
  · -- the options that have been accepted end here, and with the same fault
    cases hf
    cases hok
    change Act.SameCalls ⟨notices.map .notice, s, .error f⟩
      ⟨others.map .notice ++ (s.proceed source callback).events,
        (s.proceed source callback).state, (s.proceed source callback).outcome⟩
    rw [proceed_error source callback hc]
    exact ⟨(filter_notices notices).trans
      (Act.calls_after_notices others (.done s (.error f))).symm, rfl, rfl⟩

theorem load_watched (source : Source H R) (conditions identifier callback extra : Value)
    (q : Query) :
    (q.load true source conditions identifier callback extra).SameCalls
      (q.load false source conditions identifier callback extra) := by
  cases hconditions : entriesOf conditions with
  | none =>
    rw [load_of_none hconditions, load_of_none hconditions]
    exact .refl _
  | some options =>
    rw [load_of_some hconditions, load_of_some hconditions]
    exact (take_foresees (.dict (withExtra options extra)) identifier q).proceed source callback

theorem run_watched (source : Source H R) (loading : Loading) (q : Query) :
    (q.run true source loading).SameCalls (q.run false source loading) := by
  rcases run_loads (H := H) (R := R) loading with ⟨f, hrun⟩ | ⟨_, _, _, _, hrun⟩
  · rw [hrun, hrun]
    exact .refl _
  · rw [hrun, hrun]
    exact load_watched source _ _ _ _ q

/-- A call with any arguments, on a query with any settings and any past, on a new query with the
settings among the arguments, or on a class that may have been set up. Whether anybody watches or
not, the same is asked of the model, the callback is told the same, the query and the classes are
left the same, and the same is given back or refused. -/
theorem enter_watched (e : Entry) (arguments : Arguments) :
    (∀ (source : Source H R) (q : Query),
      (q.enter true source e arguments).SameCalls (q.enter false source e arguments)) ∧
    (∀ (source : Source H R) (library : Library) (model : String),
      (enterNew true library model source e arguments).SameCalls
        (enterNew false library model source e arguments)) ∧
    ∀ (library : Library) (c : Store.ModelClass) (r : Store.Registry),
      (r.enter true library c e arguments).SameCalls (r.enter false library c e arguments) := by
  refine ⟨fun source q => ?_, fun source library model => ?_, fun library c r => ?_⟩
  · unfold enter
    cases e.loading arguments with
    | error f => exact .refl _
    | ok loading => exact run_watched source loading q
  · unfold enterNew
    cases e.loadingWithSettings arguments with
    | error f => exact .refl _
    | ok m =>
      obtain ⟨loading, settings⟩ := m
      dsimp only
      cases Query.new library model settings with
      | error f => exact .refl _
      | ok q =>
        have hrun := run_watched source loading q
        exact ⟨hrun.calls, rfl, hrun.outcome⟩
  · unfold Store.Registry.enter
    cases e.loading arguments with
    | error f => exact .refl _
    | ok loading =>
      dsimp only
      obtain ⟨kept, made⟩ := r.ready library c.name
      cases made with
      | error f => exact .refl _
      | ok j =>
        dsimp only
        cases hread : kept.memory.read j with
        | none =>
          unfold Memory.use
          rw [hread]
          exact .refl _
        | some q =>
          have hrun := run_watched (kept.sourceOf c) loading q
          rw [Memory.use_of_read hread, Memory.use_of_read hread, hrun.state]
          exact ⟨hrun.calls, rfl, hrun.outcome⟩

end Query
end QueryOptions
