import QueryOptions.Query
import QueryOptions.Sample.Operators
import QueryOptions.Sample.Recording

/-!
# QueryOptions.Proofs.Calls

The calls that configure a handle, read off a compiled query. `Query.compile` and `Query.steps` go
through the sections separately, with tests of their own for what is empty and for what applies to a
single document. They agree: what is asked of a model depends on the compiled query alone.

* `compile_collection`, `compile_document`: what compiling takes from the sections;
* `plan_of_compile`: the plan of a query is the one that its compiled query gives;
* `Source.prepare_prefix`, `Source.prepare_of_ok`, `Source.Accepts.prepare`: a model is asked for
  the steps of a plan in their order, and for nothing after the first one that it refuses.
-/

namespace QueryOptions

/-! ## Calls of a compiled query -/

/-- The fields of a relation with blanks between them; none if there are no fields. -/
def Relation.joinedFields (r : Relation) : Option String :=
  (r.fields.filter fun names => !names.isEmpty).map Text.unwords

namespace CompiledQuery

def opening (c : CompiledQuery) : Opening :=
  if c.isCollection then
    match c.predicate with
    | .null => .find none
    | predicate => .find (some predicate)
  else .findOne c.predicate

/-- The columns to load, unless all of them are. -/
def selection (c : CompiledQuery) : List Step :=
  if c.projection = "" then [] else [.select c.projection]

def populations (c : CompiledQuery) : List Step :=
  c.relations.map fun r => .populate r.name r.joinedFields

/-- The order and the page of a collection. -/
def arrangement (c : CompiledQuery) : List Step :=
  if c.isCollection then c.sort.toList.map .sort ++ [.limit c.limit, .skip c.skip] else []

/-- The steps that configure the handle. -/
def steps (c : CompiledQuery) : List Step := c.selection ++ c.populations ++ c.arrangement

/-- Everything that is asked of the model before the handle is executed. -/
def calls {R : Type} (c : CompiledQuery) : List (Event R) := .opened c.opening :: c.steps.map .taken

end CompiledQuery

theorem Relation.step_eq (r : Relation) : r.step = .populate r.name r.joinedFields := by
  obtain ⟨name, fields⟩ := r
  rcases fields with _ | _ | ⟨field, more⟩ <;> rfl

theorem Embed.steps_eq (s : Embed) :
    s.steps = s.compile.map fun r => .populate r.name r.joinedFields :=
  List.map_congr_left fun r _ => r.step_eq

/-! ## Compiling -/

namespace Query

theorem new_null (library : Library) (model : String) :
    new library model .null = .ok
      { model
        keeper :=
          { settings := []
            asked := ["pagination", "filters", "sort", "embed", "fields"]
            known := ["default_page", "default_size", "max_size", "operators", "force_include"] }
        fields := { settings := [] }
        embed := .new
        sorting := .new
        filters := { settings := ⟨library, []⟩ }
        pagination := { settings := {} } } := rfl

variable {q : Query} {compiled : CompiledQuery}

/-- What a query for a collection is compiled to. -/
theorem compile_collection (hc : q.isCollection = true) (h : q.compile = .ok compiled) :
    ∃ criteria projection, q.filters.compile = .ok criteria ∧ q.fields.compile = .ok projection ∧
      compiled =
        { predicate := if criteria.isEmpty then .null else .dict criteria
          projection
          relations := q.embed.compile
          sort := q.sorting.compile
          limit := q.pagination.page.limit
          skip := q.pagination.page.skip } := by
  unfold compile at h
  rw [hc] at h
  split at h
  · cases h
  · simp only [if_true] at h
    split at h
    · cases h
    · rename_i criteria hf
      split at h
      · cases h
      · rename_i projection hp
        cases h
        exact ⟨criteria, projection, hf, hp, rfl⟩

/-- What a query for a single document is compiled to. -/
theorem compile_document (hc : q.isCollection = false) (h : q.compile = .ok compiled) :
    ∃ projection, q.fields.compile = .ok projection ∧
      compiled =
        { identifier := q.identifier
          predicate := q.lookup.orElse (single "_id" q.identifier)
          projection
          relations := q.embed.compile } := by
  unfold compile at h
  rw [hc] at h
  split at h
  · cases h
  · simp only [Bool.false_eq_true, if_false] at h
    split at h
    · cases h
    · rename_i projection hp
      cases h
      exact ⟨projection, hp, rfl⟩

theorem isCollection_of_compile (h : q.compile = .ok compiled) :
    compiled.isCollection = q.isCollection := by
  cases hc : q.isCollection with
  | true =>
    obtain ⟨_, _, _, _, rfl⟩ := compile_collection hc h
    rfl
  | false =>
    obtain ⟨_, _, rfl⟩ := compile_document hc h
    exact hc

/-! ## The plan -/

theorem openingOf_eq (h : q.compile = .ok compiled) : openingOf compiled = compiled.opening := by
  have hi := isCollection_of_compile h
  cases hc : q.isCollection with
  | true =>
    obtain ⟨criteria, _, _, _, rfl⟩ := compile_collection hc h
    cases criteria <;> rfl
  | false =>
    rw [hc] at hi
    simp [openingOf, CompiledQuery.opening, hi]

theorem steps_of_compile (h : q.compile = .ok compiled) : q.steps = .ok compiled.steps := by
  have hi := isCollection_of_compile h
  unfold steps Fields.steps CompiledQuery.steps CompiledQuery.arrangement
  cases hc : q.isCollection with
  | true =>
    rw [hc] at hi
    obtain ⟨criteria, projection, -, hp, rfl⟩ := compile_collection hc h
    have hs : q.sorting.steps = q.sorting.compile.toList.map Step.sort := by
      unfold Sorting.steps
      cases q.sorting.compile <;> rfl
    simp only [hp, hi, hs, Embed.steps_eq, Except.map, if_true, List.append_assoc]
    rfl
  | false =>
    rw [hc] at hi
    obtain ⟨projection, hp, rfl⟩ := compile_document hc h
    simp only [hp, hi, Embed.steps_eq, Except.map, Bool.false_eq_true, if_false, List.append_nil]
    rfl

/-- What is asked of the model depends on the compiled query alone. -/
theorem plan_of_compile (h : q.compile = .ok compiled) :
    q.plan = .ok (compiled.opening, compiled.steps) := by
  unfold plan
  rw [h, steps_of_compile h]
  show Except.ok (openingOf compiled, compiled.steps) = _
  rw [openingOf_eq h]

end Query

/-! ## Models -/

namespace Source

variable {H R : Type} {source : Source H R}

/-- The model gives a handle whenever it is asked for one, and its handles take every step. -/
structure Accepts (source : Source H R) : Prop where
  acquires : ∀ opening, ∃ handle, source.acquire opening = .ok handle
  configures : ∀ step handle, ∃ configured, source.configure step handle = .ok configured

theorem configureAll_prefix (source : Source H R) (steps : List Step) (handle : H) :
    (source.configureAll steps handle).events <+: steps.map .taken := by
  induction steps generalizing handle with
  | nil => exact List.prefix_refl []
  | cons s rest ih =>
    unfold configureAll
    split
    · exact ⟨rest.map .taken, rfl⟩
    · rename_i configured _
      exact List.cons_prefix_cons.mpr ⟨rfl, ih configured⟩

theorem configureAll_of_ok {steps : List Step} {handle configured : H}
    (h : (source.configureAll steps handle).outcome = .ok configured) :
    (source.configureAll steps handle).events = steps.map .taken := by
  induction steps generalizing handle with
  | nil => rfl
  | cons s rest ih =>
    unfold configureAll at h ⊢
    split at h
    · cases h
    · rename_i next _
      show .taken s :: (source.configureAll rest next).events = _
      rw [ih h]
      rfl

theorem Accepts.configureAll (ha : source.Accepts) (steps : List Step) (handle : H) :
    ∃ configured, (source.configureAll steps handle).outcome = .ok configured := by
  induction steps generalizing handle with
  | nil => exact ⟨handle, rfl⟩
  | cons s rest ih =>
    obtain ⟨next, hn⟩ := ha.configures s handle
    obtain ⟨configured, hr⟩ := ih next
    refine ⟨configured, ?_⟩
    unfold Source.configureAll
    rw [hn]
    exact hr

/-- A model may refuse a step; nothing is asked of it after that. -/
theorem prepare_prefix (source : Source H R) (opening : Opening) (steps : List Step) :
    (source.prepare opening steps).events <+: .opened opening :: steps.map .taken := by
  unfold prepare
  split
  · exact ⟨steps.map .taken, rfl⟩
  · rename_i handle _
    exact List.cons_prefix_cons.mpr ⟨rfl, configureAll_prefix source steps handle⟩

/-- A model that refuses nothing is asked for every step. -/
theorem prepare_of_ok {opening : Opening} {steps : List Step} {handle : H}
    (h : (source.prepare opening steps).outcome = .ok handle) :
    (source.prepare opening steps).events = .opened opening :: steps.map .taken := by
  unfold prepare at h ⊢
  split at h
  · cases h
  · rename_i first _
    show .opened opening :: (source.configureAll steps first).events = _
    rw [configureAll_of_ok h]

theorem Accepts.prepare (ha : source.Accepts) (opening : Opening) (steps : List Step) :
    ∃ handle, (source.prepare opening steps).outcome = .ok handle := by
  obtain ⟨first, hf⟩ := ha.acquires opening
  obtain ⟨handle, hh⟩ := ha.configureAll steps first
  refine ⟨handle, ?_⟩
  unfold Source.prepare
  rw [hf]
  exact hh

end Source

theorem Sample.accepts_recording (failure : Option String) (result : Value) :
    (Sample.recording failure result).Accepts :=
  ⟨fun _ => ⟨(), rfl⟩, fun _ _ => ⟨(), rfl⟩⟩

namespace Query

variable {H R : Type}

theorem handle_eq_prepare (source : Source H R) {q : Query} {compiled : CompiledQuery}
    (h : q.compile = .ok compiled) :
    q.handle source = source.prepare compiled.opening compiled.steps := by
  unfold handle
  rw [plan_of_compile h]

theorem handle_eq_error (source : Source H R) {q : Query} {f : Fault} (h : q.compile = .error f) :
    q.handle source = .done () (.error f) := by
  unfold handle plan
  rw [h]

/-- A handle is got by the plan of the compiled query. -/
theorem handle_of_ok {source : Source H R} {q : Query} {handle : H}
    (h : (q.handle source).outcome = .ok handle) :
    ∃ compiled, q.compile = .ok compiled ∧
      (source.prepare compiled.opening compiled.steps).outcome = .ok handle := by
  cases hc : q.compile with
  | error f =>
    rw [handle_eq_error source hc] at h
    cases h
  | ok compiled =>
    rw [handle_eq_prepare source hc] at h
    exact ⟨compiled, rfl, h⟩

/-- The calls that configure a handle are those of the compiled query, in their order and without
any other, up to the first one that the model refuses. -/
theorem handle_calls (source : Source H R) {q : Query} {compiled : CompiledQuery}
    (h : q.compile = .ok compiled) :
    (q.handle source).events <+: compiled.calls ∧
      (∀ handle, (q.handle source).outcome = .ok handle →
        (q.handle source).events = compiled.calls) ∧
      (source.Accepts → ∃ handle, (q.handle source).outcome = .ok handle) := by
  rw [handle_eq_prepare source h]
  exact ⟨source.prepare_prefix _ _, fun handle hh => Source.prepare_of_ok hh,
    fun ha => ha.prepare _ _⟩

def fullOptions : Value :=
  .dict
    [(.text "filters", .list
        [.dict [(.text "key", .text "age"), (.text "operator", .text ">="),
          (.text "value", .int 18)]]),
      (.text "fields", .text "name age"),
      (.text "embed", .list [.text "team.name", .text "tags", .text "team.city"]),
      (.text "sort", .list [.text "-age", .text "name"]),
      (.text "pagination", .dict [(.text "page", .int 3), (.text "size", .int 10)])]

/-- Every section has its calls. -/
theorem fullOptions_calls :
    ∃ (q new : Query) (compiled : CompiledQuery),
      Query.new Sample.library "Person" .null = .ok new ∧
      new.take false fullOptions .null = .done q (.ok ()) ∧ q.compile = .ok compiled ∧
      (q.handle (Sample.recording none .null)).events = compiled.calls ∧
      (compiled.calls : List (Event Value)) =
        [.opened (.find (some (.dict [(.text "age", single "$gte" (.int 18))]))),
          .taken (.select "name age"), .taken (.populate "team" (some "name city")),
          .taken (.populate "tags" none), .taken (.sort [("age", -1), ("name", 1)]),
          .taken (.limit (.int 10)), .taken (.skip (.int 20))] := by
  have hcalls {q : Query} {compiled : CompiledQuery} (h : q.compile = .ok compiled) :
      (q.handle (Sample.recording none .null)).events = compiled.calls := by
    obtain ⟨-, hall, haccepts⟩ := handle_calls (Sample.recording none .null) h
    obtain ⟨handle, hh⟩ := haccepts (Sample.accepts_recording none .null)
    exact hall handle hh
  exact ⟨_, _, _, new_null _ _, rfl, rfl, hcalls rfl, rfl⟩

end Query
end QueryOptions
