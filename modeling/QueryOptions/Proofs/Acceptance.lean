import QueryOptions.Proofs.Copies
import QueryOptions.Proofs.Setup
import QueryOptions.Store.Registry

/-!
# QueryOptions.Proofs.Acceptance

What it means that options are accepted. A query that has taken options for a collection holds, in
each of its sections, the reading of the input that the options give the section, and nothing else
of it has changed (`take_collection`).

* `Section.receive_ok`: a section that accepts its input has not been given one before;
* `giveFilters_ok`, `giveFields_ok`, `giveEmbed_ok`, `giveSort_ok`, `givePagination_ok`: one
  section;
* `take_ok`, `giveSections_ok`: options of any shape;
* `shadowed_of_new`: a new query has no operators in place of built-in ones;
* `load_of_none`, `load_of_some`, `run_loads`: what a call does first with its arguments;
* `Store.Registry.query_configure`, `Store.Registry.query_of_absent`: the query of a class;
* `Store.Registry.enter_eq`: a call on a class goes as it does on the query of the class;
* `Store.Registry.enter_ok`: a call on a class that gives a handle back has taken its options.
-/

namespace QueryOptions

namespace Section

variable {π ρ : Type}

def filled (s : Section π ρ) (v : Value) (kept : Option ρ) : Section π ρ :=
  { s with received := some v, reading := kept }

theorem receive_ok {reader : String} {look : π → Value → Attempt ρ} {v : Value} {s : Section π ρ}
    (h : (s.receive reader look v).2 = .ok ()) :
    (look s.settings v).refusal = none ∧
      (s.receive reader look v).1 = s.filled v (look s.settings v).kept := by
  unfold receive at h ⊢
  split at h
  · cases h
  · dsimp only at h
    split at h
    · cases h
    · rename_i hr
      exact ⟨hr, rfl⟩

/-- `receive` of a section that reads by `ofExcept`: an input is accepted just with a reading, and
the section is `filled` with both. -/
theorem receive_ofExcept_ok {reader : String} {read : π → Value → Except Fault ρ} {v : Value}
    {s : Section π ρ}
    (h : (s.receive reader (fun settings w => .ofExcept (read settings w)) v).2 = .ok ()) :
    ∃ r, read s.settings v = .ok r ∧
      (s.receive reader (fun settings w => .ofExcept (read settings w)) v).1
        = s.filled v (some r) := by
  obtain ⟨hr, hs⟩ := receive_ok h
  cases hv : read s.settings v with
  | error f => simp [hv, Attempt.ofExcept] at hr
  | ok r => exact ⟨r, rfl, by rw [hs, hv]; rfl⟩

end Section

namespace Query

variable {options : Dict} {q : Query}

/-! ## Sections -/

theorem giveFilters_ok (h : (q.giveFilters options).outcome = .ok ()) :
    ∃ es, Filters.read q.filters.settings (options.get SectionName.filters.text) = .ok es ∧
      (q.giveFilters options).state =
        { q with
            filters := q.filters.filled (options.get SectionName.filters.text) (some es) } := by
  unfold giveFilters at h ⊢
  dsimp only at h ⊢
  split at h
  · cases h
  · obtain ⟨es, hr, hs⟩ := Section.receive_ofExcept_ok h
    exact ⟨es, hr, congrArg (fun filters => { q with filters }) hs⟩

theorem giveFields_ok (h : (q.giveFields options).outcome = .ok ()) :
    ∃ names,
      Fields.read q.fields.settings (options.get SectionName.fields.text) (extraFields options)
        = .ok names ∧
      (q.giveFields options).state =
        { q with
            fields := q.fields.filled (options.get SectionName.fields.text) (some names) } := by
  unfold giveFields at h ⊢
  dsimp only at h ⊢
  split at h
  · cases h
  · obtain ⟨names, hr, hs⟩ := Section.receive_ofExcept_ok h
    exact ⟨names, hr, congrArg (fun fields => { q with fields }) hs⟩

theorem giveEmbed_ok (h : (q.giveEmbed options).outcome = .ok ()) :
    ∃ relations, Embed.read (options.get SectionName.embed.text) = .ok relations ∧
      (q.giveEmbed options).state =
        { q with
            embed := q.embed.filled (options.get SectionName.embed.text) (some relations) } := by
  unfold giveEmbed at h ⊢
  dsimp only at h ⊢
  split at h
  · cases h
  · obtain ⟨relations, hr, hs⟩ := Section.receive_ofExcept_ok h
    exact ⟨relations, hr, congrArg (fun embed => { q with embed }) hs⟩

theorem giveSort_ok (h : (q.giveSort options).outcome = .ok ()) :
    ∃ spec, (Sorting.read (options.get SectionName.sort.text)).2 = .ok spec ∧
      (q.giveSort options).state =
        { q with
            sorting := q.sorting.filled (options.get SectionName.sort.text) (some spec) } := by
  unfold giveSort at h ⊢
  dsimp only at h ⊢
  split at h
  · cases h
  · obtain ⟨spec, hr, hs⟩ := Section.receive_ofExcept_ok h
    exact ⟨spec, hr, congrArg (fun sorting => { q with sorting }) hs⟩

theorem givePagination_ok (h : (q.givePagination options).outcome = .ok ()) :
    let a := Pagination.look q.pagination.settings (options.get SectionName.pagination.text)
    a.refusal = none ∧
      (q.givePagination options).state =
        { q with
            pagination :=
              q.pagination.filled (options.get SectionName.pagination.text) a.kept } := by
  unfold givePagination at h ⊢
  dsimp only at h ⊢
  split at h
  · cases h
  · obtain ⟨hr, hs⟩ := Section.receive_ok h
    exact ⟨hr, congrArg (fun pagination => { q with pagination }) hs⟩

/-! ## All sections -/

/-- What the sections of a query for a collection read. -/
structure Readings where
  filters : List Expression
  fields : List Value
  embed : List Relation
  sort : Option SortSpec
  page : Option Page

/-- The readings are those of options. -/
structure Readings.AreOf (x : Readings) (options : Dict) (q : Query) : Prop where
  filters : Filters.read q.filters.settings (options.get SectionName.filters.text) = .ok x.filters
  fields : Fields.read q.fields.settings (options.get SectionName.fields.text) (extraFields options)
    = .ok x.fields
  embed : Embed.read (options.get SectionName.embed.text) = .ok x.embed
  sort : (Sorting.read (options.get SectionName.sort.text)).2 = .ok x.sort
  page : Pagination.look q.pagination.settings (options.get SectionName.pagination.text)
    = ⟨x.page, none⟩

/-- The query with its sections filled. -/
def withReadings (options : Dict) (x : Readings) (q : Query) : Query :=
  { q with
    filters := q.filters.filled (options.get SectionName.filters.text) (some x.filters)
    fields := q.fields.filled (options.get SectionName.fields.text) (some x.fields)
    embed := q.embed.filled (options.get SectionName.embed.text) (some x.embed)
    sorting := q.sorting.filled (options.get SectionName.sort.text) (some x.sort)
    pagination := q.pagination.filled (options.get SectionName.pagination.text) x.page }

theorem giveSections_collection (hc : q.isCollection = true)
    (h : (q.giveSections options).outcome = .ok ()) :
    ∃ x : Readings, x.AreOf options q ∧
      (q.giveSections options).state = q.withReadings options x := by
  unfold giveSections at h ⊢
  rw [if_pos hc] at h ⊢
  obtain ⟨_, h, h5, s5⟩ := Act.ok_of_andThen h
  obtain ⟨_, h, h4, s4⟩ := Act.ok_of_andThen h
  obtain ⟨_, h, h3, s3⟩ := Act.ok_of_andThen h
  obtain ⟨_, h1, h2, s2⟩ := Act.ok_of_andThen h
  obtain ⟨es, r1, s1⟩ := giveFilters_ok h1
  rw [s1] at s2 h2
  obtain ⟨names, r2, s2'⟩ := giveFields_ok h2
  rw [s2, s2'] at s3 h3
  obtain ⟨relations, r3, s3'⟩ := giveEmbed_ok h3
  rw [s3, s3'] at s4 h4
  obtain ⟨spec, r4, s4'⟩ := giveSort_ok h4
  rw [s4, s4'] at s5 h5
  obtain ⟨r5, s5'⟩ := givePagination_ok h5
  refine ⟨⟨es, names, relations, spec, _⟩, ⟨r1, r2, r3, r4, ?_⟩, s5.trans s5'⟩
  exact congrArg (Attempt.mk _) r5

theorem finish_state (watched : Bool) (q : Query) :
    (q.finish watched).state = { q with isReady := true } := by
  unfold finish
  dsimp only
  split
  · split <;> rfl
  · rfl

/-! ## Options -/

/-- The query, asked for a document or a collection. -/
def aim (options : Dict) (identifier : Value) (q : Query) : Query :=
  { q with lookup := options.get "indifier", identifier := identifier.orElse .null }

/-- The entries of options; options that are null have none. -/
def entriesOf (options : Value) : Option Dict :=
  if options.isNull then some [] else options.dict?

variable {watched : Bool} {v identifier : Value}

theorem take_of_none (h : entriesOf v = none) :
    q.take watched v identifier = .done q (.error (.input (.optionsShape v.kind))) := by
  unfold entriesOf at h
  unfold take
  rw [h]

theorem take_of_some (h : entriesOf v = some options) :
    q.take watched v identifier =
      match unknownOptions options with
      | [] => ((q.aim options identifier).giveSections options).andThen fun q _ => q.finish watched
      | names => .done (q.aim options identifier) (.error (unknownFault names)) := by
  unfold entriesOf at h
  unfold take
  rw [h]
  rfl

/-- A query that has accepted options knows all of them. -/
theorem take_known (hv : entriesOf v = some options)
    (h : (q.take watched v identifier).outcome = .ok ()) : unknownOptions options = [] := by
  rw [take_of_some hv] at h
  split at h
  · assumption
  · cases h

/-- What `take` leaves of a query whose options it accepts: their sections have received them. -/
theorem take_ok (h : (q.take watched v identifier).outcome = .ok ()) :
    ∃ options, entriesOf v = some options ∧
      ((q.aim options identifier).giveSections options).outcome = .ok () ∧
      (q.take watched v identifier).state =
        { ((q.aim options identifier).giveSections options).state with isReady := true } := by
  cases hv : entriesOf v with
  | none =>
    rw [take_of_none hv] at h
    cases h
  | some options =>
    rw [take_of_some hv] at h ⊢
    split at h
    · obtain ⟨_, hs, -, hstate⟩ := Act.ok_of_andThen h
      exact ⟨options, rfl, hs, hstate.trans (finish_state watched _)⟩
    · cases h

/-- What `take` leaves of a query whose options for a collection it accepts: the sections are filled
with `Readings` of the options, and the query is ready. -/
theorem take_collection (hi : identifier.isFalsy = true)
    (h : (q.take watched (.dict options) identifier).outcome = .ok ()) :
    ∃ x : Readings, x.AreOf options q ∧
      (q.take watched (.dict options) identifier).state =
        { q.withReadings options x with
          lookup := options.get "indifier", identifier := .null, isReady := true } := by
  obtain ⟨_, hv, hs, hstate⟩ := take_ok h
  obtain rfl : options = _ := Option.some.inj hv
  have hnull : identifier.orElse .null = .null := Value.orElse_of_falsy .null hi
  obtain ⟨x, hx, hgiven⟩ := giveSections_collection (by unfold isCollection aim; rw [hnull]; rfl) hs
  refine ⟨x, ⟨hx.filters, hx.fields, hx.embed, hx.sort, hx.page⟩, ?_⟩
  rw [hstate, hgiven]
  unfold aim
  rw [hnull]
  rfl

/-- What `giveSections` reads of options that it accepts: the fields, and the filters of a
collection. -/
theorem giveSections_ok (h : (q.giveSections options).outcome = .ok ()) :
    (q.giveSections options).state.isCollection = q.isCollection ∧
      (∃ names,
        Fields.read q.fields.settings (options.get SectionName.fields.text) (extraFields options)
          = .ok names ∧
        (q.giveSections options).state.fields
          = q.fields.filled (options.get SectionName.fields.text) (some names)) ∧
      (q.isCollection = true → ∃ es,
        Filters.read q.filters.settings (options.get SectionName.filters.text) = .ok es ∧
        (q.giveSections options).state.filters
          = q.filters.filled (options.get SectionName.filters.text) (some es)) := by
  cases hc : q.isCollection with
  | true =>
    obtain ⟨x, hx, hs⟩ := giveSections_collection hc h
    rw [hs]
    exact ⟨hc, ⟨x.fields, hx.fields, rfl⟩, fun _ => ⟨x.filters, hx.filters, rfl⟩⟩
  | false =>
    unfold giveSections at h ⊢
    simp only [hc, Bool.false_eq_true, if_false] at h ⊢
    obtain ⟨_, hfields, hembed, s2⟩ := Act.ok_of_andThen h
    obtain ⟨names, hnames, s1⟩ := giveFields_ok hfields
    rw [s1] at s2 hembed
    obtain ⟨relations, -, s2'⟩ := giveEmbed_ok hembed
    rw [s2, s2']
    exact ⟨hc, ⟨names, hnames, rfl⟩, nofun⟩

/-! ## New queries -/

theorem shadowed_of_newFilters {library : Library} {operators : Value} {s : Filters}
    (h : Filters.new library operators = .ok s) : Filters.shadowed s.settings.operators = [] := by
  unfold Filters.new at h
  split at h
  · cases h
  · split at h
    · rename_i hs
      cases h
      exact hs
    · cases h

/-- The operators of a new query do not replace built-in ones. -/
theorem shadowed_of_new {library : Library} {model : String} {settings : Value}
    (h : Query.new library model settings = .ok q) :
    Filters.shadowed q.filters.settings.operators = [] := by
  obtain ⟨entries, hmade⟩ := made_of_new h
  exact shadowed_of_newFilters hmade.filters

/-! ## Calls -/

section Calls

variable {H R : Type} {source : Source H R} {conditions callback extra : Value}

/-- What is done with options that have been taken. -/
def proceed (source : Source H R) (callback : Value) (q : Query) :
    Act (Event R) Query (Reply H R) :=
  if callback.isNull then
    let a := q.handle source
    ⟨a.events, q, a.outcome.map Reply.handle⟩
  else
    let a := q.exec source callback
    ⟨a.events, q, a.outcome.map fun _ => .nothing⟩

theorem load_of_none (h : entriesOf conditions = none) :
    q.load watched source conditions identifier callback extra
      = .done q (.error (.input (.optionsShape conditions.kind))) := by
  unfold entriesOf at h
  unfold load
  rw [h]

theorem load_of_some (h : entriesOf conditions = some options) :
    q.load watched source conditions identifier callback extra
      = ((q.take watched (.dict (withExtra options extra)) identifier).mapEvents .notice).andThen
          fun q _ => q.proceed source callback := by
  unfold entriesOf at h
  unfold load
  rw [h]
  rfl

/-- A call whose arguments have been matched is refused, or it takes conditions, an identifier, a
callback and extra fields. -/
theorem run_loads (loading : Loading) :
    (∃ f, ∀ (watched : Bool) (source : Source H R) (q : Query),
      q.run watched source loading = .done q (.error f)) ∨
    ∃ conditions identifier callback extra, ∀ (watched : Bool) (source : Source H R) (q : Query),
      q.run watched source loading
        = q.load watched source conditions identifier callback extra := by
  cases loading with
  | any arguments extra =>
    simp only [run, loadAny]
    cases CallShape.resolve arguments with
    | error f => exact .inl ⟨f, fun _ _ _ => rfl⟩
    | ok shape =>
      refine .inr ?_
      dsimp only
      cases shape.identifier.isFalsy with
      | true => exact ⟨_, _, _, _, fun _ _ _ => rfl⟩
      | false => exact ⟨_, _, _, _, fun _ _ _ => rfl⟩
  | one identifier conditions callback extra => exact .inr ⟨_, _, _, _, fun _ _ _ => rfl⟩
  | many conditions callback extra => exact .inr ⟨_, _, _, _, fun _ _ _ => rfl⟩

end Calls

/-- What happens when conditions are taken: messages, and after them what the options come to. -/
theorem load_events {H R : Type} (source : Source H R) (watched : Bool) {conditions : Value}
    {options : Dict} (h : entriesOf conditions = some options) (identifier callback extra : Value)
    (q : Query) :
    let taken := q.take watched (.dict (withExtra options extra)) identifier
    (q.load watched source conditions identifier callback extra).events =
      taken.events.map .notice ++
        match taken.outcome with
        | .error _ => []
        | .ok _ =>
          if callback.isNull then (taken.state.handle source).events
          else (taken.state.exec source callback).events := by
  intro taken
  have hload : q.load watched source conditions identifier callback extra
      = (taken.mapEvents .notice).andThen fun q _ => q.proceed source callback := load_of_some h
  rw [hload]
  generalize taken = a
  obtain ⟨notices, s, outcome⟩ := a
  cases outcome with
  | error f => exact (List.append_nil _).symm
  | ok _ =>
    unfold proceed
    cases callback.isNull <;> simp [Act.mapEvents, Act.andThen_ok]

/-- A call with options and without a callback, which has given a handle back. -/
theorem load_ok {H R : Type} {watched : Bool} {source : Source H R} {handle : H}
    (identifier : Value)
    (h : (q.load watched source (.dict options) identifier .null .null).outcome
      = .ok (.handle handle)) :
    (q.take watched (.dict options) identifier).outcome = .ok () ∧
      ((q.take watched (.dict options) identifier).state.handle source).outcome = .ok handle := by
  unfold load at h
  obtain ⟨_, ht, hh, -⟩ := Act.ok_of_andThen h
  obtain ⟨_, hd, heq⟩ := map_eq_ok_iff.mp hh
  cases heq
  exact ⟨ht, hd⟩

end Query

namespace Store.Registry

variable {library : Library} {name : String} {r : Registry} {q : Query}

theorem bindings_ready (library : Library) (name : String) (r : Registry) :
    (r.ready library name).1.bindings = r.bindings := by
  unfold ready template
  cases r.templates.lookup name with
  | some i => rfl
  | none =>
    dsimp only
    cases Query.new library name .null <;> rfl

theorem sourceOf_of_bindings {r' : Registry} (h : r'.bindings = r.bindings) (c : ModelClass) :
    r'.sourceOf c = r.sourceOf c := by
  have hbindings : r'.bindingFrom c.lineage = r.bindingFrom c.lineage := by
    induction c.lineage with
    | nil => rfl
    | cons n rest ih =>
      unfold bindingFrom
      rw [ih, h]
  unfold sourceOf sessionOf
  rw [hbindings]

theorem sourceOf_ready (library : Library) (name : String) (c : ModelClass) (r : Registry) :
    (r.ready library name).1.sourceOf c = r.sourceOf c :=
  sourceOf_of_bindings (bindings_ready library name r) c

/-- A query of a class lies in the place that has been made ready. -/
theorem query_ok_iff :
    (r.query library name).2 = .ok q ↔
      ∃ j, (r.ready library name).2 = .ok j ∧ (r.ready library name).1.memory.read j = some q := by
  unfold query
  generalize r.ready library name = made
  obtain ⟨r', f | j⟩ := made
  · simp
  · cases hread : r'.memory.read j <;> simp [hread]

/-- The query of a class is a copy of the one that the class is set up with. -/
theorem query_of_template {r' : Registry} {i : Nat}
    (htemplate : r.template library name = (r', .ok i)) (hread : r'.memory.read i = some q) :
    (r.query library name).2 = .ok q := by
  have hready : r.ready library name
      = ({ r' with memory := (r'.memory.make q).1 }, .ok r'.memory.queries.length) := by
    unfold ready
    rw [htemplate]
    dsimp only
    rw [Memory.copy_eq hread]
    rfl
  refine query_ok_iff.mpr ⟨r'.memory.queries.length, ?_, ?_⟩
  · rw [hready]
  · rw [hready]
    exact Memory.read_make_self q r'.memory

/-- The query of a class that has not been set up is one without settings. -/
theorem query_of_absent (h : r.templates.lookup name = none)
    (hnew : Query.new library name .null = .ok q) : (r.query library name).2 = .ok q := by
  have htemplate : r.template library name
      = ((r.keep name q).1, .ok r.memory.queries.length) := by
    unfold template
    rw [h, hnew]
    rfl
  exact query_of_template htemplate (Memory.read_make_self q r.memory)

theorem query_configure {settings : Value} {r' : Registry}
    (h : r.configure library name settings = (r', .ok q)) :
    Query.new library name settings = .ok q ∧ (r'.query library name).2 = .ok q := by
  unfold configure at h
  split at h
  · cases h
  · rename_i hq
    cases h
    have htemplate : (r.keep name q).1.template library name
        = ((r.keep name q).1, .ok r.memory.queries.length) := by
      simp [template, keep, Memory.make]
    exact ⟨hq, query_of_template htemplate (Memory.read_make_self q r.memory)⟩

/-- A call on a class goes as it does on the query of the class. -/
theorem enter_eq (watched : Bool) {c : ModelClass} (hquery : (r.query library c.name).2 = .ok q)
    (e : Entry) (arguments : Arguments) :
    let entered := q.enter watched (r.sourceOf c) e arguments
    (r.enter watched library c e arguments).events = entered.events ∧
      (r.enter watched library c e arguments).outcome = entered.outcome := by
  obtain ⟨j, hj, hread⟩ := query_ok_iff.mp hquery
  have hsource := sourceOf_ready library c.name c r
  unfold enter Query.enter
  cases e.loading arguments with
  | error f => exact ⟨rfl, rfl⟩
  | ok loading =>
    generalize r.ready library c.name = made at hj hread hsource
    obtain ⟨r', outcome⟩ := made
    cases hj
    dsimp only at hread hsource ⊢
    rw [Memory.use_of_read hread, hsource]
    exact ⟨rfl, rfl⟩

/-- A call with nothing but options on a class, which has given a handle back. -/
theorem enter_ok {watched : Bool} {c : ModelClass} {options : Dict} {handle : Documents}
    (hq : (r.query library c.name).2 = .ok q)
    (h : (r.enter watched library c .filter ⟨[.dict options], []⟩).outcome
      = .ok (.handle handle)) :
    (q.take watched (.dict options) .null).outcome = .ok () ∧
      ((q.take watched (.dict options) .null).state.handle (r.sourceOf c)).outcome
        = .ok handle := by
  rw [(enter_eq watched hq .filter _).2] at h
  -- a call without options is told apart in another way, but it is made with the same conditions
  cases options with
  | nil => exact Query.load_ok .null h
  | cons option more => exact Query.load_ok .null h

end Store.Registry
end QueryOptions
