import QueryOptions.Proofs.Conduct
import QueryOptions.Proofs.SectionOrder

/-!
# QueryOptions.Proofs.Additions

Extra fields that a call is given beside the options. They are put among the options under one
spelling, but they are read under two, and the other one goes first. So they are loaded after the
fields of the options unless the options have extra fields under the second spelling, null included:
then they count for nothing (`Query.enter_adds`).

* `Arguments.assign_named`, `Entry.extra_of_match`: an argument that is given by name;
* `Query.mem_load_iff`: what a call asks of a handle is what the options that it takes come to;
* `Query.load_selects`, `Query.load_spelled`: the options without and with the second spelling.
-/

namespace QueryOptions

/-! ## Arguments by name -/

/-- A parameter that is given an argument by name has that value. -/
theorem Arguments.assign_named {names : Dict} {parameters : List Parameter}
    {places values : List Value} {p : Parameter} {v : Value} {i : Nat}
    (h : assign names parameters places = .ok values) (hp : parameters[i]? = some p)
    (hv : names.get? (.text p.name) = some v) : values[i]? = some v := by
  induction parameters generalizing places values i with
  | nil => simp at hp
  | cons first rest ih =>
    cases places with
    | cons w places =>
      unfold assign at h
      split at h
      · cases h
      · rename_i hfree
        obtain ⟨more, hmore, rfl⟩ := map_eq_ok_iff.mp h
        cases i with
        | zero =>
          obtain rfl : first = p := by simpa using hp
          simp [Dict.has, hv] at hfree
        | succ i =>
          have hrest : rest[i]? = some p := by simpa using hp
          have hfound := ih hmore hrest
          simpa using hfound
    | nil =>
      unfold assign at h
      split at h
      · cases h
      · rename_i w hw
        obtain ⟨more, hmore, rfl⟩ := map_eq_ok_iff.mp h
        cases i with
        | zero =>
          obtain rfl : first = p := by simpa using hp
          simpa [hv] using hw.symm
        | succ i =>
          have hrest : rest[i]? = some p := by simpa using hp
          have hfound := ih hmore hrest
          simpa using hfound

namespace Loading

def conditions : Loading → Value
  | .any arguments _ =>
    match CallShape.resolve arguments with
    | .ok shape => shape.conditions
    | .error _ => .null
  | .one _ conditions _ _ => conditions
  | .many conditions _ _ => conditions

/-- The extra fields of a call beside its options. -/
def extra : Loading → Value
  | .any _ extra => extra
  | .one _ _ _ extra => extra
  | .many _ _ extra => extra

/-- The call with other extra fields. -/
def adding (extra : Value) : Loading → Loading
  | .any arguments _ => .any arguments extra
  | .one identifier conditions callback _ => .one identifier conditions callback extra
  | .many conditions callback _ => .many conditions callback extra

theorem adding_extra (loading : Loading) : loading.adding loading.extra = loading := by
  cases loading <;> rfl

end Loading

/-- Extra fields that are given by name are those of the call. -/
theorem Entry.extra_of_match {e : Entry} {more : List Parameter} {arguments : Arguments}
    {m : Loading × List Value} {v : Value} (h : e.matchWith more arguments = .ok m)
    (hv : arguments.names.get? (.text "extra_fields") = some v) : m.1.extra = v := by
  cases e with
  | filter =>
    simp only [matchWith, Arguments.named, Arguments.values] at h
    split at h
    · rename_i extra rest hvalues
      cases h
      split at hvalues
      · exact Option.some.inj (Arguments.assign_named (i := 0) hvalues rfl hv)
      · cases hvalues
    · cases h
    · cases h
  | filterOne =>
    simp only [matchWith, Arguments.values] at h
    split at h
    · rename_i identifier conditions callback extra rest hvalues
      cases h
      split at hvalues
      · exact Option.some.inj (Arguments.assign_named (i := 3) hvalues rfl hv)
      · cases hvalues
    · cases h
    · cases h
  | filterMany =>
    simp only [matchWith, Arguments.values] at h
    split at h
    · rename_i conditions callback extra rest hvalues
      cases h
      split at hvalues
      · exact Option.some.inj (Arguments.assign_named (i := 2) hvalues rfl hv)
      · cases hvalues
    · cases h
    · cases h

/-! ## What a call asks of a handle -/

namespace Event

/-- Whether something asks for a handle or configures it. -/
def isConfiguring {R : Type} : Event R → Bool
  | .opened _ => true
  | .taken _ => true
  | _ => false

end Event

/-- Nothing is configured when a handle is executed. -/
theorem Source.isConfiguring_exec {H R : Type} {source : Source H R} {callback : Value}
    {handle : H} :
    ∀ e ∈ (source.exec callback handle).events, e.isConfiguring = false := by
  have hnotices (notices : List Notice) :
      ∀ e ∈ Event.executed :: notices.map (Event.notice (R := R)), e.isConfiguring = false := by
    simp [Event.isConfiguring]
  have hanswer : ∀ e ∈ (answer callback (source.execute (!callback.isNull) handle).2).events,
      e.isConfiguring = false := by
    unfold answer
    split
    · intro e he
      obtain rfl := List.mem_singleton.mp he
      split <;> rfl
    · exact nofun
  unfold exec
  dsimp only
  split
  · intro e he
    rcases List.mem_append.mp he with he | he
    · exact hnotices _ e he
    · exact hanswer e he
  · exact hnotices _

namespace Query

variable {H R : Type} {source : Source H R} {watched : Bool} {callback identifier extra : Value}
  {options : Dict} {q s : Query}

theorem mem_exec_iff (source : Source H R) (callback : Value) (s : Query) {e : Event R}
    (he : e.isConfiguring = true) :
    e ∈ (s.exec source callback).events ↔ e ∈ (s.handle source).events := by
  unfold exec
  generalize s.handle source = prepared
  obtain ⟨events, state, outcome⟩ := prepared
  cases outcome with
  | error f => rfl
  | ok handle =>
    have hquiet : e ∉ (source.exec callback handle).events := by
      intro hm
      simp [source.isConfiguring_exec e hm] at he
    rw [Act.andThen_ok]
    simp [hquiet]

/-- What a call asks of a handle is what the options that it has taken come to. -/
theorem mem_load_iff {conditions : Value} (hconditions : entriesOf conditions = some options)
    {taken : Act Notice Query Unit}
    (htaken : q.take watched (.dict (withExtra options extra)) identifier = taken)
    {e : Event R} (he : e.isConfiguring = true) :
    e ∈ (q.load watched source conditions identifier callback extra).events
      ↔ taken.outcome = .ok () ∧ e ∈ (taken.state.handle source).events := by
  have hnotice : e ∉ taken.events.map Event.notice := by
    intro hm
    obtain ⟨n, -, rfl⟩ := List.mem_map.mp hm
    cases he
  rw [load_events source watched hconditions, htaken, List.mem_append]
  obtain ⟨notices, s, outcome⟩ := taken
  cases outcome with
  | error f => simpa using hnotice
  | ok _ =>
    have hexec := mem_exec_iff source callback s he
    dsimp only
    split
    · simp [hnotice]
    · simp [hnotice, hexec]

end Query

/-! ## Fields -/

namespace CompiledQuery

variable {compiled : CompiledQuery} {p : String}

theorem select_mem_iff : .select p ∈ compiled.steps ↔ p = compiled.projection ∧ p ≠ "" := by
  have hpopulations : Step.select p ∉ compiled.populations := by
    simp [populations]
  have harrangement : Step.select p ∉ compiled.arrangement := by
    unfold arrangement
    split <;> simp
  unfold steps
  rw [List.append_assoc, List.mem_append, List.mem_append]
  unfold selection
  split
  · rename_i hempty
    simp only [List.not_mem_nil, hpopulations, harrangement, false_or, false_iff, not_and, hempty]
    intro he hne
    exact hne he
  · rename_i hnonempty
    simp only [List.mem_singleton, Step.select.injEq, hpopulations, harrangement, or_false]
    exact ⟨fun he => ⟨he, he ▸ hnonempty⟩, fun h => h.1⟩

/-- Columns are selected before any other step. -/
theorem steps_of_select (h : .select p ∈ compiled.steps) :
    ∃ rest, compiled.steps = .select p :: rest := by
  obtain ⟨rfl, hnonempty⟩ := select_mem_iff.mp h
  unfold steps selection
  rw [if_neg hnonempty]
  exact ⟨_, rfl⟩

end CompiledQuery

namespace Source

variable {H R : Type} {source : Source H R}

/-- A handle is asked for the first step, whether it takes it or not. -/
theorem configureAll_head (source : Source H R) (s : Step) (rest : List Step) (handle : H) :
    ∃ more, (source.configureAll (s :: rest) handle).events = .taken s :: more := by
  unfold configureAll
  split
  · exact ⟨[], rfl⟩
  · exact ⟨_, rfl⟩

theorem prepare_of_acquire {opening : Opening} {handle : H} {steps : List Step}
    (h : source.acquire opening = .ok handle) :
    (source.prepare opening steps).events
      = .opened opening :: (source.configureAll steps handle).events := by
  unfold prepare
  rw [h]

end Source

namespace Fields

/-- The columns that fields name together with extra names: the fields come first, then the extra
names, then what is always included, unless nothing is named. -/
def AreColumns (v : Value) (names : List String) (forced : List Value) (columns : List String) :
    Prop :=
  ∃ own always, namesOf v = .ok (own.map .text) ∧ columns = own ++ names ++ always ∧
    always.map .text = if own ++ names = [] then [] else forced

theorem areColumns_of_read {forced : List Value} {v extra : Value} {kept : List Value}
    {names columns : List String} (hread : read forced v extra = .ok kept)
    (hextra : extra.array? = some (names.map .text))
    (hcolumns : Value.texts? kept = some columns) : AreColumns v names forced columns := by
  rw [Value.texts?_eq_some_iff] at hcolumns
  unfold read at hread
  rw [hextra, Option.getD_some] at hread
  split at hread
  · cases hread
  · rename_i given hgiven
    split at hread
    · rename_i hnil
      cases hread
      obtain ⟨rfl, hnames⟩ := List.append_eq_nil_iff.mp hnil
      obtain rfl := List.map_eq_nil_iff.mp hnames
      obtain rfl := List.map_eq_nil_iff.mp hcolumns.symm
      exact ⟨[], [], hgiven, rfl, rfl⟩
    · rename_i hsome
      cases hread
      obtain ⟨front, always, rfl, hfront, rfl⟩ := List.map_eq_append_iff.mp hcolumns.symm
      obtain ⟨own, others, rfl, rfl, hothers⟩ := List.map_eq_append_iff.mp hfront
      obtain rfl : others = names := (List.map_inj_right fun _ _ => Value.text.inj).mp hothers
      refine ⟨own, always, hgiven, rfl, ?_⟩
      have hne : own ++ others ≠ [] := by
        intro he
        exact hsome (hfront.symm.trans (by rw [he]; rfl))
      rw [if_neg hne]

end Fields

namespace Query

variable {H R : Type} {source : Source H R} {watched : Bool} {callback identifier extra : Value}
  {options : Dict} {q s : Query}

theorem fields_of_compile {compiled : CompiledQuery} (h : q.compile = .ok compiled) :
    q.fields.compile = .ok compiled.projection := by
  cases hc : q.isCollection with
  | true =>
    obtain ⟨_, _, -, hprojection, rfl⟩ := compile_collection hc h
    exact hprojection
  | false =>
    obtain ⟨_, hprojection, rfl⟩ := compile_document hc h
    exact hprojection

/-- A model that gives a handle is asked for the columns of the projection before all else. -/
theorem select_of_opened {o : Opening} {handle : H} (ho : .opened o ∈ (s.handle source).events)
    (hacquired : source.acquire o = .ok handle) :
    ∃ projection, s.fields.compile = .ok projection ∧
      ∀ p, .taken (.select p) ∈ (s.handle source).events ↔ p = projection ∧ p ≠ "" := by
  cases hc : s.compile with
  | error f =>
    rw [handle_eq_error source hc] at ho
    cases ho
  | ok compiled =>
    rw [handle_eq_prepare source hc] at ho ⊢
    obtain rfl : o = compiled.opening := by
      have hm := (source.prepare_prefix compiled.opening compiled.steps).subset ho
      simpa using hm
    refine ⟨compiled.projection, fields_of_compile hc, fun p => ?_⟩
    rw [← CompiledQuery.select_mem_iff, Source.prepare_of_acquire hacquired]
    constructor
    · intro hm
      have htaken := List.mem_of_ne_of_mem (by simp) hm
      have hstep := (source.configureAll_prefix compiled.steps handle).subset htaken
      simpa using hstep
    · intro hm
      obtain ⟨rest, hrest⟩ := CompiledQuery.steps_of_select hm
      obtain ⟨more, hmore⟩ := source.configureAll_head (.select p) rest handle
      rw [hrest, hmore]
      simp

/-- Extra fields beside the options, where these have none under the other spelling. -/
theorem load_selects {conditions : Value} {names : List String} {o : Opening} {handle : H}
    (hconditions : entriesOf conditions = some options)
    (hspelling : options.get? (.text "extraFields") = none)
    (hextra : extra.array? = some (names.map .text))
    (ho : .opened o ∈ (q.load watched source conditions identifier callback extra).events)
    (hacquired : source.acquire o = .ok handle) :
    ∃ columns,
      Fields.AreColumns (options.get SectionName.fields.text) names q.fields.settings columns ∧
      ∀ p, .taken (.select p) ∈ (q.load watched source conditions identifier callback extra).events
        ↔ p = Text.unwords columns ∧ p ≠ "" := by
  obtain ⟨htake, hopened⟩ := (mem_load_iff hconditions rfl rfl).mp ho
  obtain ⟨projection, hprojection, hselect⟩ := select_of_opened hopened hacquired
  have hpresent : extra.isNull = false := by
    cases extra <;> first | rfl | cases hextra
  have hput : withExtra options extra = options.put (.text "extra_fields") extra := by
    simp [withExtra, hpresent]
  obtain ⟨entries, hentries, hsections, hstate⟩ := take_ok htake
  obtain rfl := Option.some.inj hentries
  obtain ⟨-, ⟨kept, hread, hfields⟩, -⟩ := giveSections_ok hsections
  have hgiven : extraFields (withExtra options extra) = extra := by
    unfold extraFields Dict.get
    rw [hput, Dict.get?_put_of_ne (by decide), hspelling, Dict.get?_put_self]
    rfl
  have hown : (withExtra options extra).get SectionName.fields.text
      = options.get SectionName.fields.text := by
    unfold Dict.get
    rw [hput, Dict.get?_put_of_ne (by decide)]
  rw [hgiven, hown] at hread
  rw [hstate, hfields] at hprojection
  simp only [Fields.compile, Section.filled, Option.getD_some] at hprojection
  split at hprojection
  · rename_i columns hcolumns
    cases hprojection
    refine ⟨columns, Fields.areColumns_of_read hread hextra hcolumns, fun p => ?_⟩
    rw [mem_load_iff hconditions rfl rfl, hselect]
    exact and_iff_right htake
  · cases hprojection

/-- Options are read under the other spelling alone where they have something there. -/
theorem take_spelled {w : Value} (hspelling : options.get? (.text "extraFields") = some w)
    (extra : Value) : q.take watched (.dict (withExtra options extra)) identifier
      = q.take watched (.dict options) identifier := by
  cases hextra : extra.isNull with
  | true =>
    have hsame : withExtra options extra = options := by
      simp [withExtra, hextra]
    rw [hsame]
  | false =>
    have hput : withExtra options extra = options.put (.text "extra_fields") extra := by
      simp [withExtra, hextra]
    have hother (name : String) (hne : "extra_fields" ≠ name) :
        (withExtra options extra).get? (.text name) = options.get? (.text name) := by
      rw [hput, Dict.get?_put_of_ne hne]
    have haim : q.aim (withExtra options extra) identifier = q.aim options identifier := by
      simp only [aim, Dict.get, hother "indifier" (by decide)]
    have hsections : ∀ part ∈ SectionName.applying (q.aim options identifier).isCollection,
        SameInput part (withExtra options extra) options := by
      intro part _
      refine ⟨?_, fun _ => ?_⟩
      · simp only [Dict.get, hother part.text (by cases part <;> decide)]
      · simp only [extraFields, hother "extraFields" (by decide), hspelling,
          Option.getD_some]
    have hunknown : unknownOptions (withExtra options extra) = unknownOptions options := by
      rw [hput, unknownOptions_put (by decide)]
    rw [take_of_some rfl, take_of_some rfl, hunknown, haim, giveSections_eq, giveSections_eq,
      giveAll_congr hsections]

theorem load_spelled {conditions w : Value} (hconditions : entriesOf conditions = some options)
    (hspelling : options.get? (.text "extraFields") = some w) (callback extra : Value) :
    q.load watched source conditions identifier callback extra
      = q.load watched source conditions identifier callback .null := by
  have htake (extra : Value) : q.take watched (.dict (withExtra options extra)) identifier
      = q.take watched (.dict options) identifier := take_spelled hspelling extra
  rw [load_of_some hconditions, load_of_some hconditions, htake extra, htake .null]

/-! ## Calls -/

/-- A call whose arguments have no shape is refused; another one takes its options, with an
identifier and a callback that do not depend on its extra fields. -/
theorem run_cases (watched : Bool) (source : Source H R) (loading : Loading) (q : Query) :
    (∃ f, ∀ extra, q.run watched source (loading.adding extra) = .done q (.error f)) ∨
      ∃ identifier callback, ∀ extra, q.run watched source (loading.adding extra)
        = q.load watched source loading.conditions identifier callback extra := by
  cases loading with
  | any arguments _ =>
    simp only [Loading.adding, Loading.conditions, run, loadAny]
    cases CallShape.resolve arguments with
    | error f => exact .inl ⟨f, fun _ => rfl⟩
    | ok shape =>
      refine .inr ?_
      dsimp only
      cases shape.identifier.isFalsy with
      | true => exact ⟨_, _, fun _ => rfl⟩
      | false => exact ⟨_, _, fun _ => rfl⟩
  | one identifier conditions callback _ => exact .inr ⟨identifier, callback, fun _ => rfl⟩
  | many conditions callback _ => exact .inr ⟨.null, callback, fun _ => rfl⟩

/-- What becomes of names that a call adds to its options. If these have no extra fields under the
other spelling, the names are loaded after the fields of the options, as soon as there is a handle.
Otherwise the call goes as it does without them. -/
def Adds (watched : Bool) (source : Source H R) (loading : Loading) (names : List String)
    (q : Query) (events : List (Event R)) : Prop :=
  ∀ options, entriesOf loading.conditions = some options →
    (options.get? (.text "extraFields") = none →
      ∀ o handle, .opened o ∈ events → source.acquire o = .ok handle →
        ∃ columns,
          Fields.AreColumns (options.get SectionName.fields.text) names q.fields.settings columns ∧
          ∀ p, .taken (.select p) ∈ events ↔ p = Text.unwords columns ∧ p ≠ "") ∧
    ((options.get? (.text "extraFields")).isSome = true →
      events = (q.run watched source (loading.adding .null)).events)

theorem run_adds (watched : Bool) (source : Source H R) {loading : Loading} {names : List String}
    (hextra : loading.extra.array? = some (names.map .text)) (q : Query) :
    Adds watched source loading names q (q.run watched source loading).events := by
  intro options hoptions
  have hrun : q.run watched source loading
      = q.run watched source (loading.adding loading.extra) := by
    rw [loading.adding_extra]
  rw [hrun]
  rcases run_cases watched source loading q with ⟨f, hrefused⟩ | ⟨identifier, callback, hload⟩
  · rw [hrefused, hrefused]
    exact ⟨fun _ _ _ ho => (nomatch ho), fun _ => rfl⟩
  · rw [hload, hload]
    refine ⟨fun hspelling _ _ => load_selects hoptions hspelling hextra, fun hspelling => ?_⟩
    obtain ⟨w, hw⟩ := Option.isSome_iff_exists.mp hspelling
    rw [load_spelled hoptions hw]

/-- Names that are given to a call as extra fields, by name: on a query with any settings, on a new
query with settings of the call, and on a class of models. -/
theorem enter_adds (watched : Bool) (e : Entry) {arguments : Arguments} {extra : Value}
    {names : List String} (hgiven : arguments.names.get? (.text "extra_fields") = some extra)
    (hextra : extra.array? = some (names.map .text)) :
    (∀ {H R : Type} (source : Source H R) (q : Query) (loading : Loading),
      e.loading arguments = .ok loading →
      Adds watched source loading names q (q.enter watched source e arguments).events) ∧
    (∀ {H R : Type} (source : Source H R) (library : Library) (model : String) (loading : Loading)
      (settings : Value) (q : Query), e.loadingWithSettings arguments = .ok (loading, settings) →
      Query.new library model settings = .ok q →
      Adds watched source loading names q
        (enterNew watched library model source e arguments).events) ∧
    ∀ (library : Library) (c : Store.ModelClass) (r : Store.Registry) (loading : Loading)
      (q : Query), e.loading arguments = .ok loading → (r.query library c.name).2 = .ok q →
      Adds watched (r.sourceOf c) loading names q
        (r.enter watched library c e arguments).events := by
  have hentered : ∀ {H R : Type} (source : Source H R) (q : Query) (loading : Loading),
      e.loading arguments = .ok loading →
      Adds watched source loading names q (q.enter watched source e arguments).events := by
    intro H R source q loading hloading
    obtain ⟨m, hm, rfl⟩ := map_eq_ok_iff.mp hloading
    have hadded := Entry.extra_of_match hm hgiven
    unfold enter
    rw [hloading]
    exact run_adds watched source (hadded ▸ hextra) q
  refine ⟨hentered, ?_, ?_⟩
  · intro H R source library model loading settings q hloading hnew
    obtain ⟨m, hm, hsettings⟩ := map_eq_ok_iff.mp hloading
    obtain ⟨rfl, -⟩ := Prod.mk.inj hsettings
    have hadded := Entry.extra_of_match hm hgiven
    unfold enterNew
    rw [hloading]
    dsimp only
    rw [hnew]
    exact run_adds watched source (hadded ▸ hextra) q
  · intro library c r loading q hloading hquery
    rw [(Store.Registry.enter_eq watched hquery e arguments).1]
    exact hentered (r.sourceOf c) q loading hloading

/-- A call for the names of persons that adds their ages. -/
def agesAdded : Arguments :=
  ⟨[.dict [(.text "fields", .text "name")]], [(.text "extra_fields", .list [.text "age"])]⟩

/-- The ages are loaded after the names. -/
theorem agesAdded_select :
    ∃ (q : Query) (columns : List String), Query.new Sample.library "Person" .null = .ok q ∧
      Fields.AreColumns (.text "name") ["age"] [] columns ∧
      (∀ p, .taken (.select p) ∈
          (q.enter false (Sample.recording none .null) .filterMany agesAdded).events
        ↔ p = Text.unwords columns ∧ p ≠ "") ∧
      (q.enter false (Sample.recording none .null) .filterMany agesAdded).events =
        [.opened (.find none), .taken (.select "name age"), .taken (.limit (.int 30)),
          .taken (.skip (.int 0))] := by
  obtain ⟨q, hnew, hevents⟩ : ∃ q, Query.new Sample.library "Person" .null = .ok q ∧
      (q.enter false (Sample.recording none .null) .filterMany agesAdded).events =
        [.opened (.find none), .taken (.select "name age"), .taken (.limit (.int 30)),
          .taken (.skip (.int 0))] := ⟨_, new_null _ _, rfl⟩
  have hgiven : agesAdded.names.get? (.text "extra_fields") = some (.list [.text "age"]) := rfl
  have hextra : Value.array? (.list [.text "age"]) = some (["age"].map .text) := rfl
  have hadds := (enter_adds false .filterMany hgiven hextra).1 (Sample.recording none .null) q _ rfl
    _ rfl
  have hopened : Event.opened (.find none)
      ∈ (q.enter false (Sample.recording none .null) .filterMany agesAdded).events := by
    rw [hevents]
    simp
  obtain ⟨columns, hcolumns, hselect⟩ := hadds.1 rfl _ () hopened rfl
  have hsettings : q.fields.settings = [] := by
    rw [new_null] at hnew
    cases hnew
    rfl
  rw [hsettings] at hcolumns
  exact ⟨q, columns, hnew, hcolumns, hselect, hevents⟩

/-- The same call for options that have extra fields of their own under the other spelling, although
there are none of them. -/
def agesReplaced : Arguments :=
  ⟨[.dict [(.text "fields", .text "name"), (.text "extraFields", .list [])]],
    [(.text "extra_fields", .list [.text "age"])]⟩

/-- The ages are not loaded. -/
theorem agesReplaced_select :
    ∃ q, Query.new Sample.library "Person" .null = .ok q ∧
      (q.enter false (Sample.recording none .null) .filterMany agesReplaced).events =
        [.opened (.find none), .taken (.select "name"), .taken (.limit (.int 30)),
          .taken (.skip (.int 0))] :=
  ⟨_, new_null _ _, rfl⟩

end Query
end QueryOptions
