import QueryOptions.Proofs.Setup
import QueryOptions.Proofs.SectionOrder

/-!
# QueryOptions.Proofs.Standalone

A query against its sections on their own. Each section can be compiled without a query, and knows
nothing then of a model, of operators beside the built-in ones or of other sections. A query without
settings of its own puts the results together (`Query.compileAlone`): it takes options for a
collection just when every section compiles alone, comes to the same, and otherwise refuses them for
the reason of the first section that does not (`Query.take_alone`).

* `Filters.give_outcome`, `Fields.give_outcome`, …: what a section says to its input is what it says
  alone, as long as it says nothing but refusals;
* `Query.IsPlain`: a new query without settings of its own.
-/

namespace QueryOptions

/-- What says nothing but refusals goes wrong in its first step only, if the second one does not
refuse. -/
theorem OnlyRefuses.map_bind {α β : Type} {x : Except Fault α} {g : α → Except Fault β}
    (h : OnlyRefuses (x >>= g))
    (hg : ∀ a, x = .ok a → ∀ f, g a = .error f → f.isRefusal = false) :
    (x >>= g).map (fun _ => ()) = x.map fun _ => () := by
  cases x with
  | error f => rfl
  | ok a =>
    cases hb : g a with
    | error f =>
      have hrefusal : f.isRefusal = true := h f hb
      have hother := hg a rfl f hb
      simp [hrefusal] at hother
    | ok b =>
      show (g a).map _ = _
      rw [hb]
      rfl

namespace Section

variable {π ρ : Type} {reader : String} {read : π → Value → Except Fault ρ} {s : Section π ρ}

/-- `receive` of a section that reads by `ofExcept` and has not received anything. -/
theorem receive_ofExcept (hr : s.received = none) (v : Value) :
    s.receive reader (fun settings w => .ofExcept (read settings w)) v =
      match read s.settings v with
      | .ok r => (s.filled v (some r), .ok ())
      | .error f => (s.filled v none, .error f) := by
  unfold receive
  rw [hr]
  dsimp only
  cases read s.settings v <;> rfl

theorem receive_outcome (hr : s.received = none) (v : Value) :
    (s.receive reader (fun settings w => .ofExcept (read settings w)) v).2
      = (read s.settings v).map fun _ => () := by
  rw [receive_ofExcept hr]
  cases read s.settings v <;> rfl

end Section

/-! ## Filters -/

namespace Expression

variable {key operator v : Value} {e : Expression}

/-- Functions of a library are called for operators of settings only. -/
theorem read_library (library other : Library) (key operator v : Value) :
    read library [] key operator v = read other [] key operator v := rfl

theorem criteria_library {library : Library} (h : read library [] key operator v = .ok e)
    (other : Library) : e.criteria other = e.criteria library := by
  obtain ⟨-, o, -, -, hread⟩ := read_ok h
  rcases hread with ⟨-, rfl⟩ | ⟨-, rfl, -⟩
  · rfl
  · rfl

theorem keyed_error {key c : Value} {f : Fault} (h : keyed key c = .error f) : f = .mismatch := by
  unfold keyed at h
  split at h
  · cases h
  · cases h
    rfl

/-- A clause that was read refuses nothing later on. -/
theorem criteria_error {library : Library} {f : Fault}
    (h : read library [] key operator v = .ok e) (hf : e.criteria library = .error f) :
    f = .mismatch := by
  obtain ⟨-, o, -, hcheck, hread⟩ := read_ok h
  rcases hread with ⟨rfl, rfl⟩ | ⟨hout, rfl, hpattern⟩
  · obtain ⟨low, high, hr⟩ := Operator.range_of_check hcheck
    simp only [criteria, hr] at hf
    split at hf
    · cases hf
    · rename_i hbelow
      cases hf
      exact keyed_error hbelow
    · rename_i habove _
      cases hf
      exact keyed_error habove
  · cases hp : o.takesPattern with
    | true =>
      obtain ⟨d, hd⟩ := hpattern hp
      rw [hd] at hf
      cases hf
    | false =>
      obtain ⟨c, hc⟩ := Operator.criterion_of_check hp hout hcheck
      simp only [criteria, hc] at hf
      exact keyed_error hf

end Expression

namespace Filters

variable {library : Library} {v : Value}

theorem readClause_library (library other : Library) (v : Value) :
    readClause ⟨library, []⟩ v = readClause ⟨other, []⟩ v := rfl

theorem readClauses_library (library other : Library) (values : List Value) :
    readClauses ⟨library, []⟩ values = readClauses ⟨other, []⟩ values := by
  induction values with
  | nil => rfl
  | cons v rest ih => simp only [readClauses, readClause_library library other, ih]

theorem read_library (library other : Library) (v : Value) :
    read ⟨library, []⟩ v = read ⟨other, []⟩ v := by
  simp only [read, readClauses_library library other]

theorem read_of_readClause {e : Expression} (h : readClause ⟨library, []⟩ v = .ok e) :
    ∃ key operator w, Expression.read library [] key operator w = .ok e := by
  unfold readClause at h
  split at h
  · split at h
    · exact ⟨_, _, _, h⟩
    · cases h
  · cases h

theorem mem_readClauses {settings : FilterSettings} {values : List Value} {es : List Expression}
    (h : readClauses settings values = .ok es) :
    ∀ e ∈ es, ∃ v ∈ values, readClause settings v = .ok e := by
  induction values generalizing es with
  | nil =>
    cases h
    simp
  | cons v rest ih =>
    simp only [readClauses] at h
    split at h
    · cases h
    · rename_i e he
      split at h
      · cases h
      · rename_i more hmore
        cases h
        intro d hd
        rcases List.mem_cons.mp hd with rfl | hd
        · exact ⟨v, by simp, he⟩
        · obtain ⟨w, hw, hread⟩ := ih hmore d hd
          exact ⟨w, List.mem_cons_of_mem v hw, hread⟩

theorem mem_read {settings : FilterSettings} {es : List Expression}
    (h : read settings v = .ok es) : ∀ e ∈ es, ∃ w, readClause settings w = .ok e := by
  unfold read at h
  split at h
  · cases h
    simp
  · split at h
    · cases h
    · intro e he
      obtain ⟨w, -, hw⟩ := mem_readClauses h e he
      exact ⟨w, hw⟩

theorem contribute_library {other : Library} {es : List Expression} {acc : Dict}
    (h : ∀ e ∈ es, e.criteria other = e.criteria library) :
    contribute other acc es = contribute library acc es := by
  induction es generalizing acc with
  | nil => rfl
  | cons e rest ih =>
    have hrest : ∀ d ∈ rest, d.criteria other = d.criteria library :=
      fun d hd => h d (List.mem_cons_of_mem e hd)
    simp only [contribute, h e (by simp), ih hrest]

theorem contribute_error {es : List Expression} {acc : Dict} {f : Fault}
    (h : contribute library acc es = .error f) : ∃ e ∈ es, e.criteria library = .error f := by
  induction es generalizing acc with
  | nil => cases h
  | cons e rest ih =>
    simp only [contribute] at h
    split at h
    · rename_i g hg
      cases h
      exact ⟨e, by simp, hg⟩
    · obtain ⟨d, hd, hf⟩ := ih h
      exact ⟨d, List.mem_cons_of_mem e hd, hf⟩

theorem predicate_eq (v : Value) :
    predicate v = read plain.settings v >>= contribute plain.settings.library [] := by
  unfold predicate give
  rw [Section.receive_ofExcept rfl]
  cases read plain.settings v <;> rfl

/-- What a new section says to its input is what the filters say alone, whatever library there
is. -/
theorem give_outcome (library : Library) (h : OnlyRefuses (predicate v)) :
    (give v { settings := ⟨library, []⟩ }).2 = (predicate v).map fun _ => () := by
  have hgive : (give v { settings := ⟨library, []⟩ }).2
      = (read ⟨library, []⟩ v).map fun _ => () := Section.receive_outcome rfl v
  rw [hgive, read_library library plain.settings.library]
  rw [predicate_eq] at h ⊢
  refine (h.map_bind fun es hread f hf => ?_).symm
  obtain ⟨e, he, hcriteria⟩ := contribute_error hf
  obtain ⟨w, hw⟩ := mem_read hread e he
  obtain ⟨key, operator, x, hx⟩ := read_of_readClause hw
  have hfault := Expression.criteria_error hx hcriteria
  rw [hfault]
  rfl

/-- A section that has read what can be compiled alone comes to the same. -/
theorem compile_of_predicate {es : List Expression} {criteria : Dict}
    (hread : read ⟨library, []⟩ v = .ok es) (h : predicate v = .ok criteria) :
    compile (Section.filled { settings := ⟨library, []⟩ } v (some es)) = .ok criteria := by
  have hplain : read plain.settings v = .ok es :=
    (read_library plain.settings.library library v).trans hread
  rw [predicate_eq, hplain] at h
  refine (contribute_library fun e he => ?_).trans h
  obtain ⟨w, hw⟩ := mem_read hplain e he
  obtain ⟨key, operator, x, hx⟩ := read_of_readClause hw
  exact Expression.criteria_library hx library

end Filters

/-! ## Fields, relations, order and pages -/

namespace Fields

variable {v extra : Value}

theorem projection_eq (v extra : Value) :
    projection v extra
      = read [] v extra >>= fun names =>
        compile (Section.filled { settings := [] } v (some names)) := by
  unfold projection give
  rw [Section.receive_ofExcept rfl]
  cases read [] v extra <;> rfl

theorem give_outcome (h : OnlyRefuses (projection v extra)) :
    (give v extra { settings := [] }).2 = (projection v extra).map fun _ => () := by
  have hgive : (give v extra { settings := [] }).2
      = (read [] v extra).map fun _ => () := Section.receive_outcome rfl v
  rw [hgive]
  rw [projection_eq] at h ⊢
  refine (h.map_bind fun names _ f hf => ?_).symm
  unfold compile at hf
  split at hf
  · cases hf
  · cases hf
    rfl

theorem compile_of_projection {names : List Value} {text : String}
    (hread : read [] v extra = .ok names) (h : projection v extra = .ok text) :
    compile (Section.filled { settings := [] } v (some names)) = .ok text := by
  rw [projection_eq, hread] at h
  exact h

end Fields

theorem Embed.relations_eq (v : Value) : relations v = read v := by
  unfold relations give
  rw [Section.receive_ofExcept rfl]
  cases read v <;> rfl

theorem Embed.give_outcome (v : Value) : (new.give v).2 = (relations v).map fun _ => () := by
  rw [relations_eq]
  exact Section.receive_outcome rfl v

theorem Sorting.spec_eq (v : Value) : spec v = (read v).2 := by
  unfold spec give
  rw [Section.receive_ofExcept rfl]
  cases (read v).2 <;> rfl

theorem Sorting.give_outcome (v : Value) : (new.give v).2 = (spec v).map fun _ => () := by
  rw [spec_eq]
  exact Section.receive_outcome rfl v

namespace Pagination

/-- The limit and the rows to skip for the page that a section asks for, without a query. An absent
page is one without a number and a size; what is neither absent nor a mapping is refused. -/
def resolveSection (v : Value) : Except Fault (Value × Value) :=
  match v with
  | .null => resolve .null .null
  | .dict entries => resolve (Dict.get entries "page") (Dict.get entries "size")
  | v => .error (.input (.paginationShape v.kind))

theorem resolve_eq (page size : Value) :
    resolve page size =
      match look {} (.dict [(.text "page", page), (.text "size", size)]) with
      | ⟨kept, none⟩ => .ok ((kept.getD {}).limit, (kept.getD {}).skip)
      | ⟨_, some f⟩ => .error f := by
  unfold resolve give Section.receive
  dsimp only
  generalize look {} _ = a
  obtain ⟨kept, refusal⟩ := a
  cases refusal <;> rfl

theorem look_dict (settings : PageSettings) (entries : Dict) :
    look settings (.dict entries) = look settings
      (.dict [(.text "page", entries.get "page"), (.text "size", entries.get "size")]) := rfl

theorem resolveSection_eq (v : Value) :
    resolveSection v =
      match look {} v with
      | ⟨kept, none⟩ => .ok ((kept.getD {}).limit, (kept.getD {}).skip)
      | ⟨_, some f⟩ => .error f := by
  cases v with
  | null => exact resolve_eq .null .null
  | dict entries =>
    rw [look_dict]
    exact resolve_eq _ _
  | _ => rfl

theorem give_outcome (v : Value) :
    (give v { settings := {} }).2 = (resolveSection v).map fun _ => () := by
  rw [resolveSection_eq]
  unfold give Section.receive
  dsimp only
  generalize look {} v = a
  obtain ⟨kept, refusal⟩ := a
  cases refusal <;> rfl

end Pagination

/-! ## Queries -/

namespace Settings

/-- Settings that are absent, or give every setting its default value. -/
def AreDefault (settings : Value) : Prop :=
  ∃ entries, settings.orElse (.dict []) = .dict entries ∧
    ∀ p ∈ defaults, valueOf entries p.1 p.2 = p.2

theorem areDefault_of_falsy {settings : Value} (h : settings.isFalsy = true) :
    AreDefault settings :=
  ⟨[], Value.orElse_of_falsy _ h, fun _ _ => rfl⟩

end Settings

namespace Query

variable {library : Library} {model : String} {settings v identifier : Value} {options : Dict}
  {q : Query} {part : SectionName}

/-- A new query without settings of its own. -/
structure IsPlain (library : Library) (q : Query) : Prop where
  fields : q.fields = { settings := [] }
  embed : q.embed = .new
  sorting : q.sorting = .new
  filters : q.filters = { settings := ⟨library, []⟩ }
  pagination : q.pagination = { settings := {} }
  enabled : ∀ part : SectionName, q.keeper.isEnabled part.text = true

theorem isPlain_new (hs : Settings.AreDefault settings)
    (hnew : Query.new library model settings = .ok q) : q.IsPlain library := by
  obtain ⟨entries, hentries, hdefault⟩ := hs
  have hmade := (new_ok_iff hentries).mp hnew
  have hfields := hmade.fields
  have hfilters := hmade.filters
  have hpagination := hmade.pagination
  have hdefaults : Settings.defaults
      = [("force_include", .null), ("operators", .null), ("default_page", .int 1),
          ("default_size", .int 30), ("max_size", .null)]
        ++ [SectionName.fields, .embed, .filters, .sort, .pagination].map
          fun part => (switchOf part.text, Value.bool true) := rfl
  rw [hdefaults] at hdefault
  rw [hdefault ("force_include", .null) (by simp)] at hfields
  rw [hdefault ("operators", .null) (by simp)] at hfilters
  rw [hdefault ("default_page", .int 1) (by simp), hdefault ("default_size", .int 30) (by simp),
    hdefault ("max_size", .null) (by simp)] at hpagination
  rw [hmade.whole]
  refine ⟨(Except.ok.inj hfields).symm, rfl, rfl, (Except.ok.inj hfilters).symm,
    (Except.ok.inj hpagination).symm, fun part => ?_⟩
  have hswitch : Settings.valueOf entries (switchOf part.text) (.bool true) = .bool true := by
    refine hdefault (switchOf part.text, .bool true) ?_
    cases part <;> simp
  rw [Keeper.isEnabled_ofSections]
  unfold Settings.isOff
  rw [hswitch]
  rfl

/-- What options for a collection come to when every section is compiled on its own. -/
def compileAlone (options : Dict) : Except Fault CompiledQuery := do
  let criteria ← Filters.predicate (options.get SectionName.filters.text)
  let projection ← Fields.projection (options.get SectionName.fields.text) (extraFields options)
  let relations ← Embed.relations (options.get SectionName.embed.text)
  let sort ← Sorting.spec (options.get SectionName.sort.text)
  let (limit, skip) ← Pagination.resolveSection (options.get SectionName.pagination.text)
  return { predicate := if criteria.isEmpty then .null else .dict criteria
           projection, relations, sort, limit, skip }

/-- What a section says to its input on its own. -/
def aloneOutcome (part : SectionName) (options : Dict) : Except Fault Unit :=
  match part with
  | .fields =>
    (Fields.projection (options.get SectionName.fields.text) (extraFields options)).map fun _ => ()
  | .embed => (Embed.relations (options.get SectionName.embed.text)).map fun _ => ()
  | .sort => (Sorting.spec (options.get SectionName.sort.text)).map fun _ => ()
  | .filters => (Filters.predicate (options.get SectionName.filters.text)).map fun _ => ()
  | .pagination =>
    (Pagination.resolveSection (options.get SectionName.pagination.text)).map fun _ => ()

theorem compileAlone_outcome (options : Dict) :
    (compileAlone options).map (fun _ => ())
      = forM SectionName.turns fun part => aloneOutcome part options := by
  unfold compileAlone SectionName.turns
  simp only [List.forM_cons, List.forM_nil, aloneOutcome]
  cases Filters.predicate (options.get SectionName.filters.text) with
  | error f => rfl
  | ok criteria =>
    cases Fields.projection (options.get SectionName.fields.text) (extraFields options) with
    | error f => rfl
    | ok projection =>
      cases Embed.relations (options.get SectionName.embed.text) with
      | error f => rfl
      | ok relations =>
        cases Sorting.spec (options.get SectionName.sort.text) with
        | error f => rfl
        | ok spec =>
          cases Pagination.resolveSection (options.get SectionName.pagination.text) <;> rfl

/-- Filters and fields say nothing but refusals on their own. The other sections say
nothing else anyway. -/
structure OnlyRefusedAlone (options : Dict) : Prop where
  filters : OnlyRefuses (Filters.predicate (options.get SectionName.filters.text))
  fields : OnlyRefuses
    (Fields.projection (options.get SectionName.fields.text) (extraFields options))

theorem IsPlain.outcomeOf_eq (hq : q.IsPlain library) (h : OnlyRefusedAlone options)
    (part : SectionName) : q.outcomeOf part options = aloneOutcome part options := by
  have henabled : q.requireSection part (hasInput part options) = .ok () := by
    unfold requireSection Keeper.requireEnabled
    rw [hq.enabled part]
    simp
  unfold outcomeOf
  rw [henabled]
  show q.sectionOutcome part options = _
  cases part with
  | fields =>
    simp only [sectionOutcome, hq.fields]
    exact Fields.give_outcome h.fields
  | embed =>
    simp only [sectionOutcome, hq.embed]
    exact Embed.give_outcome _
  | sort =>
    simp only [sectionOutcome, hq.sorting]
    exact Sorting.give_outcome _
  | filters =>
    simp only [sectionOutcome, hq.filters]
    exact Filters.give_outcome library h.filters
  | pagination =>
    simp only [sectionOutcome, hq.pagination]
    exact Pagination.give_outcome _

/-- A compiled query whose parts are what the sections come to alone. -/
theorem compileAlone_ok {compiled : CompiledQuery} (h : compileAlone options = .ok compiled) :
    ∃ criteria page, Filters.predicate (options.get SectionName.filters.text) = .ok criteria ∧
      Fields.projection (options.get SectionName.fields.text) (extraFields options)
        = .ok compiled.projection ∧
      Embed.relations (options.get SectionName.embed.text) = .ok compiled.relations ∧
      Sorting.spec (options.get SectionName.sort.text) = .ok compiled.sort ∧
      Pagination.resolveSection (options.get SectionName.pagination.text) = .ok page ∧
      compiled =
        { predicate := if criteria.isEmpty then .null else .dict criteria
          projection := compiled.projection
          relations := compiled.relations
          sort := compiled.sort
          limit := page.1
          skip := page.2 } := by
  obtain ⟨criteria, hcriteria, h⟩ := bind_eq_ok_iff.mp h
  obtain ⟨projection, hprojection, h⟩ := bind_eq_ok_iff.mp h
  obtain ⟨relations, hrelations, h⟩ := bind_eq_ok_iff.mp h
  obtain ⟨sort, hsort, h⟩ := bind_eq_ok_iff.mp h
  obtain ⟨page, hpage, h⟩ := bind_eq_ok_iff.mp h
  cases h
  exact ⟨criteria, page, hcriteria, hprojection, hrelations, hsort, hpage, rfl⟩

/-- The sections of a plain query hold what they come to alone. -/
theorem IsPlain.compile_withReadings (hq : q.IsPlain library) (hc : q.isCollection = true)
    {x : Readings} (hx : x.AreOf options q) {compiled : CompiledQuery}
    (h : compileAlone options = .ok compiled) :
    compile { q.withReadings options x with isReady := true } = .ok compiled := by
  obtain ⟨criteria, page, hcriteria, hprojection, hrelations, hsort, hpage, hcompiled⟩ :=
    compileAlone_ok h
  have hreadFilters := hx.filters
  have hreadFields := hx.fields
  have hlook := hx.page
  rw [hq.filters] at hreadFilters
  rw [hq.fields] at hreadFields
  rw [hq.pagination] at hlook
  have hfilters := Filters.compile_of_predicate hreadFilters hcriteria
  have hfields := Fields.compile_of_projection hreadFields hprojection
  have hembed : x.embed = compiled.relations :=
    Except.ok.inj (hx.embed.symm.trans ((Embed.relations_eq _).symm.trans hrelations))
  have hsorting : x.sort = compiled.sort :=
    Except.ok.inj (hx.sort.symm.trans ((Sorting.spec_eq _).symm.trans hsort))
  have hresolved : page = ((x.page.getD {}).limit, (x.page.getD {}).skip) := by
    rw [Pagination.resolveSection_eq, hlook] at hpage
    exact (Except.ok.inj hpage).symm
  rw [hcompiled, hresolved, ← hembed, ← hsorting]
  have hi : isCollection { q.withReadings options x with isReady := true } = true := hc
  unfold compile
  rw [hi]
  dsimp only [withReadings]
  rw [hq.filters, hfilters, hq.fields, hfields]
  rfl

theorem IsPlain.giveSections_outcome (hq : q.IsPlain library) (hc : q.isCollection = true)
    (h : OnlyRefusedAlone options) :
    (q.giveSections options).outcome = (compileAlone options).map fun _ => () := by
  have hall : SectionName.applying true = SectionName.turns := rfl
  rw [giveSections_eq, giveAll_outcome options (SectionName.nodup_applying _), compileAlone_outcome,
    hc, hall]
  exact forM_congr_of_mem fun part _ => hq.outcomeOf_eq h part

theorem IsPlain.compile_giveSections (hq : q.IsPlain library) (hc : q.isCollection = true)
    (hok : (q.giveSections options).outcome = .ok ()) {compiled : CompiledQuery}
    (h : compileAlone options = .ok compiled) :
    compile { (q.giveSections options).state with isReady := true } = .ok compiled := by
  obtain ⟨x, hx, hstate⟩ := giveSections_collection hc hok
  rw [hstate]
  exact hq.compile_withReadings hc hx h

theorem IsPlain.aim (hq : q.IsPlain library) (options : Dict) (identifier : Value) :
    (q.aim options identifier).IsPlain library :=
  ⟨hq.fields, hq.embed, hq.sorting, hq.filters, hq.pagination, hq.enabled⟩

/-- A query without settings of its own is put together from its sections. Of all sections that do
not compile alone, the first one decides why options are refused: filters, fields, embed, sort,
pagination. -/
theorem take_alone (hs : Settings.AreDefault settings)
    (hnew : Query.new library model settings = .ok q) (hv : entriesOf v = some options)
    (hunknown : unknownOptions options = []) (hi : identifier.isFalsy = true)
    (h : OnlyRefusedAlone options) (watched : Bool) :
    (q.take watched v identifier).outcome = (compileAlone options).map (fun _ => ()) ∧
      ∀ compiled, compileAlone options = .ok compiled →
        (q.take watched v identifier).state.compile = .ok compiled := by
  have hq := (isPlain_new hs hnew).aim options identifier
  have hc := (isCollection_aim options identifier q).trans hi
  have hsections := hq.giveSections_outcome hc h
  rw [take_of_some hv, hunknown]
  dsimp only
  cases halone : compileAlone options with
  | error f =>
    rw [halone] at hsections
    refine ⟨?_, nofun⟩
    unfold Act.andThen
    rw [hsections]
    rfl
  | ok compiled =>
    rw [halone] at hsections
    have hcompile := hq.compile_giveSections hc hsections halone
    obtain ⟨houtcome, hstate⟩ := Act.andThen_of_ok hsections fun s _ => s.finish watched
    rw [houtcome, hstate, finish_state]
    refine ⟨finish_ok watched ⟨compiled, hcompile⟩, fun other ho => ?_⟩
    cases ho
    exact hcompile

/-- Options with two sections that do not compile alone: the fields are a number, and the pagination
is a text. -/
def numberFields : Dict := [(.text "pagination", .text "first"), (.text "fields", .int 5)]

/-- Options for every section come to what the sections come to alone. Of two sections that do not
compile alone, the fields come first. -/
theorem fullOptions_alone :
    ∃ (q : Query) (options : Dict) (compiled : CompiledQuery),
      Query.new Sample.library "Person" .null = .ok q ∧ fullOptions = .dict options ∧
      compileAlone options = .ok compiled ∧ compiled.limit = .int 10 ∧
      compiled.predicate = .dict [(.text "age", single "$gte" (.int 18))] ∧
      (q.take false fullOptions .null).outcome = .ok () ∧
      (q.take false fullOptions .null).state.compile = .ok compiled ∧
      (q.take false (.dict numberFields) .null).outcome
        = .error (.input (.fieldsShape (Value.int 5).kind)) := by
  have hdefault : Settings.AreDefault .null := Settings.areDefault_of_falsy rfl
  have hi : Value.isFalsy .null = true := rfl
  have hnew := new_null Sample.library "Person"
  have hfields : OnlyRefusedAlone numberFields := by
    refine ⟨.ok [], ?_⟩
    have hprojection : Fields.projection (numberFields.get SectionName.fields.text)
        (extraFields numberFields) = .error (.input (.fieldsShape (Value.int 5).kind)) := rfl
    rw [hprojection]
    exact .error rfl
  obtain ⟨hfull, hcompiled⟩ :=
    take_alone (v := fullOptions) hdefault hnew rfl rfl hi ⟨.ok _, .ok _⟩ false
  have hnumber := (take_alone (v := .dict numberFields) hdefault hnew rfl rfl hi hfields false).1
  exact ⟨_, _, _, hnew, rfl, rfl, rfl, rfl, hfull.trans rfl, hcompiled _ rfl, hnumber.trans rfl⟩

end Query
end QueryOptions
