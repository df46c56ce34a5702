import QueryOptions.Proofs.Calls
import QueryOptions.Proofs.Refusals

/-!
# QueryOptions.Proofs.Validation

What is checked when options are taken. Options without settings are either refused right away, or
they can be compiled, if they are orderly (`Query.isOrderly`): options and fields go by texts, and a
collection has orderly clauses. Of the others, those that are accepted cannot be compiled.

* `giveFilters_answers`, `giveFields_answers`, …: one section;
* `Untouched.take_answers`: orderly options;
* `Untouched.isOrderly_of_compiles`: options that were accepted and can be compiled;
* `take_validates`: both for a query without settings.
-/

namespace QueryOptions

/-! ## Options -/

theorem Section.receive_onlyRefuses {π ρ : Type} {reader : String} {look : π → Value → Attempt ρ}
    {v : Value} {s : Section π ρ} (hr : s.received = none)
    (h : ∀ f, (look s.settings v).refusal = some f → f.isRefusal = true) :
    OnlyRefuses (s.receive reader look v).2 := by
  unfold Section.receive
  rw [hr]
  dsimp only
  split
  · rename_i f hf
    exact .error (h f hf)
  · exact .ok _

/-- `receive` of a section that reads by `ofExcept` fails with refusals only, if its reader does. -/
theorem Section.receive_ofExcept_onlyRefuses {π ρ : Type} {reader : String}
    {read : π → Value → Except Fault ρ} {v : Value} {s : Section π ρ} (hr : s.received = none)
    (h : OnlyRefuses (read s.settings v)) :
    OnlyRefuses (s.receive reader (fun settings w => .ofExcept (read settings w)) v).2 := by
  refine receive_onlyRefuses hr fun f hf => ?_
  cases hv : read s.settings v with
  | ok r => simp [hv, Attempt.ofExcept] at hf
  | error g =>
    simp only [hv, Attempt.ofExcept, Option.some.injEq] at hf
    exact h f (hf ▸ hv)

namespace Query

variable {q : Query} {options : Dict}

theorem requireSection_onlyRefuses (q : Query) (part : SectionName) (hasInput : Bool) :
    OnlyRefuses (q.requireSection part hasInput) := by
  unfold requireSection Keeper.requireEnabled
  split
  · split
    · exact .ok _
    · exact .error rfl
  · exact .ok _

theorem giveFilters_answers (hr : q.filters.received = none)
    (hs : q.filters.settings.operators = [])
    (h : Filters.isOrderly (options.get SectionName.filters.text) = true) :
    (q.giveFilters options).Answers fun s =>
      ∃ filters : Filters, s = { q with filters } ∧ ∃ criteria, filters.compile = .ok criteria := by
  refine .of_ok ?_ fun _ hok => ?_
  · unfold giveFilters
    dsimp only
    split
    · rename_i f hf
      exact .error (requireSection_onlyRefuses _ _ _ f hf)
    · exact Section.receive_ofExcept_onlyRefuses hr (Filters.read_onlyRefuses hs h)
  · obtain ⟨es, hread, hstate⟩ := giveFilters_ok hok
    exact ⟨_, hstate, (Filters.compiles_iff hs hread).mpr h⟩

theorem giveFields_answers (hr : q.fields.received = none) (hs : q.fields.settings = [])
    (h : Fields.isOrderly (options.get SectionName.fields.text) (extraFields options) = true) :
    (q.giveFields options).Answers fun s =>
      ∃ fields : Fields, s = { q with fields } ∧ ∃ projection, fields.compile = .ok projection := by
  refine .of_ok ?_ fun _ hok => ?_
  · unfold giveFields
    dsimp only
    split
    · rename_i f hf
      exact .error (requireSection_onlyRefuses _ _ _ f hf)
    · exact Section.receive_ofExcept_onlyRefuses hr (Fields.read_onlyRefuses _ _ _)
  · obtain ⟨names, hread, hstate⟩ := giveFields_ok hok
    exact ⟨_, hstate, (Fields.compiles_iff hs hread).mpr h⟩

theorem giveEmbed_answers (hr : q.embed.received = none) :
    (q.giveEmbed options).Answers fun s => ∃ embed, s = { q with embed } := by
  refine .of_ok ?_ fun _ hok => ?_
  · unfold giveEmbed
    dsimp only
    split
    · rename_i f hf
      exact .error (requireSection_onlyRefuses _ _ _ f hf)
    · exact Section.receive_ofExcept_onlyRefuses hr (Embed.read_onlyRefuses _)
  · obtain ⟨_, -, hstate⟩ := giveEmbed_ok hok
    exact ⟨_, hstate⟩

theorem giveSort_answers (hr : q.sorting.received = none) :
    (q.giveSort options).Answers fun s => ∃ sorting, s = { q with sorting } := by
  refine .of_ok ?_ fun _ hok => ?_
  · unfold giveSort
    dsimp only
    split
    · rename_i f hf
      exact .error (requireSection_onlyRefuses _ _ _ f hf)
    · exact Section.receive_ofExcept_onlyRefuses hr (Sorting.read_onlyRefuses _)
  · obtain ⟨_, -, hstate⟩ := giveSort_ok hok
    exact ⟨_, hstate⟩

theorem givePagination_answers (hr : q.pagination.received = none)
    (hs : q.pagination.settings = {}) :
    (q.givePagination options).Answers fun s => ∃ pagination, s = { q with pagination } := by
  refine .of_ok ?_ fun _ hok => ?_
  · unfold givePagination
    dsimp only
    split
    · rename_i f hf
      exact .error (requireSection_onlyRefuses _ _ _ f hf)
    · refine Section.receive_onlyRefuses hr fun f hf => ?_
      rw [hs] at hf
      exact Pagination.look_default hf
  · obtain ⟨-, hstate⟩ := givePagination_ok hok
    exact ⟨_, hstate⟩

/-- No section has been given input, and none has settings. -/
structure Untouched (q : Query) : Prop where
  fields : q.fields.received = none ∧ q.fields.settings = []
  embed : q.embed.received = none
  sorting : q.sorting.received = none
  filters : q.filters.received = none ∧ q.filters.settings.operators = []
  pagination : q.pagination.received = none ∧ q.pagination.settings = {}

theorem untouched_new {library : Library} {model : String}
    (h : Query.new library model .null = .ok q) : q.Untouched := by
  rw [new_null] at h
  cases h
  exact ⟨⟨rfl, rfl⟩, rfl, rfl, ⟨rfl, rfl⟩, rfl, rfl⟩

/-- What comes of options that can be compiled. -/
def Compiles (q : Query) : Prop := ∃ compiled, q.compile = .ok compiled

theorem compiles_ready_iff (q : Query) :
    Compiles { q with isReady := true } ↔
      (∃ projection, q.fields.compile = .ok projection) ∧
        (q.isCollection = true → ∃ criteria, q.filters.compile = .ok criteria) := by
  unfold Compiles compile
  cases hc : q.isCollection with
  | true =>
    have hi : isCollection { q with isReady := true } = true := hc
    rw [hi]
    cases q.filters.compile with
    | error f => simp
    | ok criteria => cases q.fields.compile <;> simp
  | false =>
    have hi : isCollection { q with isReady := true } = false := hc
    rw [hi]
    cases q.fields.compile <;> simp

def namesFields (options : Dict) : Bool :=
  Fields.isOrderly (options.get SectionName.fields.text) (extraFields options)

/-- Whether the clauses of the filters are orderly. -/
def namesFilters (options : Dict) : Bool :=
  Filters.isOrderly (options.get SectionName.filters.text)

theorem giveSections_answers (hu : q.Untouched) (hfields : namesFields options = true)
    (hfilters : q.isCollection = true → namesFilters options = true) :
    (q.giveSections options).Answers fun s => Compiles { s with isReady := true } := by
  unfold giveSections
  cases hc : q.isCollection with
  | true =>
    rw [if_pos rfl]
    simp only [Act.andThen_assoc]
    refine .andThen (giveFilters_answers hu.filters.1 hu.filters.2 (hfilters hc)) ?_
    rintro s _ ⟨filters, rfl, hcriteria⟩
    refine .andThen (giveFields_answers hu.fields.1 hu.fields.2 hfields) ?_
    rintro s _ ⟨fields, rfl, hprojection⟩
    refine .andThen (giveEmbed_answers hu.embed) ?_
    rintro s _ ⟨embed, rfl⟩
    refine .andThen (giveSort_answers hu.sorting) ?_
    rintro s _ ⟨sorting, rfl⟩
    refine .mono (givePagination_answers hu.pagination.1 hu.pagination.2) ?_
    rintro s ⟨pagination, rfl⟩
    exact (compiles_ready_iff _).mpr ⟨hprojection, fun _ => hcriteria⟩
  | false =>
    rw [if_neg (by simp)]
    refine .andThen (giveFields_answers hu.fields.1 hu.fields.2 hfields) ?_
    rintro s _ ⟨fields, rfl, hprojection⟩
    refine .mono (giveEmbed_answers hu.embed) ?_
    rintro s ⟨embed, rfl⟩
    exact (compiles_ready_iff _).mpr ⟨hprojection, fun h => absurd (h.symm.trans hc) (by simp)⟩

theorem written_ok (compiled : CompiledQuery) : ∃ text, compiled.written = .ok text := by
  unfold CompiledQuery.written QuerySummary.written QuerySummary.toDict QuerySummary.sortEntry
  unfold CompiledQuery.summary CompiledQuery.sortValue
  cases compiled.sort with
  | none => exact ⟨_, rfl⟩
  | some spec => exact ⟨_, rfl⟩

/-- Whoever watches is told what a query comes to, and nothing is refused for that. -/
theorem finish_ok (watched : Bool) (h : Compiles { q with isReady := true }) :
    (q.finish watched).outcome = .ok () := by
  obtain ⟨compiled, hc⟩ := h
  obtain ⟨text, ht⟩ := written_ok compiled
  unfold finish compiledNotice
  cases watched with
  | true => simp only [if_true, hc, ht, Except.map]
  | false => rfl

theorem finish_answers (watched : Bool) (h : Compiles { q with isReady := true }) :
    (q.finish watched).Answers Compiles := by
  refine .of_ok ?_ fun _ _ => ?_
  · rw [finish_ok watched h]
    exact .ok ()
  · rw [finish_state]
    exact h

def namesOptions (options : Dict) : Bool := (Value.texts? (unknownOptions options)).isSome

/-- Whether options go by texts, name fields by texts, and give orderly clauses if they are for a
collection. -/
def isOrderly (v identifier : Value) : Bool :=
  match entriesOf v with
  | none => true
  | some options =>
    namesOptions options && namesFields options && (!identifier.isFalsy || namesFilters options)

theorem unknownFault_isRefusal {names : List Value} (h : (Value.texts? names).isSome = true) :
    (unknownFault names).isRefusal = true := by
  obtain ⟨texts, ht⟩ := Option.isSome_iff_exists.mp h
  rw [unknownFault, ht]
  rfl

theorem Untouched.aim (hu : q.Untouched) (options : Dict) (identifier : Value) :
    (q.aim options identifier).Untouched :=
  ⟨hu.fields, hu.embed, hu.sorting, hu.filters, hu.pagination⟩

theorem isCollection_aim (options : Dict) (identifier : Value) (q : Query) :
    (q.aim options identifier).isCollection = identifier.isFalsy := by
  unfold isCollection Query.aim Value.orElse
  cases h : identifier.isFalsy <;> simp [h, Value.isFalsy_null]

theorem Untouched.take_answers {v identifier : Value} (hu : q.Untouched) (watched : Bool)
    (h : isOrderly v identifier = true) : (q.take watched v identifier).Answers Compiles := by
  cases hv : entriesOf v with
  | none =>
    rw [take_of_none hv]
    rfl
  | some options =>
    simp only [isOrderly, hv, Bool.and_eq_true, Bool.or_eq_true, Bool.not_eq_true'] at h
    obtain ⟨⟨hnames, hfields⟩, hfilters⟩ := h
    rw [take_of_some hv]
    split
    · refine (giveSections_answers (hu.aim options identifier) hfields fun hc => ?_).andThen
        fun s _ hs => finish_answers watched hs
      rw [isCollection_aim] at hc
      exact hfilters.resolve_left (by simp [hc])
    · exact unknownFault_isRefusal hnames

theorem Untouched.isOrderly_of_compiles {watched : Bool} {v identifier : Value} (hu : q.Untouched)
    (h : (q.take watched v identifier).outcome = .ok ())
    (hc : (q.take watched v identifier).state.Compiles) : isOrderly v identifier = true := by
  obtain ⟨options, hv, hs, hstate⟩ := take_ok h
  obtain ⟨hcollection, ⟨names, hnames, hf⟩, hfilters⟩ := giveSections_ok hs
  rw [hstate, compiles_ready_iff, hf, hcollection, isCollection_aim] at hc
  have hfields := (Fields.compiles_iff hu.fields.2 hnames).mp hc.1
  simp only [isOrderly, hv, Bool.and_eq_true, Bool.or_eq_true, Bool.not_eq_true']
  refine ⟨⟨?_, hfields⟩, ?_⟩
  · rw [namesOptions, take_known hv h]
    rfl
  cases hi : identifier.isFalsy with
  | false => exact .inl rfl
  | true =>
    obtain ⟨es, hread, he⟩ := hfilters ((isCollection_aim options identifier q).trans hi)
    have hcriteria := hc.2 hi
    rw [he] at hcriteria
    exact .inr ((Filters.compiles_iff hu.filters.2 hread).mp hcriteria)

/-- A query without settings answers orderly options properly, of whatever values they are made: it
refuses them, or they can be compiled. No other options that it accepts can be compiled. -/
theorem take_validates {library : Library} {model : String}
    (hnew : Query.new library model .null = .ok q) (watched : Bool) (options identifier : Value) :
    (isOrderly options identifier = true →
      (q.take watched options identifier).Answers Compiles) ∧
    ((q.take watched options identifier).outcome = .ok () →
      (q.take watched options identifier).state.Compiles →
        isOrderly options identifier = true) :=
  ⟨(untouched_new hnew).take_answers watched, (untouched_new hnew).isOrderly_of_compiles⟩

/-- Options for every section are orderly. -/
theorem fullOptions_answers :
    ∃ q, Query.new Sample.library "Person" .null = .ok q ∧ isOrderly fullOptions .null = true ∧
      (q.take false fullOptions .null).outcome = .ok () ∧
      (q.take false fullOptions .null).Answers Compiles := by
  have horderly : isOrderly fullOptions .null = true := rfl
  have hanswers {q : Query} (hnew : Query.new Sample.library "Person" .null = .ok q) :=
    (take_validates hnew false fullOptions .null).1 horderly
  exact ⟨_, new_null _ _, horderly, rfl, hanswers (new_null _ _)⟩

/-- A field that is named by a number is accepted, and then what was accepted cannot be compiled. -/
theorem numberField_fails :
    ∃ q s, Query.new Sample.library "Person" .null = .ok q ∧
      q.take false (.dict [(.text "fields", .list [.int 1])]) .null = .done s (.ok ()) ∧
      s.compile = .error .mismatch ∧ Fault.mismatch.isRefusal = false :=
  ⟨_, _, new_null _ _, rfl, rfl, rfl⟩

end Query
end QueryOptions
