import QueryOptions.Proofs.Acceptance

/-!
# QueryOptions.Proofs.Refusals

What the sections refuse, and what they let pass. Callers are promised refusals of a class of their
own (`Fault.isRefusal`). The readers of the sections keep to it but for clauses: an operator need
not be a key of a mapping, and a pattern can fail otherwise than by its grammar. Keys of clauses and
names of fields are not checked at all when they are read, and fail later on. Inputs without any of
these are orderly.

* `Act.Answers`: actions that end in a state of a kind, or with a refusal;
* `Filters.read_onlyRefuses`, `Fields.read_onlyRefuses`, …: what reading an input ends with;
* `Filters.compiles_iff`, `Fields.compiles_iff`: which inputs that were read can be compiled.
-/

namespace QueryOptions

/-! ## Refusals -/

/-- Whether a fault is a refusal of options, of the class that callers are told of. -/
def Fault.isRefusal (f : Fault) : Bool := f.class?.any fun c => c.isA .query

/-- The outcome is no other fault than a refusal. -/
def OnlyRefuses {α : Type} (x : Except Fault α) : Prop := ∀ f, x = .error f → f.isRefusal = true

section

variable {α β : Type}

theorem OnlyRefuses.ok (a : α) : OnlyRefuses (.ok a) := nofun

theorem OnlyRefuses.error {f : Fault} (h : f.isRefusal = true) :
    OnlyRefuses (.error f : Except Fault α) := by
  intro g hg
  cases hg
  exact h

theorem OnlyRefuses.map {x : Except Fault α} (h : OnlyRefuses x) (g : α → β) :
    OnlyRefuses (x.map g) := by
  cases x with
  | ok a => exact .ok _
  | error f => exact .error (h f rfl)

end

namespace Act

variable {E σ α β : Type}

/-- The action ends in a state of a kind, or with a refusal. -/
def Answers (a : Act E σ α) (kind : σ → Prop) : Prop :=
  match a.outcome with
  | .ok _ => kind a.state
  | .error f => f.isRefusal = true

theorem Answers.of_ok {a : Act E σ α} {kind : σ → Prop} (ho : OnlyRefuses a.outcome)
    (h : ∀ v, a.outcome = .ok v → kind a.state) : a.Answers kind := by
  obtain ⟨events, s, outcome⟩ := a
  cases outcome with
  | error f => exact ho f rfl
  | ok v => exact h v rfl

theorem Answers.andThen {a : Act E σ α} {next : σ → α → Act E σ β} {kind last : σ → Prop}
    (ha : a.Answers kind) (hn : ∀ s v, kind s → (next s v).Answers last) :
    (a.andThen next).Answers last := by
  obtain ⟨events, s, outcome⟩ := a
  cases outcome with
  | error f => exact ha
  | ok v => exact hn s v ha

theorem andThen_assoc {γ : Type} (a : Act E σ α) (f : σ → α → Act E σ β) (g : σ → β → Act E σ γ) :
    (a.andThen f).andThen g = a.andThen fun s v => (f s v).andThen g := by
  obtain ⟨events, s, outcome⟩ := a
  cases outcome with
  | error e => rfl
  | ok v =>
    simp only [andThen_ok]
    cases hf : (f s v).outcome <;> simp [andThen, hf]

theorem Answers.mono {a : Act E σ α} {kind more : σ → Prop} (ha : a.Answers kind)
    (h : ∀ s, kind s → more s) : a.Answers more := by
  obtain ⟨events, s, outcome⟩ := a
  cases outcome with
  | error f => exact ha
  | ok v => exact h s ha

end Act

/-! ## Clauses -/

/-- Whether compiling a text as a pattern gives a pattern or a refusal. -/
def isSource (source : String) : Bool :=
  match Regex.compile source { ignoreCase := true } with
  | .error .tooManyRepeats => false
  | .error .twoAlphabets => false
  | _ => true

theorem compilePattern_onlyRefuses {source : String} {given : Value} (h : isSource source = true) :
    OnlyRefuses (compilePattern source given) := by
  unfold isSource at h
  unfold compilePattern
  cases hc : Regex.compile source { ignoreCase := true } with
  | ok r => exact .ok _
  | error problem =>
    cases problem with
    | fault f => exact .error rfl
    | tooManyRepeats => simp [hc] at h
    | twoAlphabets => simp [hc] at h

theorem isSource_of_ok {source : String} {given r : Value}
    (h : compilePattern source given = .ok r) : isSource source = true := by
  unfold compilePattern at h
  unfold isSource
  cases hc : Regex.compile source { ignoreCase := true } with
  | ok r => rfl
  | error problem =>
    rw [hc] at h
    cases problem <;> cases h

namespace Operator

/-- The text of the pattern that a clause looks for, if it looks for one. -/
def source? (o : Operator) (v : Value) : Option String :=
  match o with
  | .found => v.text?
  | .unfound => v.text?.map unfoundSource
  | _ => none

variable {o : Operator} {key v : Value}

theorem check_onlyRefuses (o : Operator) (key v : Value) : OnlyRefuses (o.check key v) := by
  unfold check
  split
  · split
    · exact .ok _
    · exact .error rfl
  · split
    · split
      · exact .ok _
      · exact .error rfl
    · split
      · split
        · exact .ok _
        · exact .error rfl
      · exact .ok _

theorem criterion_onlyRefuses (ho : o.takesPattern = true)
    (h : (o.source? v).all isSource = true) : OnlyRefuses (o.criterion v) := by
  cases o <;> simp [takesPattern] at ho
  · cases v with
    | text s => exact compilePattern_onlyRefuses h
    | _ => exact .error rfl
  · cases v with
    | text s => exact compilePattern_onlyRefuses h
    | _ => exact .error rfl

theorem source_of_criterion {c : Value} (h : o.criterion v = .ok c) :
    (o.source? v).all isSource = true := by
  cases o <;> try rfl
  · cases v <;> first | rfl | exact isSource_of_ok h
  · cases v <;> first | rfl | exact isSource_of_ok h

/-- What has been checked can be asked of a field, patterns and choices apart. -/
theorem criterion_of_check (hp : o.takesPattern = false) (ho : o ≠ .outside)
    (h : o.check key v = .ok ()) : ∃ c, o.criterion v = .ok c := by
  cases o with
  | within | without =>
    simp only [check, takesArray, if_true] at h
    split at h
    · rename_i items hi
      exact ⟨_, by rw [criterion, hi]⟩
    · cases h
  | between =>
    simp only [check, takesArray, takesRange, if_true, Bool.false_eq_true, if_false] at h
    split at h
    · rename_i low high hi
      exact ⟨_, by rw [criterion, hi]⟩
    · cases h
  | found | unfound => cases hp
  | outside => exact absurd rfl ho
  | _ => exact ⟨_, rfl⟩

theorem range_of_check (h : check .outside key v = .ok ()) :
    ∃ low high, v.array? = some [low, high] := by
  simp only [check, takesArray, takesRange, if_true, Bool.false_eq_true, if_false] at h
  split at h
  · rename_i low high hi
    exact ⟨low, high, hi⟩
  · cases h

end Operator

theorem keyed_ok {key : Value} (hk : key.isKey = true) (v : Value) :
    keyed key v = .ok [(key, v)] := by
  unfold keyed
  rw [if_pos hk]

theorem isKey_of_keyed {key v : Value} {d : Dict} (h : keyed key v = .ok d) :
    key.isKey = true := by
  unfold keyed at h
  split at h
  · assumption
  · cases h

namespace Expression

variable {library : Library} {key operator v : Value}

theorem isKey_of_criteria {o : Operator} {d : Dict}
    (h : (field key o v).criteria library = .ok d) : key.isKey = true := by
  simp only [criteria] at h
  split at h
  · cases h
  · exact isKey_of_keyed h

theorem isKey_of_choice {d : Dict} (h : (disjunction key v).criteria library = .ok d) :
    key.isKey = true := by
  simp only [criteria] at h
  split at h
  · split at h
    · rename_i hk _
      exact isKey_of_keyed hk
    · cases h
    · cases h
  · cases h

/-- A clause with a built-in operator, as it is read. -/
theorem read_ok {e : Expression} (h : read library [] key operator v = .ok e) :
    operator.isKey = true ∧ ∃ o, operator.text?.bind Operator.ofToken? = some o ∧
      o.check key v = .ok () ∧
      ((o = .outside ∧ e = .disjunction key v) ∨
        (o ≠ .outside ∧ e = .field key o v ∧
          (o.takesPattern = true → ∃ d, e.criteria library = .ok d))) := by
  unfold read at h
  split at h
  · cases h
  · rename_i hk
    simp only [Dict.get?] at h
    refine ⟨by simpa using hk, ?_⟩
    split at h
    · cases h
    · rename_i o ho
      refine ⟨o, ho, ?_⟩
      split at h
      · cases h
      · rename_i hcheck
        refine ⟨hcheck, ?_⟩
        split at h
        · rename_i hout
          cases h
          exact .inl ⟨hout, rfl⟩
        · rename_i hout
          refine .inr ⟨hout, ?_⟩
          split at h
          · obtain ⟨d, hd, rfl⟩ := map_eq_ok_iff.mp h
            exact ⟨rfl, fun _ => ⟨d, hd⟩⟩
          · rename_i hp
            cases h
            exact ⟨rfl, fun hp' => absurd hp' hp⟩

/-- Whether the parts of a clause are a key, an operator and a value that fit where they go. -/
def isOrderly (key operator v : Value) : Bool :=
  key.isKey && operator.isKey &&
    ((operator.text?.bind Operator.ofToken?).bind fun o => o.source? v).all isSource

theorem read_onlyRefuses (h : isOrderly key operator v = true) :
    OnlyRefuses (read library [] key operator v) := by
  simp only [isOrderly, Bool.and_eq_true] at h
  obtain ⟨⟨hkey, hoperator⟩, hsource⟩ := h
  unfold read
  rw [hoperator]
  simp only [Bool.not_true, Bool.false_eq_true, if_false, Dict.get?]
  cases ho : operator.text?.bind Operator.ofToken? with
  | none => exact .error rfl
  | some o =>
    rw [ho] at hsource
    dsimp only
    split
    · rename_i f hf
      exact .error (Operator.check_onlyRefuses o key v f hf)
    · split
      · exact .ok _
      · split
        · rename_i hp
          refine OnlyRefuses.map ?_ _
          simp only [criteria]
          split
          · rename_i f hf
            exact .error (Operator.criterion_onlyRefuses hp hsource f hf)
          · rw [keyed_ok hkey]
            exact .ok _
        · exact .ok _

/-- A clause that was read contributes criteria just when it is orderly. -/
theorem criteria_iff {e : Expression} (h : read library [] key operator v = .ok e) :
    (∃ d, e.criteria library = .ok d) ↔ isOrderly key operator v = true := by
  obtain ⟨hoperator, o, ho, hcheck, hread⟩ := read_ok h
  have hkeys : isOrderly key operator v = true ↔
      key.isKey = true ∧ (o.source? v).all isSource = true := by
    simp [isOrderly, hoperator, ho]
  rw [hkeys]
  rcases hread with ⟨rfl, rfl⟩ | ⟨hout, rfl, hpattern⟩
  · obtain ⟨low, high, hr⟩ := Operator.range_of_check hcheck
    refine ⟨fun ⟨d, hd⟩ => ⟨isKey_of_choice hd, rfl⟩, fun ⟨hk, _⟩ => ?_⟩
    simp only [criteria, hr, keyed_ok hk]
    exact ⟨_, rfl⟩
  · refine ⟨fun ⟨d, hd⟩ => ⟨isKey_of_criteria hd, ?_⟩, fun ⟨hk, _⟩ => ?_⟩
    · simp only [criteria] at hd
      split at hd
      · cases hd
      · rename_i c hc
        exact Operator.source_of_criterion hc
    · cases hp : o.takesPattern with
      | true => exact hpattern hp
      | false =>
        obtain ⟨c, hc⟩ := Operator.criterion_of_check hp hout hcheck
        simp only [criteria, hc, keyed_ok hk]
        exact ⟨_, rfl⟩

end Expression

/-! ## Sections -/

namespace Filters

variable {settings : FilterSettings} {v : Value}

/-- Whether a clause is orderly, as far as it has the shape of a clause. -/
def isOrderlyClause (v : Value) : Bool :=
  match v with
  | .dict entries =>
    match Dict.get? entries (.text "key"), Dict.get? entries (.text "operator") with
    | some key, some operator => Expression.isOrderly key operator (Dict.get entries "value")
    | _, _ => true
  | _ => true

def isOrderly (v : Value) : Bool := (v.array?.getD []).all isOrderlyClause

theorem readClause_onlyRefuses (hs : settings.operators = []) (h : isOrderlyClause v = true) :
    OnlyRefuses (readClause settings v) := by
  unfold isOrderlyClause at h
  unfold readClause
  rw [hs]
  split
  · split
    · rename_i hk ho
      simp only [hk, ho] at h
      exact Expression.read_onlyRefuses h
    · exact .error rfl
  · exact .error rfl

theorem clause_iff {e : Expression} (hs : settings.operators = [])
    (h : readClause settings v = .ok e) :
    (∃ d, e.criteria settings.library = .ok d) ↔ isOrderlyClause v = true := by
  unfold readClause at h
  rw [hs] at h
  split at h
  · split at h
    · rename_i hk ho
      simp only [isOrderlyClause, hk, ho]
      exact Expression.criteria_iff h
    · cases h
  · cases h

theorem readClauses_onlyRefuses {values : List Value} (hs : settings.operators = [])
    (h : values.all isOrderlyClause = true) : OnlyRefuses (readClauses settings values) := by
  induction values with
  | nil => exact .ok _
  | cons v rest ih =>
    obtain ⟨hv, hrest⟩ := Bool.and_eq_true_iff.mp h
    simp only [readClauses]
    split
    · rename_i f hf
      exact .error (readClause_onlyRefuses hs hv f hf)
    · split
      · rename_i f hf
        exact .error (ih hrest f hf)
      · exact .ok _

theorem contribute_iff {library : Library} {es : List Expression} {acc : Dict} :
    (∃ criteria, contribute library acc es = .ok criteria) ↔
      ∀ e ∈ es, ∃ d, e.criteria library = .ok d := by
  induction es generalizing acc with
  | nil => simp [contribute]
  | cons e rest ih =>
    simp only [contribute, List.forall_mem_cons]
    cases he : e.criteria library with
    | error f => simp
    | ok more => simp [ih]

theorem readClauses_iff {values : List Value} {es : List Expression} {acc : Dict}
    (hs : settings.operators = []) (h : readClauses settings values = .ok es) :
    (∃ criteria, contribute settings.library acc es = .ok criteria) ↔
      values.all isOrderlyClause = true := by
  rw [contribute_iff]
  induction values generalizing es with
  | nil =>
    cases h
    simp
  | cons v rest ih =>
    simp only [readClauses] at h
    split at h
    · cases h
    · rename_i e he
      split at h
      · cases h
      · rename_i more hmore
        cases h
        rw [List.forall_mem_cons, List.all_cons, Bool.and_eq_true, clause_iff hs he, ih hmore]

theorem isOrderly_of_falsy (h : v.isFalsy = true) : isOrderly v = true := by
  cases v <;> simp_all [isOrderly, Value.array?, Value.isFalsy]

theorem read_onlyRefuses (hs : settings.operators = []) (h : isOrderly v = true) :
    OnlyRefuses (read settings v) := by
  unfold isOrderly at h
  unfold read
  split
  · exact .ok _
  · split
    · exact .error rfl
    · rename_i clauses hc
      rw [hc] at h
      exact readClauses_onlyRefuses hs h

/-- Filters that were read can be compiled just when their clauses are orderly. -/
theorem compiles_iff {s : Filters} {es : List Expression} (hs : s.settings.operators = [])
    (h : read s.settings v = .ok es) :
    (∃ criteria, compile (s.filled v (some es)) = .ok criteria) ↔ isOrderly v = true := by
  unfold read at h
  split at h
  · rename_i hf
    cases h
    exact ⟨fun _ => isOrderly_of_falsy hf, fun _ => ⟨[], rfl⟩⟩
  · split at h
    · cases h
    · rename_i clauses hc
      unfold isOrderly
      rw [hc]
      exact readClauses_iff hs h

end Filters

namespace Fields

/-- Whether none but texts are listed as names of fields. -/
def isOrderly (v extra : Value) : Bool :=
  (v.array?.getD [] ++ extra.array?.getD []).all fun name => name.text?.isSome

theorem namesOf_onlyRefuses (v : Value) : OnlyRefuses (namesOf v) := by
  unfold namesOf
  split
  · exact .ok _
  · split <;> first | exact .ok _ | exact .error rfl

theorem read_onlyRefuses (forced : List Value) (v extra : Value) :
    OnlyRefuses (read forced v extra) := by
  unfold read
  split
  · rename_i f hf
    exact .error (namesOf_onlyRefuses v f hf)
  · split <;> exact .ok _

theorem namesOf_all {v : Value} {names : List Value} (h : namesOf v = .ok names) :
    (names.all fun name => name.text?.isSome) =
      ((v.array?.getD []).all fun name => name.text?.isSome) := by
  unfold namesOf at h
  split at h
  · rename_i hf
    cases h
    cases v <;> simp_all [Value.array?, Value.isFalsy]
  · split at h
    · cases h
      simp [Value.array?, Value.text?]
    · cases h
      rfl
    · cases h
      rfl
    · cases h

/-- Fields that were read can be compiled just when they are texts. -/
theorem compiles_iff {s : Fields} {v extra : Value} {names : List Value} (hs : s.settings = [])
    (h : read s.settings v extra = .ok names) :
    (∃ projection, compile (s.filled v (some names)) = .ok projection) ↔
      isOrderly v extra = true := by
  rw [hs] at h
  unfold read at h
  split at h
  · cases h
  · rename_i own ho
    have hnames : names = own ++ extra.array?.getD [] := by
      split at h
      · rename_i hnil
        cases h
        exact hnil.symm
      · cases h
        exact List.append_nil _
    unfold isOrderly
    rw [List.all_append, ← namesOf_all ho, ← List.all_append, ← hnames, ← Value.texts?_isSome]
    simp only [compile, Section.filled, Option.getD_some]
    cases Value.texts? names <;> simp

end Fields

theorem Embed.read_onlyRefuses (v : Value) : OnlyRefuses (Embed.read v) := by
  have hpaths (paths : List Value) :
      ∀ relations, OnlyRefuses (Embed.mentionAll relations paths) := by
    induction paths with
    | nil => exact fun _ => .ok _
    | cons path rest ih =>
      intro relations
      unfold Embed.mentionAll
      split
      · exact ih _
      · exact .error rfl
  unfold Embed.read
  split
  · exact .ok _
  · exact hpaths _ _
  · exact hpaths _ _
  · exact .error rfl

namespace Sorting

theorem ofValue_onlyRefuses (v : Value) : OnlyRefuses (Term.ofValue v) := by
  unfold Term.ofValue
  split <;> first | exact .ok _ | exact .error rfl

theorem takeTerms_onlyRefuses (spec : SortSpec) (terms : List Value) :
    OnlyRefuses (takeTerms spec terms).2 := by
  induction terms generalizing spec with
  | nil => exact .ok _
  | cons v rest ih =>
    unfold takeTerms
    split
    · rename_i f hf
      exact .error (ofValue_onlyRefuses v f hf)
    · exact ih _
    · exact ih _
    · exact ih _

theorem read_onlyRefuses (v : Value) : OnlyRefuses (read v).2 := by
  unfold read
  split
  · exact .ok _
  · split
    · exact .error rfl
    · exact (takeTerms_onlyRefuses [] _).map some

end Sorting

namespace Pagination

theorem int_of_isCount {v : Value} {n : Int} (h : isCount v = true) :
    ∃ m, v.orElse (.int n) = .int m := by
  unfold isCount at h
  split at h
  · exact ⟨n, rfl⟩
  · rename_i m
    by_cases hm : m = 0
    · exact ⟨n, by simp [Value.orElse, Value.isFalsy, hm]⟩
    · exact ⟨m, by simp [Value.orElse, Value.isFalsy, hm]⟩
  · cases h

/-- Pages with the defaults that there are without settings. -/
theorem settle_default {page size : Value} (hp : isCount page = true) (hs : isCount size = true) :
    (settle {} page size).refusal = none := by
  obtain ⟨m, hm⟩ := int_of_isCount (n := 1) hp
  obtain ⟨k, hk⟩ := int_of_isCount (n := 30) hs
  unfold settle
  dsimp only
  rw [hm, hk]
  rfl

theorem look_default {v : Value} {f : Fault} (h : (look {} v).refusal = some f) :
    f.isRefusal = true := by
  unfold look at h
  split at h
  · cases h
  · dsimp only at h
    split at h
    · cases h
      rfl
    · split at h
      · cases h
        rfl
      · rename_i hp hs
        rw [settle_default (by simpa using hp) (by simpa using hs)] at h
        cases h
  · cases h
    rfl

end Pagination

end QueryOptions
