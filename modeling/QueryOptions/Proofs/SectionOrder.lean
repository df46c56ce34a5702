import QueryOptions.Proofs.Entries
import QueryOptions.Proofs.Once
import QueryOptions.Proofs.Validation

/-!
# QueryOptions.Proofs.SectionOrder

The sections of a query take turns: each one that applies is given its input, in a fixed order, up
to the first one that refuses it. No section looks at another one, nor at what the options have for
another one. So what a section says to its input can be told beforehand (`Query.outcomeOf`), and the
options are refused by the first section that says no.

* `Query.give_outcome`, `Query.give_leaves`: one turn, and what it leaves as it was;
* `Query.giveAll_outcome`, `Query.giveSections_eq`: all turns;
* `Query.giveAll_congr`: options that have the same for the sections that take a turn;
* `Query.giveAll_tuned`: queries with other settings or another lookup;
* `Act.Alike`: requests that go alike, and come to the same.
-/

namespace QueryOptions

namespace Act

variable {E σ τ α β : Type}

theorem andThen_done (a : Act E σ Unit) : (a.andThen fun s v => .done s (.ok v)) = a := by
  obtain ⟨events, s, outcome⟩ := a
  cases outcome with
  | error f => rfl
  | ok v => simp [andThen, done]

/-- Sees states as other ones. -/
def mapState (g : σ → τ) (a : Act E σ α) : Act E τ α := ⟨a.events, g a.state, a.outcome⟩

theorem mapState_andThen (g : σ → σ) (a : Act E σ α) {next next' : σ → α → Act E σ β}
    (h : ∀ v, next' (g a.state) v = (next a.state v).mapState g) :
    (a.mapState g).andThen next' = (a.andThen next).mapState g := by
  obtain ⟨events, s, outcome⟩ := a
  cases outcome with
  | error f => rfl
  | ok v => simp only [mapState, andThen_ok, h v]

/-- A property of states that each of two actions preserves is preserved by both together. -/
theorem andThen_state {a : Act E σ α} {next : σ → α → Act E σ β} {kind : σ → Prop}
    (ha : kind a.state) (hn : ∀ v, kind a.state → kind (next a.state v).state) :
    kind (a.andThen next).state := by
  obtain ⟨events, s, outcome⟩ := a
  cases outcome with
  | error f => exact ha
  | ok v => exact hn v ha

end Act

/-! ## The order of the turns -/

namespace SectionName

def appliesToDocument : SectionName → Bool
  | .fields => true
  | .embed => true
  | _ => false

/-- The order in which the sections take their turns. -/
def turns : List SectionName := [.filters, .fields, .embed, .sort, .pagination]

/-- The sections that apply to a collection or to a single document, in their order. -/
def applying (isCollection : Bool) : List SectionName :=
  turns.filter fun part => isCollection || part.appliesToDocument

theorem nodup_applying (isCollection : Bool) : (applying isCollection).Nodup := by
  cases isCollection <;> decide

end SectionName

namespace Query

variable {q s : Query} {options : Dict} {part : SectionName}

/-! ## One turn -/

def give (part : SectionName) (options : Dict) (q : Query) : Act Notice Query Unit :=
  match part with
  | .fields => q.giveFields options
  | .embed => q.giveEmbed options
  | .sort => q.giveSort options
  | .filters => q.giveFilters options
  | .pagination => q.givePagination options

/-- Whether options have anything but null for a section; the fields get the extra fields too. -/
def hasInput (part : SectionName) (options : Dict) : Bool :=
  match part with
  | .fields =>
    !(options.get SectionName.fields.text).isNull || !(extraFields options).isNull
  | part => !(options.get part.text).isNull

/-- What a section says to its input, switched off or not. -/
def sectionOutcome (part : SectionName) (options : Dict) (q : Query) : Except Fault Unit :=
  match part with
  | .fields => (q.fields.give (options.get SectionName.fields.text) (extraFields options)).2
  | .embed => (q.embed.give (options.get SectionName.embed.text)).2
  | .sort => (q.sorting.give (options.get SectionName.sort.text)).2
  | .filters => (q.filters.give (options.get SectionName.filters.text)).2
  | .pagination => (q.pagination.give (options.get SectionName.pagination.text)).2

/-- What becomes of the input of a section, whatever the other sections are given. -/
def outcomeOf (part : SectionName) (options : Dict) (q : Query) : Except Fault Unit := do
  q.requireSection part (hasInput part options)
  q.sectionOutcome part options

theorem give_outcome (part : SectionName) (options : Dict) (q : Query) :
    (q.give part options).outcome = q.outcomeOf part options := by
  unfold outcomeOf
  cases part
  all_goals
    simp only [give, giveFields, giveEmbed, giveSort, giveFilters, givePagination, hasInput]
    split
    · rename_i f hf
      rw [hf]
      rfl
    · rename_i hok
      rw [hok]
      rfl

/-- What the turn of a section leaves as it was: all but this section. -/
inductive Leaves (q : Query) : SectionName → Query → Prop where
  | fields (fields : Fields) : Leaves q .fields { q with fields }
  | embed (embed : Embed) : Leaves q .embed { q with embed }
  | sort (sorting : Sorting) : Leaves q .sort { q with sorting }
  | filters (filters : Filters) : Leaves q .filters { q with filters }
  | pagination (pagination : Pagination) : Leaves q .pagination { q with pagination }

theorem give_leaves (part : SectionName) (options : Dict) (q : Query) :
    q.Leaves part (q.give part options).state := by
  cases part with
  | fields =>
    simp only [give, giveFields]
    split
    · exact .fields q.fields
    · exact .fields _
  | embed =>
    simp only [give, giveEmbed]
    split
    · exact .embed q.embed
    · exact .embed _
  | sort =>
    simp only [give, giveSort]
    split
    · exact .sort q.sorting
    · exact .sort _
  | filters =>
    simp only [give, giveFilters]
    split
    · exact .filters q.filters
    · exact .filters _
  | pagination =>
    simp only [give, givePagination]
    split
    · exact .pagination q.pagination
    · exact .pagination _

theorem Leaves.outcomeOf_eq (h : q.Leaves part s) {other : SectionName} (hne : other ≠ part)
    (options : Dict) : s.outcomeOf other options = q.outcomeOf other options := by
  cases h <;> cases other <;> first | rfl | exact absurd rfl hne

/-! ## All turns -/

/-- Gives sections their inputs one after the other, up to the first one that is refused. -/
def giveAll (options : Dict) : List SectionName → Query → Act Notice Query Unit
  | [], q => .done q (.ok ())
  | part :: rest, q => (q.give part options).andThen fun s _ => giveAll options rest s

theorem giveSections_eq (options : Dict) (q : Query) :
    q.giveSections options = q.giveAll options (SectionName.applying q.isCollection) := by
  unfold giveSections
  cases q.isCollection with
  | true =>
    have hparts : SectionName.applying true = [.filters, .fields, .embed, .sort, .pagination] := rfl
    simp only [hparts, giveAll, give, if_true, Act.andThen_assoc, Act.andThen_done]
  | false =>
    have hparts : SectionName.applying false = [.fields, .embed] := rfl
    simp only [hparts, giveAll, give, Bool.false_eq_true, if_false, Act.andThen_done]

/-- The first section that refuses its input decides. What it says does not depend on the sections
before it: none of them takes a second turn. -/
theorem giveAll_outcome (options : Dict) {parts : List SectionName} (hn : parts.Nodup)
    (q : Query) :
    (q.giveAll options parts).outcome = forM parts fun part => q.outcomeOf part options := by
  induction parts generalizing q with
  | nil => rfl
  | cons part rest ih =>
    obtain ⟨hnot, hrest⟩ := List.nodup_cons.mp hn
    have hturn := give_outcome part options q
    have hleaves := give_leaves part options q
    have hlater : ∀ other ∈ rest, (q.give part options).state.outcomeOf other options
        = q.outcomeOf other options := by
      intro other ho
      exact hleaves.outcomeOf_eq (fun he => hnot (he ▸ ho)) options
    rw [List.forM_cons, ← hturn, ← forM_congr_of_mem hlater]
    unfold giveAll
    generalize q.give part options = a
    obtain ⟨events, s, outcome⟩ := a
    cases outcome with
    | error f => rfl
    | ok _ => exact ih hrest s

/-- What does not change when sections take their turns. -/
structure SameAim (q s : Query) : Prop where
  model : s.model = q.model
  keeper : s.keeper = q.keeper
  lookup : s.lookup = q.lookup
  identifier : s.identifier = q.identifier
  isReady : s.isReady = q.isReady

theorem SameAim.refl (q : Query) : SameAim q q := ⟨rfl, rfl, rfl, rfl, rfl⟩

theorem SameAim.trans {t : Query} (h : SameAim q s) (g : SameAim s t) : SameAim q t :=
  ⟨g.model.trans h.model, g.keeper.trans h.keeper, g.lookup.trans h.lookup,
    g.identifier.trans h.identifier, g.isReady.trans h.isReady⟩

theorem SameAim.isCollection_eq (h : SameAim q s) : s.isCollection = q.isCollection :=
  congrArg Value.isFalsy h.identifier

theorem Leaves.sameAim (h : q.Leaves part s) : SameAim q s := by
  cases h <;> exact ⟨rfl, rfl, rfl, rfl, rfl⟩

theorem giveAll_sameAim (options : Dict) (parts : List SectionName) (q : Query) :
    SameAim q (q.giveAll options parts).state := by
  induction parts generalizing q with
  | nil => exact .refl q
  | cons part rest ih =>
    have hturn := (give_leaves part options q).sameAim
    exact Act.andThen_state hturn fun _ hs => hs.trans (ih _)

theorem giveSections_sameAim (options : Dict) (q : Query) :
    SameAim q (q.giveSections options).state := by
  rw [giveSections_eq]
  exact giveAll_sameAim options _ q

/-! ## Other options -/

structure SameInput (part : SectionName) (a b : Dict) : Prop where
  own : a.get part.text = b.get part.text
  extra : part = .fields → extraFields a = extraFields b

variable {a b : Dict} {parts : List SectionName}

theorem SameInput.give_eq (h : SameInput part a b) (q : Query) : q.give part a = q.give part b := by
  have hown := h.own
  cases part with
  | fields => simp only [give, giveFields, hown, h.extra rfl]
  | embed => simp only [give, giveEmbed, hown]
  | sort => simp only [give, giveSort, hown]
  | filters => simp only [give, giveFilters, hown]
  | pagination => simp only [give, givePagination, hown]

/-- Options are the same to sections if they have the same for each of them. -/
theorem giveAll_congr (h : ∀ part ∈ parts, SameInput part a b) (q : Query) :
    q.giveAll a parts = q.giveAll b parts := by
  induction parts generalizing q with
  | nil => rfl
  | cons part rest ih =>
    have hrest : giveAll a rest = giveAll b rest :=
      funext fun s => ih (fun other ho => h other (List.mem_cons_of_mem part ho)) s
    simp only [giveAll, (h part (by simp)).give_eq, hrest]

/-- Other options may be removed. -/
theorem sameInput_without {names : List String} (hown : part.text ∉ names)
    (hextra : part = .fields → "extra_fields" ∉ names ∧ "extraFields" ∉ names) (options : Dict) :
    SameInput part options (options.without names) where
  own := by simp [Dict.get, Dict.get?_without, hown]
  extra := by
    intro hp
    obtain ⟨hsnake, hcamel⟩ := hextra hp
    simp [extraFields, Dict.get, Dict.get?_without, hsnake, hcamel]

/-- A value for a known option makes no option unknown. -/
theorem unknownOptions_put {name : String} (h : isOption name = true) (v : Value)
    (options : Dict) : unknownOptions (options.put (.text name) v) = unknownOptions options := by
  unfold unknownOptions
  rcases Dict.keys_put name v options with hk | hk
  · rw [hk]
  · simp [hk, Value.text?, h]

theorem unknownOptions_erase {name : String} (h : isOption name = true) (options : Dict) :
    unknownOptions (options.erase name) = unknownOptions options := by
  unfold unknownOptions
  rw [Dict.keys_erase]
  induction options.keys with
  | nil => rfl
  | cons k rest ih =>
    by_cases hk : k.same (.text name) = true
    · obtain rfl := Value.same_text.mp hk
      simpa [hk, Value.text?, h] using ih
    · simp [hk, List.filter_cons, ih]

/-- Options without some known ones have the same unknown ones. -/
theorem unknownOptions_without {names : List String} (h : ∀ name ∈ names, isOption name = true)
    (options : Dict) : unknownOptions (options.without names) = unknownOptions options := by
  induction names generalizing options with
  | nil => rfl
  | cons name rest ih =>
    have hstep : options.without (name :: rest) = (options.erase name).without rest := rfl
    rw [hstep, ih fun other ho => h other (List.mem_cons_of_mem name ho),
      unknownOptions_erase (h name (by simp))]

/-! ## Other settings -/

/-- The query with another keeper of settings and another lookup. -/
def tuned (keeper : Keeper) (lookup : Value) (q : Query) : Query := { q with keeper, lookup }

variable {keeper : Keeper}

theorem requireSection_tuned {hasInput : Bool} (lookup : Value)
    (h : hasInput = true → keeper.isEnabled part.text = q.keeper.isEnabled part.text) :
    (q.tuned keeper lookup).requireSection part hasInput = q.requireSection part hasInput := by
  cases hasInput with
  | false => rfl
  | true =>
    show keeper.requireEnabled q.model part.text = q.keeper.requireEnabled q.model part.text
    unfold Keeper.requireEnabled
    rw [h rfl]

/-- A section that gets something has to be switched on by both keepers or by none. -/
theorem give_tuned (lookup : Value)
    (h : hasInput part options = true → keeper.isEnabled part.text = q.keeper.isEnabled part.text) :
    (q.tuned keeper lookup).give part options
      = (q.give part options).mapState (tuned keeper lookup) := by
  have hr := requireSection_tuned lookup h
  cases part
  all_goals
    simp only [hasInput] at hr
    simp only [give, giveFields, giveEmbed, giveSort, giveFilters, givePagination, hr]
    split <;> rfl

theorem giveAll_tuned (lookup : Value)
    (h : ∀ part ∈ parts, hasInput part options = true →
      keeper.isEnabled part.text = q.keeper.isEnabled part.text) :
    (q.tuned keeper lookup).giveAll options parts
      = (q.giveAll options parts).mapState (tuned keeper lookup) := by
  induction parts generalizing q with
  | nil => rfl
  | cons part rest ih =>
    have hturn := give_tuned lookup (h part (by simp))
    have hkeeper := (give_leaves part options q).sameAim.keeper
    simp only [giveAll]
    rw [hturn]
    refine Act.mapState_andThen _ _ fun _ => ih fun other ho => ?_
    rw [hkeeper]
    exact h other (List.mem_cons_of_mem part ho)

/-- A lookup makes no difference: the query is for a collection, or has this lookup already. -/
def Ignores (lookup : Value) (q : Query) : Prop := q.isCollection = true ∨ lookup = q.lookup

/-- `compile` looks neither at the keeper nor at the lookup of a collection. -/
theorem compile_tuned {lookup : Value} (h : q.Ignores lookup) :
    (q.tuned keeper lookup).compile = q.compile := by
  have hi : (q.tuned keeper lookup).isCollection = q.isCollection := rfl
  unfold compile
  rw [hi]
  cases hc : q.isCollection with
  | true => rfl
  | false =>
    have hl : lookup = q.lookup := h.resolve_left (by simp [hc])
    subst hl
    rfl

theorem finish_tuned {lookup : Value} (watched : Bool) (h : q.Ignores lookup) :
    (q.tuned keeper lookup).finish watched = (q.finish watched).mapState (tuned keeper lookup) := by
  have hc : (tuned keeper lookup { q with isReady := true }).compile
      = compile { q with isReady := true } := compile_tuned h
  have hn : (tuned keeper lookup { q with isReady := true }).compiledNotice
      = compiledNotice { q with isReady := true } := by
    unfold compiledNotice
    rw [hc]
    rfl
  have hready : { q.tuned keeper lookup with isReady := true }
      = tuned keeper lookup { q with isReady := true } := rfl
  unfold finish
  simp only [hready, hn]
  split
  · split <;> rfl
  · rfl

end Query

/-! ## Requests that go alike -/

/-- Two requests go alike: with the same messages and the same outcome. What they leave behind
comes to the same, and gets the same handles. -/
structure Act.Alike (x y : Act Notice Query Unit) : Prop where
  events : x.events = y.events
  outcome : x.outcome = y.outcome
  compile : x.state.compile = y.state.compile
  handle : ∀ {H R : Type} (source : Source H R), x.state.handle source = y.state.handle source

theorem Act.Alike.of_compile {x y : Act Notice Query Unit} (he : x.events = y.events)
    (ho : x.outcome = y.outcome) (hc : x.state.compile = y.state.compile) : x.Alike y :=
  ⟨he, ho, hc, fun source => Query.handle_congr source hc⟩

theorem Act.Alike.refl (x : Act Notice Query Unit) : x.Alike x := .of_compile rfl rfl rfl

namespace Query

variable {q : Query} {keeper : Keeper} {a b : Dict} {v w identifier : Value}

theorem alike_tuned {x : Act Notice Query Unit} {lookup : Value} (h : x.state.Ignores lookup) :
    x.Alike (x.mapState (tuned keeper lookup)) :=
  .of_compile rfl rfl (compile_tuned h).symm

/-- Options that are no mapping are refused, whatever the settings are. -/
theorem take_alike_of_none (h : entriesOf v = none) (watched : Bool) :
    (q.take watched v identifier).Alike
      ({ q with keeper : Query }.take watched v identifier) := by
  rw [take_of_none h, take_of_none h]
  have hcompile : (q.tuned keeper q.lookup).compile = q.compile := compile_tuned (.inr rfl)
  exact .of_compile rfl rfl hcompile.symm

/-- The sections take their turns, and options are read after that, with other settings and another
lookup. -/
theorem proceed_alike {lookup : Value}
    (hinput : ∀ part ∈ SectionName.applying q.isCollection, SameInput part a b)
    (henabled : ∀ part ∈ SectionName.applying q.isCollection, hasInput part a = true →
      keeper.isEnabled part.text = q.keeper.isEnabled part.text)
    (hlookup : q.Ignores lookup) (watched : Bool) :
    ((q.giveSections a).andThen fun s _ => s.finish watched).Alike
      (((q.tuned keeper lookup).giveSections b).andThen fun s _ => s.finish watched) := by
  have hi : (q.tuned keeper lookup).isCollection = q.isCollection := rfl
  have hgiven : (q.tuned keeper lookup).giveSections b
      = (q.giveSections a).mapState (tuned keeper lookup) := by
    rw [giveSections_eq, giveSections_eq, hi, ← giveAll_congr hinput]
    exact giveAll_tuned lookup henabled
  have hstate : (q.giveSections a).state.Ignores lookup := by
    have hsame := giveSections_sameAim a q
    unfold Ignores
    rw [hsame.isCollection_eq, hsame.lookup]
    exact hlookup
  have hfinished : ((q.giveSections a).mapState (tuned keeper lookup)).andThen
        (fun s _ => s.finish watched)
      = ((q.giveSections a).andThen fun s _ => s.finish watched).mapState (tuned keeper lookup) :=
    Act.mapState_andThen _ _ fun _ => finish_tuned watched hstate
  rw [hgiven, hfinished]
  have hlast : ((q.giveSections a).andThen fun s _ => s.finish watched).state.Ignores lookup := by
    refine Act.andThen_state hstate fun _ hs => ?_
    rw [finish_state]
    exact hs
  exact alike_tuned hlast

/-- Two requests for the same document or for a collection go alike if the sections that apply are
given the same, and those that are given something are switched on in both queries or in none. -/
theorem take_alike (hv : entriesOf v = some a) (hw : entriesOf w = some b)
    (hunknown : unknownOptions a = unknownOptions b)
    (hinput : ∀ part ∈ SectionName.applying identifier.isFalsy, SameInput part a b)
    (henabled : ∀ part ∈ SectionName.applying identifier.isFalsy, hasInput part a = true →
      keeper.isEnabled part.text = q.keeper.isEnabled part.text)
    (hlookup : identifier.isFalsy = true ∨ a.get "indifier" = b.get "indifier")
    (watched : Bool) :
    (q.take watched v identifier).Alike
      ({ q with keeper : Query }.take watched w identifier) := by
  have hcollection := isCollection_aim a identifier q
  have haim : aim b identifier { q with keeper }
      = (q.aim a identifier).tuned keeper (b.get "indifier") := rfl
  have hignores : (q.aim a identifier).Ignores (b.get "indifier") :=
    hlookup.imp hcollection.trans Eq.symm
  rw [← hcollection] at hinput henabled
  rw [take_of_some hv, take_of_some hw, haim, ← hunknown]
  split
  · exact proceed_alike hinput henabled hignores watched
  · exact alike_tuned hignores

end Query
end QueryOptions
