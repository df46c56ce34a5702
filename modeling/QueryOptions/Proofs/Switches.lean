import QueryOptions.Proofs.Conduct
import QueryOptions.Proofs.Setup
import QueryOptions.Proofs.SectionOrder

/-!
# QueryOptions.Proofs.Switches

Sections that are switched off. Options that have something for such a section are refused, and the
model is never called; they are refused for this section, unless an option is unknown or a section
before this one refuses its input. All other requests go as if the section were switched on and not
mentioned (`Query.take_switched_off`).

* `Query.offOutcome`: why options are refused that use a section which is switched off;
* `Query.new_switchedOn`: the same query with one more section switched on;
* `Query.sameInput_unused`: a section that is given nothing need not be mentioned.
-/

namespace QueryOptions

/-! ## Switching a section on -/

theorem SectionName.switchOf_inj {part other : SectionName} :
    switchOf part.text = switchOf other.text ↔ part = other := by
  cases part <;> cases other <;> simp [switchOf, text]

namespace Settings

def switchedOn (part : SectionName) (settings : Dict) : Dict :=
  settings.put (.text (switchOf part.text)) (.bool true)

theorem valueOf_switchedOn {part : SectionName} {name : String} (h : switchOf part.text ≠ name)
    (settings : Dict) (default : Value) :
    valueOf (switchedOn part settings) name default = valueOf settings name default := by
  unfold valueOf switchedOn
  rw [Dict.get?_put_of_ne h]

theorem isOff_switchedOn {part other : SectionName} (h : part ≠ other) (settings : Dict) :
    isOff (switchedOn part settings) other.text = isOff settings other.text := by
  have hswitch : switchOf part.text ≠ switchOf other.text :=
    fun he => h (SectionName.switchOf_inj.mp he)
  unfold isOff
  rw [valueOf_switchedOn hswitch]

theorem isOff_switchedOn_self (part : SectionName) (settings : Dict) :
    isOff (switchedOn part settings) part.text = false := by
  unfold isOff valueOf switchedOn
  rw [Dict.get?_put_self]
  rfl

end Settings

namespace Keeper

theorem unknown_switchedOn (part : SectionName) (settings : Dict) :
    (ofSections (Settings.switchedOn part settings)).unknown = (ofSections settings).unknown := by
  -- which settings are known does not depend on their values
  have hkeys (entries : Dict) : (ofSections entries).unknown
      = entries.keys.filter fun key => !key.text?.any (ofSections []).knows := rfl
  have hknown : (ofSections []).knows (switchOf part.text) = true := by
    cases part <;> decide
  rw [hkeys, hkeys]
  unfold Settings.switchedOn
  rcases Dict.keys_put (switchOf part.text) (.bool true) settings with hk | hk
  · rw [hk]
  · simp [hk, Value.text?, hknown]

end Keeper

namespace SectionName

/-- The sections that take their turns before another one. -/
def before (part : SectionName) (isCollection : Bool) : List SectionName :=
  (applying isCollection).takeWhile fun other => other != part

theorem applying_split {part : SectionName} {isCollection : Bool}
    (h : part ∈ applying isCollection) :
    ∃ later, applying isCollection = before part isCollection ++ part :: later := by
  revert h
  cases isCollection <;> cases part <;> intro h
  all_goals first | exact ⟨_, rfl⟩ | exact absurd h (by decide)

def inputs : SectionName → List String
  | .fields => [SectionName.fields.text, "extra_fields", "extraFields"]
  | part => [part.text]

end SectionName

namespace Query

variable {library : Library} {model : String} {settings options : Dict} {q : Query}
  {part : SectionName} {identifier : Value}

theorem new_switchedOn (hnew : Query.new library model (.dict settings) = .ok q)
    (part : SectionName) :
    Query.new library model (.dict (Settings.switchedOn part settings))
      = .ok { q with keeper := .ofSections (Settings.switchedOn part settings) } := by
  have hmade := (new_ok_iff (Value.orElse_dict settings)).mp hnew
  refine (new_ok_iff (Value.orElse_dict _)).mpr ⟨?_, ?_, ?_, ?_, ?_⟩
  · rw [Settings.valueOf_switchedOn (by cases part <;> decide)]
    exact hmade.fields
  · rw [Settings.valueOf_switchedOn (by cases part <;> decide)]
    exact hmade.filters
  · rw [Settings.valueOf_switchedOn (by cases part <;> decide),
      Settings.valueOf_switchedOn (by cases part <;> decide),
      Settings.valueOf_switchedOn (by cases part <;> decide)]
    exact hmade.pagination
  · have hknown := hmade.known
    unfold Keeper.requireKnown at hknown ⊢
    rw [Keeper.unknown_switchedOn]
    exact hknown
  · rw [hmade.whole]

/-! ## Sections that are given nothing -/

theorem null_of_unused (hinput : hasInput part options = false) :
    options.get part.text = .null ∧ (part = .fields → extraFields options = .null) := by
  cases part with
  | fields =>
    simp only [hasInput, Bool.or_eq_false_iff, Bool.not_eq_false'] at hinput
    exact ⟨Value.isNull_iff.mp hinput.1, fun _ => Value.isNull_iff.mp hinput.2⟩
  | _ =>
    simp only [hasInput, Bool.not_eq_false'] at hinput
    refine ⟨Value.isNull_iff.mp hinput, fun he => ?_⟩
    cases he

/-- What is not given to a section need not be mentioned. -/
theorem sameInput_unused (hinput : hasInput part options = false) (other : SectionName) :
    SameInput other options (options.without part.inputs) := by
  obtain ⟨hown, hextra⟩ := null_of_unused hinput
  by_cases h : other = part
  · subst h
    have hmentioned : other.text ∈ other.inputs := by
      cases other <;> decide
    refine ⟨?_, fun hfields => ?_⟩
    · rw [hown]
      simp [Dict.get, Dict.get?_without, hmentioned]
    · rw [hextra hfields, hfields]
      simp [extraFields, Dict.get, Dict.get?_without, SectionName.inputs]
  · have hothers : other.text ∉ part.inputs := by
      revert h
      cases part <;> cases other <;> decide
    refine sameInput_without hothers (fun hfields => ?_) options
    subst hfields
    revert h
    cases part <;> decide

theorem entriesOf_without {v : Value} (h : entriesOf v = some options) (names : List String) :
    entriesOf (v.without names) = some (options.without names) := by
  have hnil : Dict.without names [] = [] := by
    induction names with
    | nil => rfl
    | cons name rest ih => exact ih
  cases v with
  | null =>
    obtain rfl := Option.some.inj h
    rw [hnil]
    rfl
  | dict entries =>
    obtain rfl := Option.some.inj h
    rfl
  | _ => cases h

/-- A request goes as if a section that it does not use were switched on and not mentioned. -/
theorem take_unused (hkeeper : q.keeper = .ofSections settings) {v : Value}
    (hinput : ∀ options, v = .dict options → hasInput part options = false) (watched : Bool) :
    (q.take watched v identifier).Alike
      ({ q with keeper := .ofSections (Settings.switchedOn part settings) : Query }.take watched
        (v.without part.inputs) identifier) := by
  cases hv : entriesOf v with
  | none =>
    have hsame : v.without part.inputs = v := by
      cases v <;> first | rfl | cases hv
    rw [hsame]
    exact take_alike_of_none hv watched
  | some options =>
    have hunused : hasInput part options = false := by
      cases v with
      | null =>
        obtain rfl := Option.some.inj hv
        cases part <;> rfl
      | dict entries =>
        obtain rfl := Option.some.inj hv
        exact hinput _ rfl
      | _ => cases hv
    have hnames : ∀ name ∈ part.inputs, isOption name = true := by
      cases part <;> decide
    have hunmentioned : "indifier" ∉ part.inputs := by
      cases part <;> decide
    have hlookup : options.get "indifier" = (options.without part.inputs).get "indifier" := by
      simp [Dict.get, Dict.get?_without, hunmentioned]
    refine take_alike hv (entriesOf_without hv _) (unknownOptions_without hnames options).symm
      (fun other _ => sameInput_unused hunused other) (fun other _ hother => ?_) (.inr hlookup)
      watched
    have hne : part ≠ other := by
      rintro rfl
      simp [hunused] at hother
    rw [hkeeper, Keeper.isEnabled_ofSections, Keeper.isEnabled_ofSections,
      Settings.isOff_switchedOn hne]

/-! ## Sections that are switched off -/

/-- Why options are refused that use a section which is switched off: an option is unknown, or a
section before this one refuses its input, or it is refused for this section. -/
def offOutcome (part : SectionName) (isCollection : Bool) (options : Dict) (q : Query) :
    Except Fault Unit :=
  match unknownOptions options with
  | [] => do
    forM (part.before isCollection) fun earlier => q.outcomeOf earlier options
    .error (.disabled part.text q.model)
  | names => .error (unknownFault names)

theorem offOutcome_error (part : SectionName) (isCollection : Bool) (options : Dict) (q : Query) :
    ∃ f, q.offOutcome part isCollection options = .error f := by
  unfold offOutcome
  split
  · cases forM (part.before isCollection) fun earlier => q.outcomeOf earlier options with
    | error f => exact ⟨f, rfl⟩
    | ok _ => exact ⟨_, rfl⟩
  · exact ⟨_, rfl⟩

theorem outcomeOf_off (hoff : q.keeper.isEnabled part.text = false)
    (hinput : hasInput part options = true) :
    q.outcomeOf part options = .error (.disabled part.text q.model) := by
  unfold outcomeOf requireSection Keeper.requireEnabled
  rw [hinput, hoff]
  rfl

theorem giveSections_off (hpart : part ∈ SectionName.applying q.isCollection)
    (hoff : q.keeper.isEnabled part.text = false) (hinput : hasInput part options = true) :
    (q.giveSections options).outcome = (do
      forM (part.before q.isCollection) fun earlier => q.outcomeOf earlier options
      .error (.disabled part.text q.model)) := by
  obtain ⟨later, hsplit⟩ := SectionName.applying_split hpart
  rw [giveSections_eq, giveAll_outcome options (SectionName.nodup_applying _), hsplit,
    List.forM_append, List.forM_cons, outcomeOf_off hoff hinput]
  rfl

/-- Before options have been read there are no handles. -/
theorem compile_of_not_ready (h : q.isReady = false) : q.compile = .error .notQueried := by
  unfold compile
  rw [h]
  rfl

/-- `take` of options that use a section which is switched off: the outcome is `offOutcome`, and
there is nothing to compile. -/
theorem take_off (hready : q.isReady = false)
    (hpart : part ∈ SectionName.applying identifier.isFalsy)
    (hoff : q.keeper.isEnabled part.text = false) (hinput : hasInput part options = true)
    (watched : Bool) :
    (q.take watched (.dict options) identifier).outcome
        = q.offOutcome part identifier.isFalsy options ∧
      (q.take watched (.dict options) identifier).state.compile = .error .notQueried := by
  have hcollection := isCollection_aim options identifier q
  rw [take_of_some rfl]
  unfold offOutcome
  cases unknownOptions options with
  | cons name names => exact ⟨rfl, compile_of_not_ready hready⟩
  | nil =>
    have hsections : ((q.aim options identifier).giveSections options).outcome = (do
        forM (part.before identifier.isFalsy) fun earlier => q.outcomeOf earlier options
        .error (.disabled part.text q.model)) := by
      rw [← hcollection] at hpart ⊢
      exact giveSections_off hpart hoff hinput
    have hsame := giveSections_sameAim options (q.aim options identifier)
    generalize (q.aim options identifier).giveSections options = given at hsections hsame
    obtain ⟨events, s, outcome⟩ := given
    obtain rfl : outcome = _ := hsections
    have hstate : s.compile = .error .notQueried :=
      compile_of_not_ready (hsame.isReady.trans hready)
    -- whoever of the sections refuses its input, options are not read any further
    dsimp only
    cases forM (part.before identifier.isFalsy) fun earlier => q.outcomeOf earlier options with
    | error f => exact ⟨rfl, hstate⟩
    | ok _ => exact ⟨rfl, hstate⟩

/-- What a call asks of the model when its options are refused. -/
theorem calls_of_refused {H R : Type} {source : Source H R} {watched : Bool} {callback : Value}
    {f : Fault} (h : (q.take watched (.dict options) identifier).outcome = .error f) :
    (q.load watched source (.dict options) identifier callback .null).calls = [] := by
  have hconditions : entriesOf (.dict options) = some options := rfl
  have hoptions : withExtra options .null = options := rfl
  unfold Act.calls
  rw [load_events source watched hconditions, hoptions, h]
  simp [filter_notices]

/-- A section that is switched off cannot be used. Options that have something for it are refused:
for an unknown option, for a section before this one, or for this one. Then the model is not called,
and there are no handles. Other options go as if the section were switched on and not mentioned. -/
theorem take_switched_off (hnew : Query.new library model (.dict settings) = .ok q)
    (hoff : Settings.isOff settings part.text = true)
    (hpart : part ∈ SectionName.applying identifier.isFalsy) (watched : Bool) :
    (∀ options, hasInput part options = true →
      let taken := q.take watched (.dict options) identifier
      taken.outcome = q.offOutcome part identifier.isFalsy options ∧
      (∃ f, taken.outcome = .error f) ∧
      ∀ {H R : Type} (source : Source H R),
        taken.state.handle source = .done () (.error .notQueried) ∧
        ∀ callback, (q.load watched source (.dict options) identifier callback .null).calls = []) ∧
    ∃ on, Query.new library model (.dict (Settings.switchedOn part settings)) = .ok on ∧
      on.keeper.isEnabled part.text = true ∧
      ∀ v, (∀ options, v = .dict options → hasInput part options = false) →
        (q.take watched v identifier).Alike
          (on.take watched (v.without part.inputs) identifier) := by
  have hmade := (new_ok_iff (Value.orElse_dict settings)).mp hnew
  have hkeeper : q.keeper = .ofSections settings := congrArg Query.keeper hmade.whole
  have hready : q.isReady = false := congrArg Query.isReady hmade.whole
  constructor
  · intro options hinput taken
    have hdisabled : q.keeper.isEnabled part.text = false := by
      rw [hkeeper, Keeper.isEnabled_ofSections, hoff]
      rfl
    obtain ⟨houtcome, hcompile⟩ := take_off hready hpart hdisabled hinput watched
    obtain ⟨f, hf⟩ := offOutcome_error part identifier.isFalsy options q
    exact ⟨houtcome, ⟨f, houtcome.trans hf⟩, fun source =>
      ⟨handle_eq_error source hcompile, fun _ => calls_of_refused (houtcome.trans hf)⟩⟩
  · refine ⟨_, new_switchedOn hnew part, ?_, fun v hv => take_unused hkeeper hv watched⟩
    rw [Keeper.isEnabled_ofSections, Settings.isOff_switchedOn_self]
    rfl

def withoutFields : Dict := [(.text "fields_enabled", .int 0)]

/-- Where fields are switched off, extra fields are refused, although there are no other fields. An
absent list of extra fields is none, whatever stands under the other spelling. -/
theorem withoutFields_refuse :
    ∃ q on : Query, Query.new Sample.library "Person" (.dict withoutFields) = .ok q ∧
      (q.take false (.dict [(.text "extraFields", .list [.text "name"]), (.text "sort", .int 5)])
        .null).outcome = .error (.disabled "fields" "Person") ∧
      (q.load false (Sample.recording none .null)
        (.dict [(.text "extraFields", .list [.text "name"]), (.text "sort", .int 5)]) .null .null
        .null).calls = [] ∧
      Query.new Sample.library "Person"
        (.dict [(.text "fields_enabled", .bool true)]) = .ok on ∧
      (q.take false (.dict [(.text "extra_fields", .list [.text "name"]),
          (.text "extraFields", .null), (.text "sort", .list [.text "-age"])]) .null).Alike
        (on.take false (.dict [(.text "sort", .list [.text "-age"])]) .null) := by
  have hoff : Settings.isOff withoutFields SectionName.fields.text = true := rfl
  have hpart : SectionName.fields ∈ SectionName.applying (Value.isFalsy .null) := by decide
  obtain ⟨hrefused, on, hon, -, halike⟩ := take_switched_off
    (rfl : Query.new Sample.library "Person" (.dict withoutFields) = .ok _) hoff hpart false
  obtain ⟨houtcome, -, hcalls⟩ :=
    hrefused [(.text "extraFields", .list [.text "name"]), (.text "sort", .int 5)] rfl
  have hunused := halike (.dict [(.text "extra_fields", .list [.text "name"]),
    (.text "extraFields", .null), (.text "sort", .list [.text "-age"])])
    (fun options h => by cases h; rfl)
  exact ⟨_, on, rfl, houtcome.trans rfl, (hcalls (Sample.recording none .null)).2 .null, hon,
    hunused⟩

end Query
end QueryOptions
