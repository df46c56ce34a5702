import Mathlib.Data.List.Basic
import QueryOptions.Proofs.KeptSettings
import QueryOptions.Proofs.Signatures
import QueryOptions.Proofs.SectionOrder

/-!
# QueryOptions.Proofs.CompleteSettings

Settings in full: the given ones, and the default values of all others. A query that is made with
them is the query that is made with the given ones alone, but for its keeper of settings, and both
keepers switch on the same sections. Nothing else is asked of a keeper once a query is made, so no
use of a query tells one from the other (`Query.new_complete`).

* `Settings.valueOf_full`, `Keeper.isEnabled_full`: settings in full are worth what the given ones
  are worth;
* `Query.new_full`: the query that is made with them;
* `Query.take_rekept`, `Query.load_rekept`, `Query.answers_rekept`: a query with another keeper, in
  one use after the other;
* `Entry.loadingWithSettings_last`: a call that is given settings by name does not use them for
  anything else.
-/

namespace QueryOptions

/-! ## Settings in full -/

namespace Settings

def named (settings : List (String × Value)) : Dict :=
  settings.map fun setting => (.text setting.1, setting.2)

theorem get?_named (settings : List (String × Value)) (name : String) :
    (named settings).get? (.text name) = settings.lookup name := by
  induction settings with
  | nil => rfl
  | cons setting rest ih =>
    obtain ⟨other, v⟩ := setting
    have hstep : Dict.get? (named ((other, v) :: rest)) (.text name)
        = if (Value.text other).same (.text name) then some v
          else (named rest).get? (.text name) := rfl
    rw [hstep, List.lookup_cons, ih]
    by_cases h : other = name
    · subst h
      simp [Value.same_text]
    · have hne : (name == other) = false := beq_eq_false_iff_ne.mpr (Ne.symm h)
      have hsame : (Value.text other).same (.text name) = false :=
        Value.same_text_eq_false fun he => h (Value.text.inj he)
      simp [hne, hsame]

variable {given : Dict}

/-- All settings, those that are not given with their default values. -/
def full (given : Dict) : Dict := named (pick given defaults)

theorem complete_eq (h : given.keys.all isSetting = true) : complete given = .ok (full given) := by
  unfold complete
  rw [if_pos h]
  rfl

theorem lookup_pick (settings : Dict) (parameters : List (String × Value)) (name : String) :
    (pick settings parameters).lookup name
      = (parameters.lookup name).map (valueOf settings name) := by
  induction parameters with
  | nil => rfl
  | cons p rest ih =>
    obtain ⟨other, default⟩ := p
    have hstep : pick settings ((other, default) :: rest)
        = (other, valueOf settings other default) :: pick settings rest := rfl
    rw [hstep, List.lookup_cons, List.lookup_cons, ih]
    split
    · rename_i h
      rw [beq_iff_eq.mp h]
      rfl
    · rfl

/-- A setting in full is worth what the given ones make it, whatever is asked for in its place. -/
theorem valueOf_full (name : String) {default : Value} (h : defaults.lookup name = some default)
    (given : Dict) (other : Value) :
    valueOf (full given) name other = valueOf given name default := by
  have hfull : (full given).get? (.text name) = some (valueOf given name default) := by
    rw [full, get?_named, lookup_pick, h]
    rfl
  rw [valueOf, hfull]
  rfl

/-- The list of all settings agrees with the signatures of the sections: it lists the settings of
each section with their default values, and a switch for each section. -/
theorem mem_defaults_iff (p : String × Value) :
    p ∈ defaults ↔
      ∃ part : SectionName, p ∈ part.parameters ∨ p = (switchOf part.text, .bool true) := by
  constructor
  · intro h
    simp only [defaults, List.mem_cons, List.not_mem_nil, or_false] at h
    rcases h with rfl | rfl | rfl | rfl | rfl | rfl | rfl | rfl | rfl | rfl
    · exact ⟨.fields, .inl (.head _)⟩
    · exact ⟨.filters, .inl (.head _)⟩
    · exact ⟨.pagination, .inl (.head _)⟩
    · exact ⟨.pagination, .inl (.tail _ (.head _))⟩
    · exact ⟨.pagination, .inl (.tail _ (.tail _ (.head _)))⟩
    · exact ⟨.fields, .inr rfl⟩
    · exact ⟨.embed, .inr rfl⟩
    · exact ⟨.filters, .inr rfl⟩
    · exact ⟨.sort, .inr rfl⟩
    · exact ⟨.pagination, .inr rfl⟩
  · rintro ⟨part, h | rfl⟩
    · have hparameters : ∀ p ∈ part.parameters, p ∈ defaults := by
        cases part <;>
          simp [SectionName.parameters, SectionName.signature, Signature.defaults,
            Signature.ofParameters, Signature.setting?, ParameterKind.isNamed, Parameter.required,
            Parameter.optional, defaults]
      exact hparameters p h
    · cases part <;> simp [SectionName.text, switchOf, defaults]

/-- No setting is listed twice. -/
theorem nodup_defaults : (defaults.map Prod.fst).Nodup := by decide

theorem lookup_of_mem {settings : List (String × Value)} (hnodup : (settings.map Prod.fst).Nodup)
    {name : String} {v : Value} (h : (name, v) ∈ settings) : settings.lookup name = some v := by
  induction settings with
  | nil => cases h
  | cons p rest ih =>
    obtain ⟨other, w⟩ := p
    rw [List.map_cons, List.nodup_cons] at hnodup
    rw [List.lookup_cons]
    cases h with
    | head => simp
    | tail _ h =>
      have hname : name ∈ rest.map Prod.fst := List.mem_map.mpr ⟨_, h, rfl⟩
      have hne : (name == other) = false :=
        beq_eq_false_iff_ne.mpr fun he => hnodup.1 (he ▸ hname)
      rw [hne]
      exact ih hnodup.2 h

/-- A setting of a section in full is worth what the given ones make it. -/
theorem valueOf_parameter {part : SectionName} {name : String} {default : Value}
    (h : (name, default) ∈ part.parameters) (given : Dict) :
    valueOf (full given) name default = valueOf given name default :=
  valueOf_full name (lookup_of_mem nodup_defaults ((mem_defaults_iff _).mpr ⟨part, .inl h⟩)) given
    default

theorem isOff_full (given : Dict) (part : SectionName) :
    isOff (full given) part.text = isOff given part.text := by
  have hswitch := (mem_defaults_iff (switchOf part.text, .bool true)).mpr ⟨part, .inr rfl⟩
  unfold isOff
  rw [valueOf_full _ (lookup_of_mem nodup_defaults hswitch)]

theorem keys_full (given : Dict) : (full given).keys.all isSetting = true := by
  have hkeys : (full given).keys = defaults.map fun p => .text p.1 := by
    simp [full, named, pick, Dict.keys, Function.comp_def]
  rw [hkeys]
  decide

end Settings

namespace Keeper

theorem isEnabled_full (given : Dict) (part : SectionName) :
    (ofSections (Settings.full given)).isEnabled part.text
      = (ofSections given).isEnabled part.text := by
  rw [isEnabled_ofSections, isEnabled_ofSections, Settings.isOff_full]

/-- Every setting is known to the sections. -/
theorem requireKnown_ofSections {settings : Dict} (h : settings.keys.all Settings.isSetting = true)
    (owner : String) : (ofSections settings).requireKnown owner = .ok () := by
  have hknown : ∀ p ∈ Settings.defaults, (ofSections settings).knows p.1 = true := by
    have hanyone : (ofSections settings).knows = (ofSections []).knows := rfl
    rw [hanyone]
    decide
  have hnone : (ofSections settings).unknown = [] := by
    refine List.filter_eq_nil_iff.mpr fun key hkey => ?_
    have hs := List.all_eq_true.mp h key hkey
    cases key with
    | text name =>
      obtain ⟨p, hp, hname⟩ := List.any_eq_true.mp hs
      rw [Value.text?, Option.any_some, ← beq_iff_eq.mp hname, hknown p hp]
      simp
    | _ => cases hs
  rw [requireKnown_eq, if_pos hnone]

end Keeper

/-! ## Queries with another keeper -/

theorem Act.mapEvents_mapState {E F σ τ α : Type} (f : E → F) (g : σ → τ) (a : Act E σ α) :
    (a.mapState g).mapEvents f = (a.mapEvents f).mapState g := rfl

namespace Query

variable {q : Query} {keeper : Keeper}

def rekept (keeper : Keeper) (q : Query) : Query := { q with keeper }

/-- A keeper switches on the sections that the keeper of a query switches on. -/
def SameSwitches (keeper : Keeper) (q : Query) : Prop :=
  ∀ part : SectionName, keeper.isEnabled part.text = q.keeper.isEnabled part.text

/-- Settings in full make the same query, but for its keeper. -/
theorem new_full (library : Library) (model : String) {given : Dict}
    (h : given.keys.all Settings.isSetting = true) :
    Query.new library model (.dict (Settings.full given))
      = (Query.new library model (.dict given)).map
          (rekept (Keeper.ofSections (Settings.full given))) := by
  have hfull := Settings.keys_full given
  rw [new_eq library model (Value.orElse_dict _), new_eq library model (Value.orElse_dict _)]
  dsimp only
  have hinclude : ("force_include", Value.null) ∈ SectionName.fields.parameters := .head _
  have hoperators : ("operators", Value.null) ∈ SectionName.filters.parameters := .head _
  have hpage : ("default_page", Value.int 1) ∈ SectionName.pagination.parameters := .head _
  have hsize : ("default_size", Value.int 30) ∈ SectionName.pagination.parameters :=
    .tail _ (.head _)
  have hbound : ("max_size", Value.null) ∈ SectionName.pagination.parameters :=
    .tail _ (.tail _ (.head _))
  rw [Keeper.requireKnown_ofSections h, Keeper.requireKnown_ofSections hfull,
    Settings.valueOf_parameter hinclude, Settings.valueOf_parameter hoperators,
    Settings.valueOf_parameter hpage, Settings.valueOf_parameter hsize,
    Settings.valueOf_parameter hbound]
  cases Fields.new (Settings.valueOf given "force_include" .null) with
  | error f => rfl
  | ok fields =>
    cases Filters.new library (Settings.valueOf given "operators" .null) with
    | error f => rfl
    | ok filters =>
      cases Pagination.new
          ⟨Settings.valueOf given "default_page" (.int 1),
            Settings.valueOf given "default_size" (.int 30),
            Settings.valueOf given "max_size" .null⟩ <;>
        rfl

theorem sameSwitches_full {library : Library} {model : String} {given : Dict}
    (h : Query.new library model (.dict given) = .ok q) :
    SameSwitches (Keeper.ofSections (Settings.full given)) q := by
  have hmade := (new_ok_iff (Value.orElse_dict given)).mp h
  intro part
  rw [hmade.whole]
  exact Keeper.isEnabled_full given part

/-! ### Options -/

theorem mapState_tuned {E α : Type} {a : Act E Query α} (h : a.state.lookup = q.lookup)
    (keeper : Keeper) : a.mapState (tuned keeper q.lookup) = a.mapState (rekept keeper) := by
  have hstate : tuned keeper q.lookup a.state = rekept keeper a.state := by
    rw [← h]
    rfl
  exact congrArg (fun s => Act.mk _ s _) hstate

theorem giveSections_rekept (h : SameSwitches keeper q) (options : Dict) :
    (q.rekept keeper).giveSections options
      = (q.giveSections options).mapState (rekept keeper) := by
  have hi : (q.tuned keeper q.lookup).isCollection = q.isCollection := rfl
  have hgiven : (q.tuned keeper q.lookup).giveSections options
      = (q.giveSections options).mapState (tuned keeper q.lookup) := by
    rw [giveSections_eq, giveSections_eq, hi]
    exact giveAll_tuned q.lookup fun part _ _ => h part
  exact hgiven.trans (mapState_tuned (giveSections_sameAim options q).lookup keeper)

theorem finish_rekept (watched : Bool) (q : Query) :
    (q.rekept keeper).finish watched = (q.finish watched).mapState (rekept keeper) := by
  have hfinished : (q.tuned keeper q.lookup).finish watched
      = (q.finish watched).mapState (tuned keeper q.lookup) := finish_tuned watched (.inr rfl)
  have hlookup : (q.finish watched).state.lookup = q.lookup := by rw [finish_state]
  exact hfinished.trans (mapState_tuned hlookup keeper)

/-- Options are read the same with a keeper that switches on the same sections. -/
theorem take_rekept (h : SameSwitches keeper q) (watched : Bool) (v identifier : Value) :
    (q.rekept keeper).take watched v identifier
      = (q.take watched v identifier).mapState (rekept keeper) := by
  cases hv : entriesOf v with
  | none =>
    rw [take_of_none hv, take_of_none hv]
    rfl
  | some options =>
    have haim : (q.rekept keeper).aim options identifier
        = (q.aim options identifier).rekept keeper := rfl
    have haimed : SameSwitches keeper (q.aim options identifier) := h
    rw [take_of_some hv, take_of_some hv, haim]
    split
    · rw [giveSections_rekept haimed]
      exact Act.mapState_andThen _ _ fun _ => finish_rekept watched _
    · rfl

/-- A keeper that each of two actions preserves is preserved by both together. -/
theorem keeper_andThen {E α β : Type} {a : Act E Query α} {next : Query → α → Act E Query β}
    (ha : a.state.keeper = keeper)
    (hnext : ∀ v, a.state.keeper = keeper → (next a.state v).state.keeper = keeper) :
    (a.andThen next).state.keeper = keeper :=
  @Act.andThen_state _ _ _ _ _ _ (fun s : Query => s.keeper = keeper) ha hnext

theorem take_keeper (watched : Bool) (v identifier : Value) (q : Query) :
    (q.take watched v identifier).state.keeper = q.keeper := by
  cases hv : entriesOf v with
  | none =>
    rw [take_of_none hv]
    rfl
  | some options =>
    rw [take_of_some hv]
    split
    · have hgiven := (giveSections_sameAim options (q.aim options identifier)).keeper
      refine keeper_andThen hgiven fun _ hs => ?_
      rw [finish_state]
      exact hs
    · rfl

/-! ### Handles and calls -/

variable {H R : Type}

theorem compile_rekept (keeper : Keeper) (q : Query) : (q.rekept keeper).compile = q.compile := by
  have htuned : (q.tuned keeper q.lookup).compile = q.compile := compile_tuned (.inr rfl)
  exact htuned

theorem handle_rekept (source : Source H R) (keeper : Keeper) (q : Query) :
    (q.rekept keeper).handle source = q.handle source :=
  handle_congr source (compile_rekept keeper q)

theorem exec_rekept (source : Source H R) (callback : Value) (keeper : Keeper) (q : Query) :
    (q.rekept keeper).exec source callback = q.exec source callback := by
  unfold exec
  rw [handle_rekept]

theorem load_rekept (h : SameSwitches keeper q) (watched : Bool) (source : Source H R)
    (conditions identifier callback extra : Value) :
    (q.rekept keeper).load watched source conditions identifier callback extra
      = (q.load watched source conditions identifier callback extra).mapState (rekept keeper) := by
  unfold load
  dsimp only
  split
  · rfl
  · rw [take_rekept h, Act.mapEvents_mapState]
    refine Act.mapState_andThen _ _ fun _ => ?_
    rw [handle_rekept, exec_rekept]
    split <;> rfl

theorem load_keeper (watched : Bool) (source : Source H R)
    (conditions identifier callback extra : Value) (q : Query) :
    (q.load watched source conditions identifier callback extra).state.keeper = q.keeper := by
  unfold load
  dsimp only
  split
  · rfl
  · refine keeper_andThen (take_keeper watched _ identifier q) fun _ hs => ?_
    split <;> exact hs

theorem run_rekept (h : SameSwitches keeper q) (watched : Bool) (source : Source H R)
    (loading : Loading) :
    (q.rekept keeper).run watched source loading
      = (q.run watched source loading).mapState (rekept keeper) := by
  rcases run_loads (H := H) (R := R) loading with ⟨f, hrun⟩ | ⟨_, _, _, _, hrun⟩
  · rw [hrun, hrun]
    rfl
  · rw [hrun, hrun]
    exact load_rekept h watched source _ _ _ _

theorem run_keeper (watched : Bool) (source : Source H R) (loading : Loading) (q : Query) :
    (q.run watched source loading).state.keeper = q.keeper := by
  rcases run_loads (H := H) (R := R) loading with ⟨f, hrun⟩ | ⟨_, _, _, _, hrun⟩
  · rw [hrun]
    rfl
  · rw [hrun]
    exact load_keeper watched source _ _ _ _ q

/-! ## Uses of a query -/

inductive Use (H R : Type) where
  /-- It is given options. -/
  | take (watched : Bool) (options identifier : Value)
  /-- It is compiled. -/
  | compile
  /-- It gets a handle and configures it. -/
  | handle (source : Source H R)
  /-- It gets a handle, configures and executes it. -/
  | exec (source : Source H R) (callback : Value)
  /-- It is called with arguments. -/
  | enter (watched : Bool) (source : Source H R) (e : Entry) (arguments : Arguments)

/-- What a use comes to: what happens, and what it gives back. -/
inductive Answer (H R : Type) where
  | taken (notices : List Notice) (outcome : Except Fault Unit)
  | compiled (outcome : Except Fault CompiledQuery)
  | handled (events : List (Event R)) (outcome : Except Fault H)
  | replied (events : List (Event R)) (outcome : Except Fault (Reply H R))

def answer (q : Query) : Use H R → Query × Answer H R
  | .take watched options identifier =>
    let a := q.take watched options identifier
    (a.state, .taken a.events a.outcome)
  | .compile => (q, .compiled q.compile)
  | .handle source =>
    let a := q.handle source
    (q, .handled a.events a.outcome)
  | .exec source callback =>
    let a := q.exec source callback
    (q, .replied a.events a.outcome)
  | .enter watched source e arguments =>
    let a := q.enter watched source e arguments
    (a.state, .replied a.events a.outcome)

def answers (q : Query) : List (Use H R) → List (Answer H R)
  | [] => []
  | u :: rest =>
    let (q, a) := q.answer u
    a :: answers q rest

theorem answer_rekept (h : SameSwitches keeper q) (u : Use H R) :
    (q.rekept keeper).answer u = ((q.answer u).1.rekept keeper, (q.answer u).2) := by
  cases u with
  | take watched options identifier =>
    simp only [answer, take_rekept h]
    rfl
  | compile => simp only [answer, compile_rekept]
  | handle source => simp only [answer, handle_rekept]
  | exec source callback => simp only [answer, exec_rekept]
  | enter watched source e arguments =>
    simp only [answer, enter]
    cases e.loading arguments with
    | error f => rfl
    | ok loading =>
      simp only [run_rekept h]
      rfl

theorem answer_keeper (u : Use H R) (q : Query) : (q.answer u).1.keeper = q.keeper := by
  cases u with
  | take watched options identifier => exact take_keeper watched options identifier q
  | compile => rfl
  | handle source => rfl
  | exec source callback => rfl
  | enter watched source e arguments =>
    simp only [answer, enter]
    split
    · rfl
    · exact run_keeper watched source _ q

/-- A keeper that switches on the same sections makes no difference to any uses. -/
theorem answers_rekept (h : SameSwitches keeper q) (uses : List (Use H R)) :
    (q.rekept keeper).answers uses = q.answers uses := by
  induction uses generalizing q with
  | nil => rfl
  | cons u rest ih =>
    have hnext : SameSwitches keeper (q.answer u).1 := by
      unfold SameSwitches
      rw [answer_keeper u q]
      exact h
    simp only [answers, answer_rekept h, ih hnext]

end Query

/-! ## Calls that are given settings -/

theorem Dict.keys_put_congr (key v w : Value) (entries : Dict) :
    (entries.put key v).keys = (entries.put key w).keys := by
  induction entries with
  | nil => rfl
  | cons entry rest ih =>
    obtain ⟨k, u⟩ := entry
    unfold put
    split
    · rfl
    · exact congrArg (k :: ·) ih

namespace Arguments

variable {parameters : List Parameter} {last : Parameter}

/-- Values that are the same whatever the last one is, `n` of them without it. They may be refused
as well, whatever it is. -/
def IsFixedBut (n : Nat) (values : Value → Except Fault (List Value)) : Prop :=
  ∃ fixed : Except Fault (List Value),
    (∀ others, fixed = .ok others → others.length = n) ∧
    ∀ v, values v = fixed.map (· ++ [v])

theorem IsFixedBut.refused {values : Value → Except Fault (List Value)}
    (h : ∀ v, values v = .error .mismatch) (n : Nat) : IsFixedBut n values := by
  refine ⟨.error .mismatch, fun _ hothers => ?_, h⟩
  cases hothers

theorem IsFixedBut.cons {n : Nat} {values : Value → Except Fault (List Value)}
    (h : IsFixedBut n values) (w : Value) :
    IsFixedBut (n + 1) fun v => (values v).map (w :: ·) := by
  obtain ⟨fixed, hlength, hvalues⟩ := h
  refine ⟨fixed.map (w :: ·), fun others hothers => ?_, fun v => ?_⟩
  · obtain ⟨rest, hrest, rfl⟩ := map_eq_ok_iff.mp hothers
    exact congrArg (· + 1) (hlength rest hrest)
  · dsimp only
    rw [hvalues]
    cases fixed <;> rfl

/-- Whatever the last parameter is given under its name becomes the last value, if the arguments
can be matched at all. -/
theorem assign_last (names : Dict) (hlast : ∀ p ∈ parameters, p.name ≠ last.name)
    (places : List Value) :
    IsFixedBut parameters.length fun v =>
      assign (names.put (.text last.name) v) (parameters ++ [last]) places := by
  induction parameters generalizing places with
  | nil =>
    cases places with
    | nil =>
      refine ⟨.ok [], fun _ h => by cases h; rfl, fun v => ?_⟩
      simp only [List.nil_append, assign, Dict.get?_put_self]
      rfl
    | cons w rest =>
      refine .refused (fun v => ?_) _
      simp only [List.nil_append, assign, Dict.has, Dict.get?_put_self]
      rfl
  | cons p parameters ih =>
    have hp : last.name ≠ p.name := (hlast p (by simp)).symm
    have hrest : ∀ p ∈ parameters, p.name ≠ last.name := fun p hp =>
      hlast p (List.mem_cons_of_mem _ hp)
    simp only [List.cons_append, List.length_cons]
    cases places with
    | nil =>
      simp only [assign, Dict.get?_put_of_ne hp]
      cases (names.get? (.text p.name)).or p.default with
      | none => exact .refused (fun _ => rfl) _
      | some w => exact (ih hrest []).cons w
    | cons w rest =>
      simp only [assign, Dict.has, Dict.get?_put_of_ne hp]
      cases (names.get? (.text p.name)).isSome with
      | true => exact .refused (fun _ => rfl) _
      | false => exact (ih hrest rest).cons w

/-- Arguments of a call on a new query, with settings under their name. -/
def withSettings (arguments : Arguments) (settings : Value) : Arguments :=
  { arguments with names := arguments.names.put (.text Query.settingsParameter.name) settings }

theorem values_last (hlast : ∀ p ∈ parameters, p.name ≠ Query.settingsParameter.name)
    (arguments : Arguments) :
    IsFixedBut parameters.length fun v =>
      (arguments.withSettings v).values (parameters ++ [Query.settingsParameter]) := by
  obtain ⟨places, names⟩ := arguments
  have hkeys (v : Value) : (names.put (.text Query.settingsParameter.name) v).keys
      = (names.put (.text Query.settingsParameter.name) .null).keys := Dict.keys_put_congr _ _ _ _
  unfold values withSettings
  simp only [hkeys]
  split
  · exact assign_last names hlast places
  · exact .refused (fun _ => rfl) _

end Arguments

namespace Entry

/-- Settings under their name are not used for anything else in a call. -/
theorem matchWith_last (e : Entry) (arguments : Arguments) :
    ∃ matched : Except Fault Loading, ∀ settings,
      e.matchWith [Query.settingsParameter] (arguments.withSettings settings)
        = matched.map fun loading => (loading, [settings]) := by
  have hother : ∀ p ∈ e.parameters, p.name ≠ Query.settingsParameter.name := by
    cases e <;> decide
  cases e with
  | filter =>
    obtain ⟨fixed, hlength, hvalues⟩ :=
      Arguments.values_last hother { arguments with places := [] }
    have hnamed (settings : Value) : (arguments.withSettings settings).named
        (Entry.filter.parameters ++ [Query.settingsParameter]) = fixed.map (· ++ [settings]) :=
      hvalues settings
    cases fixed with
    | error f =>
      refine ⟨.error f, fun settings => ?_⟩
      simp only [matchWith, hnamed]
      rfl
    | ok values =>
      obtain ⟨extra, rfl⟩ := List.length_eq_one_iff.mp (hlength values rfl)
      refine ⟨.ok (.any arguments.places extra), fun settings => ?_⟩
      simp only [matchWith, hnamed]
      rfl
  | filterOne =>
    obtain ⟨fixed, hlength, hvalues⟩ := Arguments.values_last hother arguments
    cases fixed with
    | error f =>
      refine ⟨.error f, fun settings => ?_⟩
      simp only [matchWith, hvalues]
      rfl
    | ok values =>
      obtain ⟨identifier, conditions, callback, extra, rfl⟩ :=
        List.length_eq_four.mp (hlength values rfl)
      refine ⟨.ok (.one identifier conditions callback extra), fun settings => ?_⟩
      simp only [matchWith, hvalues]
      rfl
  | filterMany =>
    obtain ⟨fixed, hlength, hvalues⟩ := Arguments.values_last hother arguments
    cases fixed with
    | error f =>
      refine ⟨.error f, fun settings => ?_⟩
      simp only [matchWith, hvalues]
      rfl
    | ok values =>
      obtain ⟨conditions, callback, extra, rfl⟩ := List.length_eq_three.mp (hlength values rfl)
      refine ⟨.ok (.many conditions callback extra), fun settings => ?_⟩
      simp only [matchWith, hvalues]
      rfl

theorem loadingWithSettings_last (e : Entry) (arguments : Arguments) :
    ∃ matched : Except Fault Loading, ∀ settings,
      e.loadingWithSettings (arguments.withSettings settings)
        = matched.map fun loading => (loading, settings) := by
  obtain ⟨matched, hmatched⟩ := e.matchWith_last arguments
  refine ⟨matched, fun settings => ?_⟩
  have hsettings : e.loadingWithSettings (arguments.withSettings settings)
      = (e.matchWith [Query.settingsParameter] (arguments.withSettings settings)).map
          fun m => (m.1, m.2.headD .null) := rfl
  rw [hsettings, hmatched]
  cases matched <;> rfl

end Entry

namespace Query

variable {given : Dict}

theorem enterNew_full {H R : Type} (h : given.keys.all Settings.isSetting = true) (watched : Bool)
    (library : Library) (model : String) (source : Source H R) (e : Entry)
    (arguments : Arguments) :
    enterNew watched library model source e
        (arguments.withSettings (.dict (Settings.full given)))
      = enterNew watched library model source e (arguments.withSettings (.dict given)) := by
  obtain ⟨matched, hmatched⟩ := e.loadingWithSettings_last arguments
  unfold enterNew
  rw [hmatched, hmatched]
  rcases matched with f | loading
  · rfl
  · dsimp only [Except.map]
    rw [new_full library model h]
    cases hq : Query.new library model (.dict given) with
    | error f => rfl
    | ok q =>
      dsimp only [Except.map]
      rw [run_rekept (sameSwitches_full hq)]
      rfl

/-- Settings in full and the given settings alone cannot be told apart. Both are refused with the
same fault, or they make queries that come to the same in any uses, one after the other; and calls
that are given them go the same. -/
theorem new_complete (library : Library) (model : String) {given : Dict}
    (h : given.keys.all Settings.isSetting = true) :
    ∃ all, Settings.complete given = .ok all ∧
      (∀ {H R : Type} (uses : List (Use H R)),
        (Query.new library model (.dict all)).map (answers · uses)
          = (Query.new library model (.dict given)).map (answers · uses)) ∧
      ∀ {H R : Type} (watched : Bool) (source : Source H R) (e : Entry) (arguments : Arguments),
        enterNew watched library model source e (arguments.withSettings (.dict all))
          = enterNew watched library model source e (arguments.withSettings (.dict given)) := by
  refine ⟨Settings.full given, Settings.complete_eq h, fun uses => ?_,
    fun watched source e arguments => enterNew_full h watched library model source e arguments⟩
  rw [new_full library model h]
  cases hq : Query.new library model (.dict given) with
  | error f => rfl
  | ok q => exact congrArg Except.ok (answers_rekept (sameSwitches_full hq) uses)

/-- Pages of at most five rows, and no sort. -/
def cappedSettings : Dict := [(.text "max_size", .int 5), (.text "sort_enabled", .bool false)]

/-- In full they cut a page and refuse a sort as well. -/
theorem cappedSettings_complete :
    ∃ all, Settings.complete cappedSettings = .ok all ∧ all.keys.length = 10 ∧
      (Query.new Sample.library "Person" (.dict all)).map
          (answers · [.enter false (Sample.recording none .null) .filterMany ⟨[], []⟩,
            .take false .null .null])
        = .ok [.replied [.opened (.find none), .taken (.limit (.int 5)), .taken (.skip (.int 0))]
              (.ok (.handle ())),
            .taken [] (.error (.consumed "MongoFilter"))] ∧
      (enterNew false Sample.library "Person" (Sample.recording none .null) .filterMany
          (Arguments.withSettings ⟨[.dict [(.text "sort", .list [.text "age"])]], []⟩
            (.dict all))).outcome
        = .error (.disabled "sort" "Person") := by
  obtain ⟨all, hall, huses, hcalls⟩ := new_complete Sample.library "Person"
    (show cappedSettings.keys.all Settings.isSetting = true by decide)
  refine ⟨all, hall, ?_, (huses _).trans rfl, ?_⟩
  · cases hall
    rfl
  · rw [hcalls]
    rfl

end Query
end QueryOptions
