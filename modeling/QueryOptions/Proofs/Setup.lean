import QueryOptions.Proofs.Outcomes
import QueryOptions.Query

/-!
# QueryOptions.Proofs.Setup

What settings make of a new query. Each section is made from its own parameters, and all sections
ask one keeper, which then tells which of them are switched on.

* `Query.new_eq`: the parts of a new query;
* `Keeper.isEnabled_ofSections`: a section is switched on unless its switch says otherwise.
-/

namespace QueryOptions

theorem SectionName.text_inj {part other : SectionName} :
    part.text = other.text ↔ part = other := by
  cases part <;> cases other <;> simp [text]

theorem Value.orElse_dict (entries : Dict) :
    Value.orElse (.dict entries) (.dict []) = .dict entries := by
  cases entries <;> rfl

def Settings.isOff (settings : Dict) (name : String) : Bool :=
  (valueOf settings (switchOf name) (.bool true)).isFalsy

namespace Keeper

/-- The keeper after sections have asked for their settings. -/
def takeAll (parts : List SectionName) (k : Keeper) : Keeper :=
  parts.foldl (fun k part => (k.take part.text part).1) k

def ofSections (settings : Dict) : Keeper := takeAll SectionName.all { settings }

theorem isEnabled_ask (k : Keeper) (name other : String) (s : Signature) :
    (k.ask name s).1.isEnabled other
      = (k.isEnabled other && !(other == name && Settings.isOff k.settings name)) := by
  unfold isEnabled ask Settings.isOff
  dsimp only
  split
  · rename_i hoff
    rw [hoff, List.contains_cons, Bool.not_or, Bool.and_comm, Bool.and_true]
  · rename_i hoff
    simp [hoff]

theorem isEnabled_take (k : Keeper) (name other : String) (part : SectionName) :
    (k.take name part).1.isEnabled other
      = (k.isEnabled other && !(other == name && Settings.isOff k.settings name)) :=
  isEnabled_ask k name other part.signature

theorem isEnabled_takeAll (parts : List SectionName) (k : Keeper) (part : SectionName) :
    (takeAll parts k).isEnabled part.text
      = (k.isEnabled part.text
        && !(parts.contains part && Settings.isOff k.settings part.text)) := by
  induction parts generalizing k with
  | nil => simp [takeAll]
  | cons other rest ih =>
    have hstep : takeAll (other :: rest) k = takeAll rest (k.take other.text other).1 := rfl
    rw [hstep, ih, isEnabled_take, take_settings]
    by_cases h : part = other
    · subst h
      cases k.isEnabled part.text <;> cases Settings.isOff k.settings part.text <;> simp
    · have hne : (part.text == other.text) = false :=
        beq_eq_false_iff_ne.mpr fun he => h (SectionName.text_inj.mp he)
      simp [h, hne]

/-- A section is switched on unless its switch says otherwise. -/
theorem isEnabled_ofSections (settings : Dict) (part : SectionName) :
    (ofSections settings).isEnabled part.text = !Settings.isOff settings part.text := by
  have hall : SectionName.all.contains part = true := by
    cases part <;> rfl
  unfold ofSections
  rw [isEnabled_takeAll, hall]
  rfl

end Keeper

namespace Query

/-- Settings that are a mapping make each section from its own parameters. -/
theorem new_eq {settings : Value} {entries : Dict} (library : Library) (model : String)
    (h : settings.orElse (.dict []) = .dict entries) :
    Query.new library model settings = (do
      let fields ← Fields.new (Settings.valueOf entries "force_include" .null)
      let filters ← Filters.new library (Settings.valueOf entries "operators" .null)
      let pagination ← Pagination.new
        ⟨Settings.valueOf entries "default_page" (.int 1),
          Settings.valueOf entries "default_size" (.int 30),
          Settings.valueOf entries "max_size" .null⟩
      let keeper := Keeper.ofSections entries
      keeper.requireKnown (writtenFor model)
      return { model, keeper, fields, embed := .new, sorting := .new, filters, pagination }) := by
  have hkeeper :
      (((((({ settings := entries } : Keeper).take SectionName.fields.text .fields).1.take
      SectionName.embed.text .embed).1.take SectionName.sort.text .sort).1.take
      SectionName.filters.text .filters).1.take SectionName.pagination.text .pagination).1
        = Keeper.ofSections entries := rfl
  have hfields : parameter (Settings.pick entries SectionName.fields.parameters) "force_include"
      = Settings.valueOf entries "force_include" .null := rfl
  have hfilters : parameter (Settings.pick entries SectionName.filters.parameters) "operators"
      = Settings.valueOf entries "operators" .null := rfl
  have hpage : parameter (Settings.pick entries SectionName.pagination.parameters) "default_page"
      = Settings.valueOf entries "default_page" (.int 1) := rfl
  have hsize : parameter (Settings.pick entries SectionName.pagination.parameters) "default_size"
      = Settings.valueOf entries "default_size" (.int 30) := rfl
  have hbound : parameter (Settings.pick entries SectionName.pagination.parameters) "max_size"
      = Settings.valueOf entries "max_size" .null := rfl
  unfold Query.new
  rw [h]
  simp only [Keeper.ofValue, hkeeper, Keeper.take_snd, Keeper.take_settings, hfields, hfilters,
    hpage, hsize, hbound]
  cases Fields.new (Settings.valueOf entries "force_include" .null) with
  | error f => rfl
  | ok fields =>
    cases Filters.new library (Settings.valueOf entries "operators" .null) with
    | error f => rfl
    | ok filters =>
      cases Pagination.new ⟨Settings.valueOf entries "default_page" (.int 1),
          Settings.valueOf entries "default_size" (.int 30),
          Settings.valueOf entries "max_size" .null⟩ with
      | error f => rfl
      | ok pagination =>
        dsimp only
        cases (Keeper.ofSections entries).requireKnown (writtenFor model) <;> rfl

/-- What a query is when it has been made from settings. -/
structure MadeFrom (library : Library) (model : String) (entries : Dict) (q : Query) : Prop where
  fields : Fields.new (Settings.valueOf entries "force_include" .null) = .ok q.fields
  filters : Filters.new library (Settings.valueOf entries "operators" .null) = .ok q.filters
  pagination : Pagination.new
    ⟨Settings.valueOf entries "default_page" (.int 1),
      Settings.valueOf entries "default_size" (.int 30),
      Settings.valueOf entries "max_size" .null⟩ = .ok q.pagination
  known : (Keeper.ofSections entries).requireKnown (writtenFor model) = .ok ()
  whole : q =
    { model
      keeper := .ofSections entries
      fields := q.fields
      embed := .new
      sorting := .new
      filters := q.filters
      pagination := q.pagination }

variable {settings : Value} {entries : Dict} {library : Library} {model : String} {q : Query}

theorem new_ok_iff (h : settings.orElse (.dict []) = .dict entries) :
    Query.new library model settings = .ok q ↔ q.MadeFrom library model entries := by
  rw [new_eq library model h]
  constructor
  · intro hnew
    obtain ⟨fields, hfields, hnew⟩ := bind_eq_ok_iff.mp hnew
    obtain ⟨filters, hfilters, hnew⟩ := bind_eq_ok_iff.mp hnew
    obtain ⟨pagination, hpagination, hnew⟩ := bind_eq_ok_iff.mp hnew
    obtain ⟨_, hknown, hnew⟩ := bind_eq_ok_iff.mp hnew
    cases hnew
    exact ⟨hfields, hfilters, hpagination, hknown, rfl⟩
  · intro hmade
    rw [hmade.fields, hmade.filters, hmade.pagination]
    simp only [bind, Except.bind, hmade.known]
    exact congrArg Except.ok hmade.whole.symm

theorem made_of_new (h : Query.new library model settings = .ok q) :
    ∃ entries, q.MadeFrom library model entries := by
  cases hs : settings.orElse (.dict []) with
  | dict entries => exact ⟨entries, (new_ok_iff hs).mp h⟩
  | _ =>
    unfold Query.new at h
    rw [hs] at h
    cases h

end Query
end QueryOptions
