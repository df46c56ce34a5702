import QueryOptions.Proofs.SectionOrder

/-!
# QueryOptions.Proofs.IdleOptions

Which options have a bearing on a request. A single document is neither looked for by filters nor
sorted nor cut into pages, and a collection is not looked up in place of an identifier. Options for
these may hold anything, of any shape, whatever the settings say about their sections: the request
goes as if they were not there (`Query.take_without_idle`).
-/

namespace QueryOptions
namespace Query

/-- The options without a bearing on a request for a collection or for a single document. -/
def idleOptions (isCollection : Bool) : List String :=
  if isCollection then ["indifier"]
  else [SectionName.filters.text, SectionName.sort.text, SectionName.pagination.text]

theorem isOption_of_idle (isCollection : Bool) :
    ∀ name ∈ idleOptions isCollection, isOption name = true := by
  cases isCollection <;> decide

/-- The sections that apply have the same without idle options. -/
theorem sameInput_without_idle {isCollection : Bool} {part : SectionName}
    (hpart : part ∈ SectionName.applying isCollection) (options : Dict) :
    SameInput part options (options.without (idleOptions isCollection)) := by
  have hown : part.text ∉ idleOptions isCollection := by
    revert hpart
    cases isCollection <;> cases part <;> decide
  have hextra : "extra_fields" ∉ idleOptions isCollection
      ∧ "extraFields" ∉ idleOptions isCollection := by
    cases isCollection <;> decide
  exact sameInput_without hown (fun _ => hextra) options

/-- A request goes as it does without the options that have no bearing on it. The query may have any
settings, and may have been used before. -/
theorem take_without_idle (watched : Bool) (v identifier : Value) (q : Query) :
    (q.take watched v identifier).Alike
      (q.take watched (v.without (idleOptions identifier.isFalsy)) identifier) := by
  cases v with
  | dict options =>
    have hunknown := unknownOptions_without (isOption_of_idle identifier.isFalsy) options
    have hlookup : identifier.isFalsy = true ∨ Dict.get options "indifier"
        = (Dict.without (idleOptions identifier.isFalsy) options).get "indifier" := by
      cases hi : identifier.isFalsy with
      | true => exact .inl rfl
      | false =>
        have hkeep : "indifier" ∉ idleOptions false := by decide
        exact .inr (by simp [Dict.get, Dict.get?_without, hkeep])
    have halike : (q.take watched (.dict options) identifier).Alike
        ({ q with keeper := q.keeper : Query }.take watched
          (.dict (Dict.without (idleOptions identifier.isFalsy) options)) identifier) :=
      take_alike rfl rfl hunknown.symm (fun part hp => sameInput_without_idle hp options)
        (fun _ _ _ => rfl) hlookup watched
    exact halike
  | _ => exact .refl _

end Query
end QueryOptions
