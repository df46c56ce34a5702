import QueryOptions.Arguments

/-!
# QueryOptions.Signature

Signatures of functions. A parameter of a constructor is a setting if it has a default value and
can be given by name.
-/

namespace QueryOptions

/-- How a parameter gets its argument. -/
inductive ParameterKind where
  | positionalOnly
  | positionalOrNamed
  /-- All further arguments that are given by place. -/
  | positionalRest
  | namedOnly
  /-- All further arguments that are given by name. -/
  | namedRest
deriving DecidableEq, Repr

/-- Whether the parameter has a name under which it can be given an argument. -/
def ParameterKind.isNamed : ParameterKind → Bool
  | .positionalOrNamed | .namedOnly => true
  | _ => false

/-- The parameters of a function, which have different names. -/
structure Signature where
  parameters : List (ParameterKind × Parameter)
  nodup : (parameters.map fun p => p.2.name).Nodup
deriving Repr

namespace Signature

/-- The signature of a function without special kinds of parameters. -/
def ofParameters (parameters : List Parameter) (nodup : (parameters.map Parameter.name).Nodup) :
    Signature :=
  ⟨parameters.map fun p => (.positionalOrNamed, p), by rwa [List.map_map]⟩

/-- The name and the default value of a parameter that is a setting. -/
def setting? (p : ParameterKind × Parameter) : Option (String × Value) :=
  if p.1.isNamed then p.2.default.map fun v => (p.2.name, v) else none

theorem setting?_eq_some_iff {p : ParameterKind × Parameter} {name : String} {v : Value} :
    setting? p = some (name, v) ↔
      p.1.isNamed = true ∧ p.2.name = name ∧ p.2.default = some v := by
  unfold setting?
  split
  · rename_i h
    simp only [Option.map_eq_some_iff, Prod.mk.injEq, h, true_and]
    exact ⟨fun ⟨_, hd, hn, he⟩ => ⟨hn, he ▸ hd⟩, fun ⟨hn, hd⟩ => ⟨v, hd, hn, rfl⟩⟩
  · rename_i h
    simp [h]

/-- The settings with their default values, in the order of the parameters. -/
def defaults (s : Signature) : List (String × Value) := s.parameters.filterMap setting?

theorem mem_defaults {s : Signature} {name : String} {v : Value} :
    (name, v) ∈ s.defaults ↔
      ∃ p ∈ s.parameters, p.1.isNamed = true ∧ p.2.name = name ∧ p.2.default = some v := by
  simp only [defaults, List.mem_filterMap, setting?_eq_some_iff]

theorem nodup_defaults (s : Signature) : (s.defaults.map Prod.fst).Nodup := by
  have hsub : List.Sublist (s.defaults.map Prod.fst) (s.parameters.map fun p => p.2.name) := by
    unfold defaults
    induction s.parameters with
    | nil => exact .slnil
    | cons p rest ih =>
      cases hp : setting? p with
      | none =>
        rw [List.filterMap_cons_none hp]
        exact ih.cons p.2.name
      | some setting =>
        rw [List.filterMap_cons_some hp]
        obtain ⟨-, hname, -⟩ := setting?_eq_some_iff.mp hp
        rw [List.map_cons, List.map_cons, ← hname]
        exact ih.cons_cons p.2.name
  exact hsub.nodup s.nodup

end Signature
end QueryOptions
