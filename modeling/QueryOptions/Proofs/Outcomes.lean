import QueryOptions.Trace

/-!
# QueryOptions.Proofs.Outcomes

Outcomes taken apart: what was given on the way, if all went well.
-/

namespace QueryOptions

theorem map_eq_ok_iff {α β : Type} {x : Except Fault α} {g : α → β} {b : β} :
    x.map g = .ok b ↔ ∃ a, x = .ok a ∧ g a = b := by
  cases x with
  | error f => simp [Except.map]
  | ok a => simp [Except.map]

theorem bind_eq_ok_iff {α β : Type} {x : Except Fault α} {g : α → Except Fault β} {b : β} :
    x >>= g = .ok b ↔ ∃ a, x = .ok a ∧ g a = .ok b := by
  cases x with
  | error f => simp [bind, Except.bind]
  | ok a => simp [bind, Except.bind]

theorem forM_congr_of_mem {α : Type} {f g : α → Except Fault Unit} {items : List α}
    (h : ∀ a ∈ items, f a = g a) : forM items f = forM items g := by
  induction items with
  | nil => rfl
  | cons a rest ih =>
    rw [List.forM_cons, List.forM_cons, h a (by simp),
      ih fun b hb => h b (List.mem_cons_of_mem a hb)]

namespace Act

variable {E F σ α β : Type}

theorem ok_of_andThen {a : Act E σ α} {next : σ → α → Act E σ β} {b : β}
    (h : (a.andThen next).outcome = .ok b) :
    ∃ v, a.outcome = .ok v ∧ (next a.state v).outcome = .ok b ∧
      (a.andThen next).state = (next a.state v).state := by
  obtain ⟨events, s, outcome⟩ := a
  cases outcome with
  | error f => cases h
  | ok v => exact ⟨v, rfl, h, rfl⟩

theorem andThen_of_ok {a : Act E σ α} {v : α} (h : a.outcome = .ok v) (next : σ → α → Act E σ β) :
    (a.andThen next).outcome = (next a.state v).outcome ∧
      (a.andThen next).state = (next a.state v).state := by
  obtain ⟨events, s, outcome⟩ := a
  cases h
  exact ⟨rfl, rfl⟩

end Act
end QueryOptions
