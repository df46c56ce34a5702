import QueryOptions.Fault.Basic

/-!
# QueryOptions.Proofs.FirstFaults

What a step that can be refused comes to, told without running it. `Settles` says of an outcome that
there is a result just if something holds of the input, and which faults there can be otherwise.
Steps for the items of a list stop at the first item that is refused, and raise its fault
(`FirstFault`); `Settles.cons` is the step from the rest of a list to the list.
-/

namespace QueryOptions

/-- The first item that is not good has a fault. -/
inductive FirstFault {ι : Type} (good : ι → Prop) (fault : ι → Fault → Prop) :
    List ι → Fault → Prop where
  | here {item : ι} {rest : List ι} {f : Fault} :
      fault item f → FirstFault good fault (item :: rest) f
  | later {item : ι} {rest : List ι} {f : Fault} :
      good item → FirstFault good fault rest f → FirstFault good fault (item :: rest) f

/-- There is a result just if the input is good, and a fault just if the input has it. -/
structure Settles {α : Type} (x : Except Fault α) (good : Prop) (fault : Fault → Prop) : Prop where
  ok : (∃ a, x = .ok a) ↔ good
  error : ∀ f, x = .error f ↔ fault f

namespace Settles

variable {α β γ ι : Type} {x : Except Fault α} {y : Except Fault β} {good : Prop}
  {fault : Fault → Prop}

theorem of_ok {a : α} (hgood : good) (hfault : ∀ f, ¬fault f) :
    Settles (.ok a) good fault where
  ok := iff_of_true ⟨a, rfl⟩ hgood
  error f := iff_of_false (fun h => by cases h) (hfault f)

theorem of_error {f : Fault} (hgood : ¬good) (hf : fault f) (honly : ∀ g, fault g → g = f) :
    Settles (.error f : Except Fault α) good fault where
  ok := by
    refine iff_of_false ?_ hgood
    rintro ⟨_, h⟩
    cases h
  error g := by
    constructor
    · intro h
      cases h
      exact hf
    · intro h
      rw [honly g h]

theorem congr {other : Prop} {faults : Fault → Prop} (h : Settles x good fault)
    (hgood : good ↔ other) (hfault : ∀ f, fault f ↔ faults f) : Settles x other faults where
  ok := h.ok.trans hgood
  error f := (h.error f).trans (hfault f)

theorem map (h : Settles x good fault) (g : α → β) : Settles (x.map g) good fault where
  ok := by
    rw [← h.ok]
    cases x with
    | ok a => exact iff_of_true ⟨g a, rfl⟩ ⟨a, rfl⟩
    | error f => exact iff_of_false (by rintro ⟨_, h⟩; cases h) (by rintro ⟨_, h⟩; cases h)
  error f := by
    rw [← h.error]
    cases x with
    | ok a => exact iff_of_false (fun h => by cases h) (fun h => by cases h)
    | error f' => exact Iff.of_eq (by simp [Except.map])

/-- What is good has no fault. -/
theorem not_fault (h : Settles x good fault) (hgood : good) (f : Fault) : ¬fault f := by
  intro hf
  obtain ⟨a, ha⟩ := h.ok.mpr hgood
  rw [(h.error f).mpr hf] at ha
  cases ha

theorem nil {good : ι → Prop} {fault : ι → Fault → Prop} {a : α} :
    Settles (.ok a) (∀ item ∈ ([] : List ι), good item) (FirstFault good fault []) :=
  .of_ok (fun _ h => by cases h) fun f h => by cases h

/-- `Settles` for a list, item by item: its first fault is that of the head, or else that of the
rest. -/
theorem cons {good : ι → Prop} {fault : ι → Fault → Prop} {item : ι} {rest : List ι}
    (hx : Settles x (good item) (fault item))
    (hy : Settles y (∀ other ∈ rest, good other) (FirstFault good fault rest)) (g : α → β → γ) :
    Settles (x.bind fun a => y.map (g a)) (∀ other ∈ item :: rest, good other)
      (FirstFault good fault (item :: rest)) := by
  cases x with
  | error f =>
    have hitem : ¬good item := fun h => hx.not_fault h f ((hx.error f).mp rfl)
    refine .of_error (fun h => hitem (h item (List.mem_cons_self ..)))
      (.here ((hx.error f).mp rfl)) fun g h => ?_
    cases h with
    | here h => exact (Except.error.inj ((hx.error g).mpr h)).symm
    | later h _ => exact absurd h hitem
  | ok a =>
    have hitem : good item := hx.ok.mp ⟨a, rfl⟩
    refine (hy.map (g a)).congr (by simp [hitem]) fun f => ⟨.later hitem, fun h => ?_⟩
    cases h with
    | here h => exact absurd h (hx.not_fault hitem f)
    | later _ h => exact h

end Settles
end QueryOptions
