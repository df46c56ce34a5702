import QueryOptions.Proofs.Calls
import QueryOptions.Proofs.Running

/-!
# QueryOptions.Proofs.Handles

Queries on rows, as the calls of a compiled query leave them. Steps only decide what is loaded and
how the rows are ordered and cut: model, criteria and session of a query are those that it was made
with (`Documents.SameRows`).

* `take_sameRows`, `configureAll_sameRows`: one step, and a list of them;
* `Source.configureAll_append`, `Source.configureAll_of_append`: steps in two parts;
* `prepare_collection`: a query that was configured for a collection gives a list, and its limit and
  the rows that it leaves out are those of the compiled query.
-/

namespace QueryOptions

namespace Source

variable {H R : Type}

theorem configureAll_cons {source : Source H R} {s : Step} {rest : List Step} {handle last : H} :
    (source.configureAll (s :: rest) handle).outcome = .ok last ↔
      ∃ next, source.configure s handle = .ok next ∧
        (source.configureAll rest next).outcome = .ok last := by
  simp only [configureAll]
  cases source.configure s handle <;> simp

/-- Steps in two parts: the second one starts where the first one has led. -/
theorem configureAll_append {source : Source H R} {steps more : List Step} {handle last : H}
    (h : (source.configureAll (steps ++ more) handle).outcome = .ok last) :
    ∃ middle, (source.configureAll steps handle).outcome = .ok middle ∧
      (source.configureAll more middle).outcome = .ok last := by
  induction steps generalizing handle with
  | nil => exact ⟨handle, rfl, h⟩
  | cons s rest ih =>
    obtain ⟨next, hn, hr⟩ := configureAll_cons.mp h
    obtain ⟨middle, hm, hl⟩ := ih hr
    exact ⟨middle, configureAll_cons.mpr ⟨next, hn, hm⟩, hl⟩

theorem configureAll_of_append {source : Source H R} {steps more : List Step} {handle middle : H}
    (h : (source.configureAll steps handle).outcome = .ok middle) :
    (source.configureAll (steps ++ more) handle).outcome
      = (source.configureAll more middle).outcome := by
  induction steps generalizing handle with
  | nil =>
    cases h
    rfl
  | cons s rest ih =>
    obtain ⟨next, hn, hr⟩ := configureAll_cons.mp h
    rw [← ih hr, List.cons_append, configureAll, hn]

theorem prepare_of_append {source : Source H R} {opening : Opening} {steps more : List Step}
    {handle : H}
    (h : (source.prepare opening steps).outcome = .ok handle) :
    (source.prepare opening (steps ++ more)).outcome
      = (source.configureAll more handle).outcome := by
  unfold prepare at h ⊢
  split at h
  · cases h
  · exact configureAll_of_append h

end Source

namespace Store
namespace Documents

/-- Two queries run on the same rows, in the same way but for what they load and how they order and
cut the rows. -/
structure SameRows (q d : Documents) : Prop where
  model : d.model = q.model
  condition : d.condition = q.condition
  single : d.single = q.single
  session : d.session = q.session

theorem SameRows.refl (q : Documents) : SameRows q q := ⟨rfl, rfl, rfl, rfl⟩

theorem SameRows.trans {q d e : Documents} (h : SameRows q d) (g : SameRows d e) : SameRows q e :=
  ⟨g.model.trans h.model, g.condition.trans h.condition, g.single.trans h.single,
    g.session.trans h.session⟩

theorem take_sameRows {s : Step} {q d : Documents} (h : q.take s = .ok d) : SameRows q d := by
  cases s with
  | select projection =>
    simp only [take, select] at h
    split at h
    · cases h
    · cases h; exact ⟨rfl, rfl, rfl, rfl⟩
  | populate relation fields =>
    simp only [take, populate] at h
    split at h
    · cases h
    · split at h
      · cases h
      · cases h; exact ⟨rfl, rfl, rfl, rfl⟩
  | sort spec =>
    simp only [take, sort] at h
    split at h
    · cases h
    · cases h; exact ⟨rfl, rfl, rfl, rfl⟩
  | limit count => cases h; exact ⟨rfl, rfl, rfl, rfl⟩
  | skip count => cases h; exact ⟨rfl, rfl, rfl, rfl⟩

variable {session : Option Session} {model : Model}

theorem configureAll_sameRows {steps : List Step} {q d : Documents}
    (h : ((source session model).configureAll steps q).outcome = .ok d) : SameRows q d := by
  induction steps generalizing q with
  | nil =>
    cases h
    exact .refl _
  | cons s rest ih =>
    obtain ⟨next, hn, hr⟩ := Source.configureAll_cons.mp h
    exact (take_sameRows hn).trans (ih hr)

theorem find_opening {compiled : CompiledQuery} (hc : compiled.isCollection = true) :
    (source session model).acquire compiled.opening
      = find session false model compiled.predicate := by
  unfold CompiledQuery.opening
  rw [if_pos hc]
  cases compiled.predicate <;> rfl

/-- What `prepare` makes of the calls for a collection: the condition, limit and skip are those of
the compiled query. -/
theorem prepare_collection {compiled : CompiledQuery} {d : Documents}
    (hc : compiled.isCollection = true)
    (h : ((source session model).prepare compiled.opening compiled.steps).outcome = .ok d) :
    criteriaCondition model.shape compiled.predicate = .ok d.condition ∧ d.model = model ∧
      d.single = false ∧ d.session = session ∧ d.limit = compiled.limit ∧
      d.skip = compiled.skip := by
  have hs : compiled.steps = (compiled.selection ++ compiled.populations
      ++ compiled.sort.toList.map .sort) ++ [.limit compiled.limit, .skip compiled.skip] := by
    unfold CompiledQuery.steps CompiledQuery.arrangement
    rw [if_pos hc]
    simp only [List.append_assoc]
  unfold Source.prepare at h
  rw [find_opening hc, hs] at h
  split at h
  · cases h
  · rename_i found hf
    obtain ⟨condition, hcondition, rfl⟩ := find_eq_ok hf
    obtain ⟨middle, hm, hlast⟩ := Source.configureAll_append h
    have hsame := configureAll_sameRows hm
    cases hlast
    refine ⟨?_, hsame.model, hsame.single, hsame.session, rfl, rfl⟩
    rw [hcondition]
    exact congrArg _ hsame.condition.symm

end Documents
end Store
end QueryOptions
