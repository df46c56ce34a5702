import QueryOptions.Store.Criteria

/-!
# QueryOptions.Proofs.Connectives

Truth of joined conditions, and what they are made of.

The builders of conditions simplify as they go: neutral parts are dropped, a dominant part is all
that stays. None of that changes the truth of the whole, which is the truth of the parts joined in
three-valued logic:

* `truth_andAlso`, `truth_orElse`, `truth_contrary`, `truth_all`: two conditions, the contrary of
  one, and a list of them;
* `Join.join_proper`: a list of parts none of which is absent, joined in either way;
* `Join.condition_conjunction`: the condition for rows that a list of parts comes to.

`Condition.MadeOf` says which tests a condition is made of. Simplifying never brings in a test that
was not there, so what holds of all tests of the parts holds of all tests of the whole, as does any
other property that joining keeps (`Condition.IsKept`).
-/

namespace QueryOptions
namespace Store

/-- The condition is made by the connectives of tests with a property. -/
inductive Condition.MadeOf (P : Condition → Prop) : Condition → Prop where
  | always : MadeOf P .always
  | never : MadeOf P .never
  | test {a : Condition} : P a → MadeOf P a
  | both {a b : Condition} : MadeOf P a → MadeOf P b → MadeOf P (.both a b)
  | either {a b : Condition} : MadeOf P a → MadeOf P b → MadeOf P (.either a b)
  | negated {a : Condition} : MadeOf P a → MadeOf P (.negated a)

namespace Truth

theorem both_some (a b : Bool) : both (some a) (some b) = some (a && b) := by
  cases a <;> cases b <;> rfl

theorem either_some (a b : Bool) : either (some a) (some b) = some (a || b) := by
  cases a <;> cases b <;> rfl

theorem both_true_right (t : Truth) : both t (some true) = t := by
  rcases t with _ | _ | _ <;> rfl

theorem both_false_left (t : Truth) : both (some false) t = some false := rfl

theorem both_false_right (t : Truth) : both t (some false) = some false := by
  rcases t with _ | _ | _ <;> rfl

theorem either_false_right (t : Truth) : either t (some false) = t := by
  rcases t with _ | _ | _ <;> rfl

theorem either_true_left (t : Truth) : either (some true) t = some true := rfl

theorem either_true_right (t : Truth) : either t (some true) = some true := by
  rcases t with _ | _ | _ <;> rfl

/-- What is true even if unknown counts as false is true in any case. -/
theorem settle_of_settle {t : Truth} (h : t.settle false = true) : t.settle true = true := by
  rcases t with _ | _ | _
  · cases h
  · cases h
  · rfl

/-- Nothing depends on what unknown counts as, if it is known. -/
theorem settle_of_isSome {t : Truth} (h : t.isSome = true) (unknown : Bool) :
    t.settle true = t.settle unknown := by
  cases t with
  | none => cases h
  | some b => rfl

theorem both_assoc (r s t : Truth) : both (both r s) t = both r (both s t) := by
  rcases r with _ | _ | _ <;> rcases s with _ | _ | _ <;> rcases t with _ | _ | _ <;> rfl

theorem either_assoc (r s t : Truth) : either (either r s) t = either r (either s t) := by
  rcases r with _ | _ | _ <;> rcases s with _ | _ | _ <;> rcases t with _ | _ | _ <;> rfl

end Truth

/-! ## Lists of truth values -/

namespace Join

/-- The truth value that adds nothing to others. -/
def unit : Join → Truth
  | .conjunction => some true
  | .disjunction => some false

/-- The truth value that outweighs all others. -/
def zero : Join → Truth
  | .conjunction => some false
  | .disjunction => some true

def combine : Join → Truth → Truth → Truth
  | .conjunction => Truth.both
  | .disjunction => Truth.either

def combineAll (j : Join) (ts : List Truth) : Truth := ts.foldr j.combine j.unit

@[simp] theorem combineAll_nil (j : Join) : j.combineAll [] = j.unit := rfl

@[simp] theorem combineAll_cons (j : Join) (t : Truth) (ts : List Truth) :
    j.combineAll (t :: ts) = j.combine t (j.combineAll ts) := rfl

@[simp] theorem combine_unit_left (j : Join) (t : Truth) : j.combine j.unit t = t := by
  cases j
  · exact Truth.both_true t
  · exact Truth.either_false t

@[simp] theorem combine_unit_right (j : Join) (t : Truth) : j.combine t j.unit = t := by
  cases j
  · exact Truth.both_true_right t
  · exact Truth.either_false_right t

theorem combine_zero_left (j : Join) (t : Truth) : j.combine j.zero t = j.zero := by
  cases j
  · exact Truth.both_false_left t
  · exact Truth.either_true_left t

theorem combine_zero_right (j : Join) (t : Truth) : j.combine t j.zero = j.zero := by
  cases j
  · exact Truth.both_false_right t
  · exact Truth.either_true_right t

theorem combine_assoc (j : Join) (r s t : Truth) :
    j.combine (j.combine r s) t = j.combine r (j.combine s t) := by
  cases j
  · exact Truth.both_assoc r s t
  · exact Truth.either_assoc r s t

theorem combineAll_of_zero_mem {j : Join} {ts : List Truth} (h : j.zero ∈ ts) :
    j.combineAll ts = j.zero := by
  induction ts with
  | nil => cases h
  | cons t rest ih =>
    rw [combineAll_cons]
    rcases List.mem_cons.mp h with rfl | h
    · exact combine_zero_left j _
    · rw [ih h]; exact combine_zero_right j t

/-- Leaving out parts that add nothing changes nothing. -/
theorem combineAll_filter {α : Type} {j : Join} {value : α → Truth} {keep : α → Bool}
    (h : ∀ x, keep x = false → value x = j.unit) (xs : List α) :
    j.combineAll ((xs.filter keep).map value) = j.combineAll (xs.map value) := by
  induction xs with
  | nil => rfl
  | cons x rest ih =>
    cases hx : keep x with
    | true => simp [hx, ih]
    | false => simp [hx, ih, h x hx]

theorem combineAll_append (j : Join) (ts us : List Truth) :
    j.combineAll (ts ++ us) = j.combine (j.combineAll ts) (j.combineAll us) := by
  induction ts with
  | nil => exact (combine_unit_left j _).symm
  | cons t rest ih => rw [List.cons_append, combineAll_cons, combineAll_cons, ih, combine_assoc]

theorem combineAll_conjunction_some (bs : List Bool) :
    Join.conjunction.combineAll (bs.map some) = some (bs.all id) := by
  induction bs with
  | nil => rfl
  | cons b rest ih =>
    rw [List.map_cons, combineAll_cons, ih]
    exact Truth.both_some _ _

theorem combineAll_disjunction_some (bs : List Bool) :
    Join.disjunction.combineAll (bs.map some) = some (bs.any id) := by
  induction bs with
  | nil => rfl
  | cons b rest ih =>
    rw [List.map_cons, combineAll_cons, ih]
    exact Truth.either_some _ _

theorem settle_combineAll_conjunction (unknown : Bool) (ts : List Truth) :
    Truth.settle unknown (Join.conjunction.combineAll ts) = ts.all (Truth.settle unknown) := by
  induction ts with
  | nil => rfl
  | cons t rest ih => simp [combine, Truth.settle_both, ih]

theorem settle_combineAll_disjunction (unknown : Bool) (ts : List Truth) :
    Truth.settle unknown (Join.disjunction.combineAll ts) = ts.any (Truth.settle unknown) := by
  induction ts with
  | nil => rfl
  | cons t rest ih => simp [combine, Truth.settle_either, ih]

end Join

/-! ## Two conditions and the contrary of one -/

namespace Condition

variable {P : Condition → Prop} {a b : Condition} {row : Row}

theorem truth_andAlso (row : Row) (a b : Condition) :
    (a.andAlso b).truth row = (a.truth row).both (b.truth row) := by
  unfold andAlso
  split
  · rfl
  · simp [truth, Truth.both_false_right]
  · simp [truth, Truth.both_true]
  · simp [truth, Truth.both_true_right]
  · rfl

theorem truth_orElse (row : Row) (a b : Condition) :
    (a.orElse b).truth row = (a.truth row).either (b.truth row) := by
  unfold orElse
  split
  · rfl
  · simp [truth, Truth.either_true_right]
  · simp [truth, Truth.either_false]
  · simp [truth, Truth.either_false_right]
  · rfl

theorem truth_contrary (row : Row) (a : Condition) :
    a.contrary.truth row = (a.truth row).negate := by
  unfold contrary
  split <;> rfl

theorem truth_all (row : Row) (conditions : List Condition) :
    (all conditions).truth row = Join.conjunction.combineAll (conditions.map (truth row)) := by
  induction conditions with
  | nil => rfl
  | cons a rest ih =>
    cases rest with
    | nil => exact (Truth.both_true_right _).symm
    | cons b more =>
      rw [all, truth_andAlso, ih]
      · rfl
      · simp

theorem MadeOf.mono {Q : Condition → Prop} (ha : a.MadeOf P) (h : ∀ b, P b → Q b) : a.MadeOf Q := by
  induction ha with
  | always => exact .always
  | never => exact .never
  | test hb => exact .test (h _ hb)
  | both _ _ iha ihb => exact .both iha ihb
  | either _ _ iha ihb => exact .either iha ihb
  | negated _ ih => exact .negated ih

theorem MadeOf.andAlso (ha : a.MadeOf P) (hb : b.MadeOf P) : (a.andAlso b).MadeOf P := by
  unfold Condition.andAlso
  split
  · exact .never
  · exact .never
  · exact hb
  · exact ha
  · exact .both ha hb

theorem MadeOf.orElse (ha : a.MadeOf P) (hb : b.MadeOf P) : (a.orElse b).MadeOf P := by
  unfold Condition.orElse
  split
  · exact .always
  · exact .always
  · exact hb
  · exact ha
  · exact .either ha hb

theorem MadeOf.contrary (ha : a.MadeOf P) : a.contrary.MadeOf P := by
  unfold Condition.contrary
  split
  · exact .never
  · exact .always
  · exact .negated ha

theorem MadeOf.all {conditions : List Condition} (h : ∀ a ∈ conditions, a.MadeOf P) :
    (all conditions).MadeOf P := by
  induction conditions with
  | nil => exact .always
  | cons a rest ih =>
    cases rest with
    | nil => exact h a (by simp)
    | cons b more =>
      rw [Condition.all]
      · exact (h a (by simp)).andAlso (ih fun c hc => h c (List.mem_cons_of_mem _ hc))
      · simp

end Condition

/-- A property of conditions that all conditions have that are joined of conditions with it. -/
structure Condition.IsKept (Q : Condition → Prop) : Prop where
  always : Q .always
  never : Q .never
  both : ∀ {a b : Condition}, Q a → Q b → Q (.both a b)
  either : ∀ {a b : Condition}, Q a → Q b → Q (.either a b)

theorem Condition.isKept_madeOf (P : Condition → Prop) : IsKept (MadeOf P) :=
  ⟨.always, .never, .both, .either⟩

/-! ## Lists of parts -/

namespace Join

theorem truth_link (j : Join) (row : Row) (a b : Condition) :
    (j.link a b).truth row = j.combine (a.truth row) (b.truth row) := by
  cases j <;> rfl

theorem truth_neutral (j : Join) (row : Row) : j.neutral.truth row = j.unit := by
  cases j <;> rfl

theorem eq_neutral {j : Join} {a : Condition} (h : j.isNeutral (.proper a) = true) :
    a = j.neutral := by
  cases j <;> cases a <;> simp [isNeutral] at h <;> rfl

theorem truth_of_isDominant {j : Join} {a : Condition} (h : j.isDominant (.proper a) = true)
    (row : Row) : a.truth row = j.zero := by
  cases j <;> cases a <;> simp [isDominant] at h <;> rfl

theorem kept_neutral {Q : Condition → Prop} (hQ : Condition.IsKept Q) (j : Join) : Q j.neutral := by
  cases j
  · exact hQ.always
  · exact hQ.never

theorem kept_link {Q : Condition → Prop} (hQ : Condition.IsKept Q) (j : Join) {a b : Condition}
    (ha : Q a) (hb : Q b) : Q (j.link a b) := by
  cases j
  · exact hQ.both ha hb
  · exact hQ.either ha hb

theorem linkAll_cons (j : Join) (a : Condition) (rest : List Condition) :
    ∃ c, j.linkAll (a :: rest) = some c ∧
      (∀ row, c.truth row = j.combineAll ((a :: rest).map (·.truth row))) ∧
      ∀ Q : Condition → Prop, Condition.IsKept Q → (∀ b ∈ a :: rest, Q b) → Q c := by
  induction rest generalizing a with
  | nil =>
    exact ⟨a, rfl, fun row => (combine_unit_right j _).symm, fun Q _ h => h a (by simp)⟩
  | cons b more ih =>
    obtain ⟨c, hc, ht, hp⟩ := ih b
    refine ⟨j.link a c, by rw [linkAll, hc], fun row => ?_, fun Q hQ h => ?_⟩
    · rw [truth_link, ht]; rfl
    · exact kept_link hQ j (h a (by simp)) (hp Q hQ fun d hd => h d (List.mem_cons_of_mem _ hd))

theorem filterMap_conditionOf? (j : Join) (conditions : List Condition) :
    (conditions.map Part.proper).filterMap j.conditionOf? = conditions := by
  induction conditions with
  | nil => rfl
  | cons a rest ih => simp [conditionOf?, ih]

theorem compose_proper (j : Join) (a : Condition) (rest : List Condition) :
    ∃ c, j.compose ((a :: rest).map .proper) = .proper c ∧
      (∀ row, c.truth row = j.combineAll ((a :: rest).map (·.truth row))) ∧
      ∀ Q : Condition → Prop, Condition.IsKept Q → (∀ b ∈ a :: rest, Q b) → Q c := by
  obtain ⟨c, hc, ht, hp⟩ := linkAll_cons j a rest
  refine ⟨c, ?_, ht, hp⟩
  unfold compose
  rw [filterMap_conditionOf?, hc]

/-- The parts of a list that are not neutral, joined: one of them stays as it is. -/
theorem join_remaining (j : Join) (parts : List Part) (hd : parts.find? j.isDominant = none)
    (conditions : List Condition) (hne : parts ≠ [])
    (hparts : parts.filter (fun p => !j.isNeutral p) = conditions.map .proper) :
    ∃ c, j.join parts = .proper c ∧
      (∀ row, c.truth row = j.combineAll (conditions.map (·.truth row))) ∧
      ∀ Q : Condition → Prop, Condition.IsKept Q → (∀ b ∈ conditions, Q b) → Q c := by
  obtain ⟨first, others, rfl⟩ := List.exists_cons_of_ne_nil hne
  unfold join
  rw [hd, hparts]
  match conditions with
  | [] => exact ⟨j.neutral, rfl, truth_neutral j, fun Q hQ _ => kept_neutral hQ j⟩
  | [a] => exact ⟨a, rfl, fun row => (combine_unit_right j _).symm, fun Q _ h => h a (by simp)⟩
  | a :: b :: more => exact compose_proper j a (b :: more)

/-- Parts none of which is absent, joined: a condition again, as true as the parts together, with
all properties of the parts that joining keeps. -/
theorem join_proper (j : Join) {conditions : List Condition} (hne : conditions ≠ []) :
    ∃ c, j.join (conditions.map .proper) = .proper c ∧
      (∀ row, c.truth row = j.combineAll (conditions.map (·.truth row))) ∧
      ∀ Q : Condition → Prop, Condition.IsKept Q → (∀ a ∈ conditions, Q a) → Q c := by
  cases hd : (conditions.map Part.proper).find? j.isDominant with
  | some p =>
    -- the first dominant part is all that stays, and no other part changes its value
    have hp := List.find?_some hd
    obtain ⟨a, ha, rfl⟩ := List.mem_map.mp (List.mem_of_find?_eq_some hd)
    refine ⟨a, by unfold join; rw [hd], fun row => ?_, fun Q _ h => h a ha⟩
    have hz := truth_of_isDominant hp row
    rw [hz, combineAll_of_zero_mem (List.mem_map.mpr ⟨a, ha, hz⟩)]
  | none =>
    let keep : Condition → Bool := fun a => !j.isNeutral (.proper a)
    have hparts : (conditions.map Part.proper).filter (fun p => !j.isNeutral p)
        = (conditions.filter keep).map .proper := by
      rw [List.filter_map]; rfl
    obtain ⟨c, hc, ht, hm⟩ := join_remaining j _ hd (conditions.filter keep) (by simpa using hne)
      hparts
    refine ⟨c, hc, fun row => ?_, fun Q hQ h => hm Q hQ fun b hb => h b (List.mem_filter.mp hb).1⟩
    rw [ht, combineAll_filter]
    intro a ha
    have hn : a = j.neutral := eq_neutral (by simpa [keep] using ha)
    rw [hn]
    exact truth_neutral j row

/-- The condition for rows that conditions give together. -/
theorem condition_conjunction (conditions : List Condition) :
    let c := (Join.conjunction.join (conditions.map .proper)).condition
    (∀ row, c.truth row = Join.conjunction.combineAll (conditions.map (·.truth row))) ∧
      ∀ P : Condition → Prop, (∀ a ∈ conditions, a.MadeOf P) → c.MadeOf P := by
  by_cases hc : conditions = []
  · subst hc
    exact ⟨fun row => rfl, fun P _ => .always⟩
  · obtain ⟨c, hj, ht, hm⟩ := Join.conjunction.join_proper hc
    rw [hj]
    exact ⟨ht, fun P => hm _ (Condition.isKept_madeOf P)⟩

theorem kept_conjunction {Q : Condition → Prop} (hQ : Condition.IsKept Q)
    {conditions : List Condition} (h : ∀ a ∈ conditions, Q a) :
    Q (Join.conjunction.join (conditions.map .proper)).condition := by
  by_cases hc : conditions = []
  · subst hc
    exact hQ.always
  · obtain ⟨c, hj, -, hm⟩ := Join.conjunction.join_proper hc
    rw [hj]
    exact hm Q hQ h

/-- One part joined is the part, as far as rows are concerned. -/
theorem condition_single (p : Part) : (Join.conjunction.join [p]).condition = p.condition := by
  rcases p with _ | _ | a
  · rfl
  · rfl
  · cases a <;> rfl

/-- Conditions within a list are one part of it: the condition that they give on their own. -/
theorem together_proper (conditions : List Condition) :
    Part.together (conditions.map .proper)
      = .proper (Join.conjunction.join (conditions.map .proper)).condition := by
  match conditions with
  | [] => rfl
  | [a] => exact congrArg Part.proper (condition_single (.proper a)).symm
  | a :: b :: rest =>
    have hne : a :: b :: rest ≠ [] := by simp
    obtain ⟨c, hc, -⟩ := Join.conjunction.join_proper hne
    rw [hc]
    exact hc

end Join
end Store
end QueryOptions
