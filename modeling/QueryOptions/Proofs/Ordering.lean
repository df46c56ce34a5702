import Mathlib.Data.List.Sort
import QueryOptions.Proofs.Columns
import QueryOptions.Store.Order

/-!
# QueryOptions.Proofs.Ordering

The order of sorted rows. `RowOrder.before` asks column by column whether a row has to stand in
front of another one. Read as a relation (`RowOrder.Precedes`) this is lexicographic: the first
column that tells two rows apart decides, upside down if its direction is negative. The relation is
transitive and total, so putting rows in place one by one is an insertion sort.

* `precedes_iff`: the relation and the test agree;
* `Precedes.trans`, `precedes_total`: it orders rows;
* `perm_sortRows`, `pairwise_sortRows`: no row is lost or repeated, and all of them are in order.
-/

namespace QueryOptions
namespace Store

theorem Cell.before_trans {a b c : Cell} (hab : a.before b = true) (hbc : b.before c = true) :
    a.before c = true := by
  cases a with
  | null => cases c with
    | null => cases b <;> simp [before] at hab hbc
    | _ => rfl
  | integer m =>
    cases b with
    | null => simp [before] at hab
    | integer n =>
      cases c with
      | integer k =>
        simp only [before, decide_eq_true_eq] at hab hbc ⊢
        exact Int.lt_trans hab hbc
      | _ => simp [before] at hbc ⊢
    | text t => cases c <;> simp [before] at hbc ⊢
  | text s =>
    cases b with
    | text t =>
      cases c with
      | text u =>
        simp only [before, decide_eq_true_eq] at hab hbc ⊢
        exact String.lt_trans hab hbc
      | _ => simp [before] at hbc
    | _ => simp [before] at hab

namespace RowOrder

/-- A row may stand in front of another one. The first column with different cells decides: the
smaller cell is in front, or the larger one if the direction is negative. -/
inductive Precedes : RowOrder → Row → Row → Prop where
  | tied {r s : Row} : Precedes [] r s
  | ascending {c : Column} {direction : Int} {rest : RowOrder} {r s : Row} (hd : 0 ≤ direction)
      (h : (r.cell c.name).before (s.cell c.name) = true) : Precedes ((c, direction) :: rest) r s
  | descending {c : Column} {direction : Int} {rest : RowOrder} {r s : Row} (hd : direction < 0)
      (h : (s.cell c.name).before (r.cell c.name) = true) : Precedes ((c, direction) :: rest) r s
  | next {c : Column} {direction : Int} {rest : RowOrder} {r s : Row}
      (he : r.cell c.name = s.cell c.name) (h : Precedes rest r s) :
      Precedes ((c, direction) :: rest) r s

def isFirst (direction : Int) (a b : Cell) : Bool :=
  if direction < 0 then b.before a else a.before b

section First

variable {direction : Int} {a b c : Cell}

theorem isFirst_self : isFirst direction a a = false := by
  unfold isFirst
  split <;> exact Cell.before_self a

theorem isFirst_asymm (h : isFirst direction a b = true) : isFirst direction b a = false := by
  unfold isFirst at h ⊢
  split <;> simp_all [Cell.before_asymm]

theorem isFirst_trans (hab : isFirst direction a b = true) (hbc : isFirst direction b c = true) :
    isFirst direction a c = true := by
  unfold isFirst at hab hbc ⊢
  split
  · rename_i hd
    rw [if_pos hd] at hab hbc
    exact Cell.before_trans hbc hab
  · rename_i hd
    rw [if_neg hd] at hab hbc
    exact Cell.before_trans hab hbc

theorem isFirst_or_isFirst (direction : Int) (h : a ≠ b) :
    isFirst direction a b = true ∨ isFirst direction b a = true := by
  unfold isFirst
  split
  · exact (Cell.before_or_before h).symm
  · exact Cell.before_or_before h

end First

variable {order : RowOrder} {r s t : Row}

theorem precedes_cons {c : Column} {direction : Int} :
    Precedes ((c, direction) :: order) r s ↔
      isFirst direction (r.cell c.name) (s.cell c.name) = true ∨
        (r.cell c.name = s.cell c.name ∧ Precedes order r s) := by
  constructor
  · intro h
    cases h with
    | ascending hd h => exact .inl (by rwa [isFirst, if_neg (Int.not_lt.mpr hd)])
    | descending hd h => exact .inl (by rwa [isFirst, if_pos hd])
    | next he h => exact .inr ⟨he, h⟩
  · rintro (h | ⟨he, h⟩)
    · unfold isFirst at h
      split at h
      · rename_i hd
        exact .descending hd h
      · rename_i hd
        exact .ascending (Int.not_lt.mp hd) h
    · exact .next he h

theorem before_cons {c : Column} {direction : Int} :
    before ((c, direction) :: order) r s =
      (isFirst direction (r.cell c.name) (s.cell c.name) ||
        (!isFirst direction (s.cell c.name) (r.cell c.name) && before order r s)) := by
  by_cases hd : direction < 0
  · simp only [before, isFirst, hd, if_true]
    cases (s.cell c.name).before (r.cell c.name) <;>
      cases (r.cell c.name).before (s.cell c.name) <;> simp
  · simp only [before, isFirst, hd, if_false]
    cases (s.cell c.name).before (r.cell c.name) <;>
      cases (r.cell c.name).before (s.cell c.name) <;> simp

/-- A row may stand in front of another one just if the other one does not come before it. -/
theorem precedes_iff : Precedes order r s ↔ before order s r = false := by
  induction order with
  | nil => exact ⟨fun _ => rfl, fun _ => .tied⟩
  | cons e rest ih =>
    obtain ⟨c, direction⟩ := e
    rw [precedes_cons, before_cons, ih]
    by_cases he : r.cell c.name = s.cell c.name
    · simp [he, isFirst_self]
    · rcases isFirst_or_isFirst direction he with h | h
      · simp [h, isFirst_asymm h]
      · simp [he, h, isFirst_asymm h]

theorem Precedes.trans (hrs : Precedes order r s) (hst : Precedes order s t) :
    Precedes order r t := by
  induction order with
  | nil => exact .tied
  | cons e rest ih =>
    obtain ⟨c, direction⟩ := e
    rw [precedes_cons] at hrs hst ⊢
    rcases hrs with hrs | ⟨ers, hrs⟩
    · rcases hst with hst | ⟨est, -⟩
      · exact .inl (isFirst_trans hrs hst)
      · exact .inl (est ▸ hrs)
    · rcases hst with hst | ⟨est, hst⟩
      · exact .inl (ers ▸ hst)
      · exact .inr ⟨ers.trans est, ih hrs hst⟩

theorem precedes_total (order : RowOrder) (r s : Row) :
    Precedes order r s ∨ Precedes order s r := by
  induction order with
  | nil => exact .inl .tied
  | cons e rest ih =>
    obtain ⟨c, direction⟩ := e
    simp only [precedes_cons]
    by_cases he : r.cell c.name = s.cell c.name
    · exact ih.imp (fun h => .inr ⟨he, h⟩) fun h => .inr ⟨he.symm, h⟩
    · exact (isFirst_or_isFirst direction he).imp .inl .inl

instance (order : RowOrder) : DecidableRel order.Precedes :=
  fun _ _ => decidable_of_iff _ precedes_iff.symm

instance (order : RowOrder) : IsTrans Row order.Precedes := ⟨fun _ _ _ => Precedes.trans⟩

instance (order : RowOrder) : Std.Total order.Precedes := ⟨precedes_total order⟩

end RowOrder

/-! ## Sorted rows -/

variable (order : RowOrder)

theorem insertRow_eq (r : Row) (rows : List Row) :
    insertRow order r rows = rows.orderedInsert order.Precedes r := by
  induction rows with
  | nil => rfl
  | cons s rest ih =>
    rw [insertRow, List.orderedInsert_cons, ih]
    by_cases h : order.before s r = true
    · rw [if_pos h, if_neg (by simp [RowOrder.precedes_iff, h])]
    · rw [if_neg h, if_pos (by simpa [RowOrder.precedes_iff] using h)]

theorem sortRows_eq (rows : List Row) :
    sortRows order rows = rows.insertionSort order.Precedes := by
  unfold sortRows List.insertionSort
  rw [funext fun r => funext (insertRow_eq order r)]

/-- Sorting loses and repeats no row. -/
theorem perm_sortRows (rows : List Row) : (sortRows order rows).Perm rows := by
  rw [sortRows_eq]
  exact List.perm_insertionSort _ rows

/-- Sorted rows are in order. -/
theorem pairwise_sortRows (rows : List Row) : (sortRows order rows).Pairwise order.Precedes := by
  rw [sortRows_eq]
  exact List.pairwise_insertionSort _ rows

end Store
end QueryOptions
