import QueryOptions.Proofs.Running

/-!
# QueryOptions.Proofs.Columns

Tests of a column with values of its own type. Such a value is kept as one cell
(`ColumnKind.cell?`), and a test compares the cell of the row with it: numbers by size, texts
character by character.

* `truth_compare`, `truth_member`: of a cell that is not null, a test is true or false, never
  unknown, as the two cells compare;
* `truth_differs`, `truth_compare_null`, `settle_member_null`: what null makes of the tests.
-/

namespace QueryOptions
namespace Store

/-- The cell that keeps a value of the column's own type: a text, a boolean, or a whole number in
the range of the database. -/
def ColumnKind.cell? : ColumnKind → Value → Option Cell
  | .text, .text s => some (.text s)
  | .integer, .int n => if isStorable n then some (.integer n) else none
  | .boolean, .bool b => some (.integer (if b then 1 else 0))
  | _, _ => none

namespace Cell

theorem isNull_eq_false {a : Cell} (h : a ≠ .null) : a.isNull = false :=
  Bool.eq_false_iff.mpr fun e => h (isNull_iff.mp e)

/-! ## The order of cells -/

theorem before_self (a : Cell) : a.before a = false := by
  cases a with
  | null => rfl
  | integer n => simp [before]
  | text s => simp [before]

theorem before_asymm {a b : Cell} (h : a.before b = true) : b.before a = false := by
  cases a with
  | null => cases b <;> simp [before] at h ⊢
  | integer m =>
    cases b with
    | integer n => simp only [before, decide_eq_true_eq, decide_eq_false_iff_not] at h ⊢; omega
    | _ => simp [before] at h ⊢
  | text s =>
    cases b with
    | text t =>
      simp only [before, decide_eq_true_eq, decide_eq_false_iff_not] at h ⊢
      exact String.lt_asymm h
    | _ => simp [before] at h

theorem before_or_before {a b : Cell} (h : a ≠ b) : a.before b = true ∨ b.before a = true := by
  cases a with
  | null => cases b <;> simp [before] at h ⊢
  | integer m =>
    cases b with
    | integer n =>
      have hmn : m ≠ n := fun e => h (by rw [e])
      simp only [before, decide_eq_true_eq]
      omega
    | _ => simp [before]
  | text s =>
    cases b with
    | text t =>
      simp only [before, decide_eq_true_eq]
      by_cases hst : s < t
      · exact .inl hst
      · refine .inr (String.not_le.mp fun hts => ?_)
        exact h (by rw [String.le_antisymm hts (String.not_lt.mp hst)])
    | _ => simp [before]

/-- How a cell compares with another one, neither of them null. -/
def compares (comparison : Comparison) (a b : Cell) : Bool :=
  match comparison with
  | .equal => a == b
  | .less => a.before b
  | .atMost => !b.before a
  | .greater => b.before a
  | .atLeast => !a.before b

def isAmong (kind : ColumnKind) (a : Cell) (items : List Value) : Bool :=
  items.any fun v => kind.cell? v == some a

def order (a b : Cell) : Ordering := if a = b then .eq else if a.before b then .lt else .gt

theorem compares_eq_holds (comparison : Comparison) (a b : Cell) :
    a.compares comparison b = comparison.holds (a.order b) := by
  unfold order
  by_cases he : a = b
  · subst he
    cases comparison <;> simp [compares, Comparison.holds, before_self]
  · rw [if_neg he]
    cases hab : a.before b with
    | true => cases comparison <;> simp [compares, Comparison.holds, he, hab, before_asymm hab]
    | false =>
      have hba : b.before a = true := (before_or_before he).resolve_left (by simp [hab])
      cases comparison <;> simp [compares, Comparison.holds, he, hab, hba]

theorem order_beq_eq (a b : Cell) : (a.order b == .eq) = (a == b) :=
  (compares_eq_holds .equal a b).symm

def toDatum : Cell → Datum
  | .null => .null
  | .integer n => .integer n
  | .text s => .text s

theorem compareTo_toDatum {a b : Cell} (ha : a ≠ .null) (hb : b ≠ .null) :
    a.compareTo b.toDatum = some (a.order b) := by
  cases a with
  | null => exact absurd rfl ha
  | integer m =>
    cases b with
    | null => exact absurd rfl hb
    | integer n =>
      rcases Int.lt_trichotomy m n with h | h | h
      · simp [compareTo, toDatum, order, before, Int.compare_eq_lt.mpr h, h, Int.ne_of_lt h]
      · simp [compareTo, toDatum, order, h]
      · simp [compareTo, toDatum, order, before, Int.compare_eq_gt.mpr h, Int.ne_of_gt h,
          Int.not_lt.mpr (Int.le_of_lt h)]
    | text t => simp [compareTo, toDatum, order, before]
  | text s =>
    cases b with
    | null => exact absurd rfl hb
    | integer n => simp [compareTo, toDatum, order, before]
    | text t => simp [compareTo, toDatum, order, before, compareTexts]

end Cell

/-! ## Values of a column's own type -/

section Own

variable {kind : ColumnKind} {v : Value} {b : Cell}

theorem cell?_ne_null (h : kind.cell? v = some b) : b ≠ .null := by
  unfold ColumnKind.cell? at h
  rintro rfl
  split at h <;> simp at h

theorem isNull_of_cell? (h : kind.cell? v = some b) : v.isNull = false := by
  cases v with
  | null => cases kind <;> simp [ColumnKind.cell?] at h
  | _ => rfl

theorem seenBy_of_cell? (h : kind.cell? v = some b) :
    ∃ d, Datum.ofValue v = .ok d ∧ d.seenBy kind = b.toDatum := by
  unfold ColumnKind.cell? at h
  split at h
  · rename_i s
    cases h
    exact ⟨.text s, rfl, rfl⟩
  · rename_i n
    split at h
    · rename_i hn
      cases h
      exact ⟨.integer n, by simp [Datum.ofValue, hn], rfl⟩
    · cases h
  · cases h
    exact ⟨_, rfl, rfl⟩
  · cases h

theorem storable_of_cell? (h : kind.cell? v = some b) : Storable v := by
  obtain ⟨d, hd, _⟩ := seenBy_of_cell? h
  exact ⟨d, hd⟩

end Own

/-! ## Tests -/

namespace Condition

variable {row : Row} {c : Column} {v : Value} {b : Cell}

theorem datumFor_of_cell? (h : c.kind.cell? v = some b) : datumFor c v = b.toDatum := by
  obtain ⟨d, hd, hs⟩ := seenBy_of_cell? h
  unfold datumFor
  rw [hd]
  exact hs

theorem orderOf_of_cell? (hn : row.cell c.name ≠ .null) (h : c.kind.cell? v = some b) :
    orderOf row c v = some ((row.cell c.name).order b) := by
  unfold orderOf
  rw [datumFor_of_cell? h, Cell.compareTo_toDatum hn (cell?_ne_null h)]

theorem orderOf_null (hn : row.cell c.name = .null) (v : Value) : orderOf row c v = none := by
  unfold orderOf
  rw [hn]
  exact Cell.compareTo_null_left _

theorem truth_compare (comparison : Comparison) (hn : row.cell c.name ≠ .null)
    (h : c.kind.cell? v = some b) :
    (compare c comparison v).truth row = some ((row.cell c.name).compares comparison b) := by
  show (orderOf row c v).map comparison.holds = _
  rw [orderOf_of_cell? hn h, Cell.compares_eq_holds]
  rfl

theorem truth_compare_null (comparison : Comparison) (hn : row.cell c.name = .null) (v : Value) :
    (compare c comparison v).truth row = none := by
  show (orderOf row c v).map comparison.holds = none
  rw [orderOf_null hn]
  rfl

theorem truth_differs (h : c.kind.cell? v = some b) :
    (differs c v).truth row = some (row.cell c.name != b) := by
  by_cases hn : row.cell c.name = .null
  · have hb := cell?_ne_null h
    have hd : b.toDatum.isNull = false := by
      cases b with
      | null => exact absurd rfl hb
      | _ => rfl
    simp [truth, hn, Cell.isNull, datumFor_of_cell? h, hd, bne, hb.symm]
  · simp only [truth, Cell.isNull_eq_false hn, Bool.false_eq_true, if_false,
      orderOf_of_cell? hn h]
    rw [bne, bne, ← Cell.order_beq_eq]
    rfl

theorem truth_member {items : List Value} (hn : row.cell c.name ≠ .null)
    (h : ∀ v ∈ items, (c.kind.cell? v).isSome = true) :
    (member c items).truth row = some ((row.cell c.name).isAmong c.kind items) := by
  show memberTruth row c items = _
  unfold memberTruth
  induction items with
  | nil => rfl
  | cons v rest ih =>
    obtain ⟨b, hb⟩ := Option.isSome_iff_exists.mp (h v (by simp))
    rw [List.foldr_cons, ih fun w hw => h w (List.mem_cons_of_mem _ hw), orderOf_of_cell? hn hb]
    have hv : (row.cell c.name).isAmong c.kind (v :: rest)
        = (row.cell c.name == b || (row.cell c.name).isAmong c.kind rest) := by
      simp [Cell.isAmong, hb, Bool.beq_comm]
    rw [Option.map_some, Cell.order_beq_eq, hv]
    cases row.cell c.name == b
    · exact Truth.either_false _
    · rfl

/-- Null is not known to be among any values. -/
theorem settle_member_null (hn : row.cell c.name = .null) (items : List Value) :
    ((member c items).truth row).settle false = false := by
  show (memberTruth row c items).settle false = false
  unfold memberTruth
  induction items with
  | nil => rfl
  | cons v rest ih => rw [List.foldr_cons, Truth.settle_either, ih, orderOf_null hn]; rfl

end Condition
end Store
end QueryOptions
