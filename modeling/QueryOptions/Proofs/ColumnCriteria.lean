import QueryOptions.Proofs.Columns

/-!
# QueryOptions.Proofs.ColumnCriteria

What is asked of a column, read as a plain Boolean formula. A column is asked to be a value or to
pass tests. `$not` negates what is asked within it, every other operator compares the cell of the
column with its value, and several tests are all to be passed.

Of a cell that is not null, the conditions that a column is asked to meet are true or false, never
unknown, just as the formula says (`Reads`), as long as they look for no pattern and compare the
column with values of its own type (`isPlainDemand`).

* `operatorCondition_own`: the condition of one operator, by what the operator is;
* `columnConditions_reads`: all that is asked of a column, by induction on the nesting of `$not`;
* `columnConditions_null`: what becomes of it if the column is null.
-/

namespace QueryOptions
namespace Store

/-! ## The reading -/

def Cell.passes (kind : ColumnKind) (a : Cell) (operator : String) (v : Value) : Bool :=
  let is (comparison : Comparison) : Bool := (kind.cell? v).any (a.compares comparison)
  let isListed : Bool := a.isAmong kind (v.array?.getD [])
  if operator = "$eq" then is .equal
  else if operator = "$ne" then !is .equal
  else if operator = "$lt" then is .less
  else if operator = "$lte" then is .atMost
  else if operator = "$gt" then is .greater
  else if operator = "$gte" then is .atLeast
  else if operator = "$in" then isListed
  else if operator = "$nin" then !isListed
  else false

mutual

/-- Whether a cell meets what is asked of its column: to be a value, or to pass all tests. -/
def Cell.meets (kind : ColumnKind) (a : Cell) : Value → Bool
  | .dict tests => Cell.meetsAll kind a tests
  | v => (kind.cell? v).any (a.compares .equal)

/-- Whether a cell passes all tests. -/
def Cell.meetsAll (kind : ColumnKind) (a : Cell) : List (Value × Value) → Bool
  | [] => true
  | (.text operator, v) :: rest =>
    (if operator = "$not" then !Cell.meets kind a v else a.passes kind operator v)
      && Cell.meetsAll kind a rest
  | _ :: _ => false

end

/-- The operators that null passes: those that ask for something not to be the case. -/
def negatingOperators : List String := ["$ne", "$nin", "$not"]

def passesNull : Value → Bool
  | .text operator => negatingOperators.contains operator
  | _ => false

def meetsNull : Value → Bool
  | .dict tests => tests.all fun test => passesNull test.1
  | _ => false

def comparingOperators : List String := ["$eq", "$ne", "$lt", "$lte", "$gt", "$gte"]

def listingOperators : List String := ["$in", "$nin"]

/-- Whether an operator has values of a column's own type. -/
def isPlainOperator (kind : ColumnKind) (operator : String) (v : Value) : Bool :=
  comparingOperators.contains operator && (kind.cell? v).isSome
    || listingOperators.contains operator
      && v.array?.any fun items => items.all fun item => (kind.cell? item).isSome

mutual

/-- Whether a column is asked to be a value of its own type, or to pass tests with such values. -/
def isPlainDemand (kind : ColumnKind) : Value → Bool
  | .dict tests => arePlainTests kind tests
  | v => (kind.cell? v).isSome

/-- Whether all tests have values of a column's own type, at any depth of `$not`. -/
def arePlainTests (kind : ColumnKind) : List (Value × Value) → Bool
  | [] => true
  | (.text operator, v) :: rest =>
    (if operator = "$not" then isPlainDemand kind v else isPlainOperator kind operator v)
      && arePlainTests kind rest
  | _ :: _ => false

end

/-- The conditions on a column are plain, and together they say of a cell that is not null what a
test says. -/
def Reads (c : Column) (conditions : List Condition) (test : Cell → Bool) : Prop :=
  (∀ a ∈ conditions, a.MadeOf Condition.IsPlainTest) ∧
    ∀ row : Row, row.cell c.name ≠ .null →
      Join.conjunction.combineAll (conditions.map (·.truth row)) = some (test (row.cell c.name))

theorem Reads.nil (c : Column) : Reads c [] fun _ => true :=
  ⟨by simp, fun _ _ => rfl⟩

theorem Reads.cons {c : Column} {a : Condition} {rest : List Condition} {s t : Cell → Bool}
    (ha : Reads c [a] s) (hr : Reads c rest t) : Reads c (a :: rest) fun x => s x && t x := by
  refine ⟨fun b hb => ?_, fun row hn => ?_⟩
  · rcases List.mem_cons.mp hb with rfl | hb
    · exact ha.1 b (by simp)
    · exact hr.1 b hb
  · have h1 : a.truth row = some (s (row.cell c.name)) := by
      simpa using ha.2 row hn
    rw [List.map_cons, Join.combineAll_cons, hr.2 row hn, h1]
    exact Truth.both_some _ _

theorem reads_single {c : Column} {a : Condition} {test : Cell → Bool}
    (hp : a.MadeOf Condition.IsPlainTest)
    (ht : ∀ row : Row, row.cell c.name ≠ .null → a.truth row = some (test (row.cell c.name))) :
    Reads c [a] test := by
  refine ⟨fun b hb => ?_, fun row hn => ?_⟩
  · rw [List.mem_singleton.mp hb]; exact hp
  · simpa using ht row hn

theorem reads_compare {c : Column} {v : Value} {b : Cell} (comparison : Comparison)
    (h : c.kind.cell? v = some b) :
    Reads c [.compare c comparison v] fun x => x.compares comparison b :=
  reads_single (.test (storable_of_cell? h)) fun _ hn => Condition.truth_compare comparison hn h

theorem equals_own {c : Column} {v : Value} {b : Cell} (h : c.kind.cell? v = some b) :
    equals c v = .compare c .equal v := by
  cases v with
  | null => simpa [Value.isNull] using isNull_of_cell? h
  | _ => rfl

theorem differsFrom_own {c : Column} {v : Value} {b : Cell} (h : c.kind.cell? v = some b) :
    differsFrom c v = .differs c v := by
  cases v with
  | null => simpa [Value.isNull] using isNull_of_cell? h
  | _ => rfl

theorem reads_equals {c : Column} {v : Value} {b : Cell} (h : c.kind.cell? v = some b) :
    Reads c [equals c v] fun x => x.compares .equal b := by
  rw [equals_own h]
  exact reads_compare .equal h

theorem reads_differs {c : Column} {v : Value} {b : Cell} (h : c.kind.cell? v = some b) :
    Reads c [.differs c v] fun x => !x.compares .equal b :=
  reads_single (.test (storable_of_cell? h)) fun _ _ => Condition.truth_differs h

theorem memberOf_own {c : Column} {items : List Value}
    (h : ∀ item ∈ items, (c.kind.cell? item).isSome = true) :
    memberOf c items = .ok (.member c items) := by
  have hn : items.any Value.isNull = false := by
    rw [List.any_eq_false]
    intro v hv
    obtain ⟨b, hb⟩ := Option.isSome_iff_exists.mp (h v hv)
    simp [isNull_of_cell? hb]
  simp [memberOf, hn]

theorem reads_member {c : Column} {items : List Value}
    (h : ∀ item ∈ items, (c.kind.cell? item).isSome = true) :
    Reads c [.member c items] fun x => x.isAmong c.kind items := by
  refine reads_single (.test fun v hv => ?_) fun row hn => Condition.truth_member hn h
  obtain ⟨b, hb⟩ := Option.isSome_iff_exists.mp (h v hv)
  exact storable_of_cell? hb

theorem reads_missing_or_not {c : Column} {a : Condition} {test : Cell → Bool}
    (h : Reads c [a] test) : Reads c [.either (.isNull c) (.negated a)] fun x => !test x := by
  refine reads_single ?_ fun row hn => ?_
  · exact .either (.test trivial) (.negated (h.1 a (by simp)))
  · have ha : a.truth row = some (test (row.cell c.name)) := by simpa using h.2 row hn
    show Truth.either (some (row.cell c.name).isNull) (a.truth row).negate = _
    rw [Cell.isNull_eq_false hn, ha]
    exact Truth.either_some _ _

/-- `excluding` selects the cells that fail the test of its conditions, null included. -/
theorem reads_excluding {c : Column} {conditions : List Condition} {test : Cell → Bool}
    (h : Reads c conditions test) : Reads c [excluding c conditions] fun x => !test x := by
  unfold excluding
  refine reads_single ?_ fun row hn => ?_
  · exact (Condition.MadeOf.test trivial).orElse (Condition.MadeOf.all h.1).contrary
  · rw [Condition.truth_orElse, Condition.truth_contrary, Condition.truth_all, h.2 row hn]
    show Truth.either (some (row.cell c.name).isNull) (some (!test (row.cell c.name))) = _
    rw [Cell.isNull_eq_false hn, Truth.either_some, Bool.false_or]

/-! ## One operator -/

/-- The conditions of operators whose values are of the column's own type. -/
inductive OwnCondition (c : Column) (v : Value) : String → Condition → Prop where
  | equal {b : Cell} : c.kind.cell? v = some b → OwnCondition c v "$eq" (.compare c .equal v)
  | differs {b : Cell} : c.kind.cell? v = some b → OwnCondition c v "$ne" (.differs c v)
  | ordered {operator : String} {comparison : Comparison} {b : Cell} :
      comparison? operator = some comparison → c.kind.cell? v = some b →
      OwnCondition c v operator (.compare c comparison v)
  | among {items : List Value} :
      v.array? = some items → (∀ item ∈ items, (c.kind.cell? item).isSome = true) →
      OwnCondition c v "$in" (.member c items)
  | notAmong {items : List Value} :
      v.array? = some items → (∀ item ∈ items, (c.kind.cell? item).isSome = true) →
      OwnCondition c v "$nin" (.either (.isNull c) (.negated (.member c items)))

theorem operatorCondition_own {c : Column} {key v : Value} {operator : String} {a : Condition}
    (hp : isPlainOperator c.kind operator v = true)
    (h : operatorCondition c key operator v = .ok a) :
    OwnCondition c v operator a := by
  simp only [isPlainOperator, Bool.or_eq_true, Bool.and_eq_true, List.contains_iff_mem,
    Option.any_eq_true, List.all_eq_true] at hp
  rcases hp with ⟨ho, hv⟩ | ⟨ho, items, hi, hv⟩
  · obtain ⟨b, hb⟩ := Option.isSome_iff_exists.mp hv
    simp only [comparingOperators, List.mem_cons, List.not_mem_nil, or_false] at ho
    rcases ho with rfl | rfl | rfl | rfl | rfl | rfl
    · simp only [operatorCondition, if_true, equals_own hb] at h
      cases h
      exact .equal hb
    · simp [operatorCondition, differsFrom_own hb] at h
      cases h
      exact .differs hb
    all_goals
      simp [operatorCondition, comparison?] at h
      split at h
      · cases h
        exact .ordered rfl hb
      · cases h
  · simp only [listingOperators, List.mem_cons, List.not_mem_nil, or_false] at ho
    have hm := memberOf_own hv
    rcases ho with rfl | rfl
    · simp [operatorCondition, valuesOf, hi, hm] at h
      cases h
      exact .among hi hv
    · simp [operatorCondition, valuesOf, hi, hm] at h
      cases h
      exact .notAmong hi hv

theorem operator_of_comparison? {operator : String} {comparison : Comparison}
    (h : comparison? operator = some comparison) :
    passesNull (.text operator) = false ∧ ∀ (kind : ColumnKind) (a : Cell) (v : Value),
      a.passes kind operator v = (kind.cell? v).any (a.compares comparison) := by
  unfold comparison? at h
  split at h
  · rename_i ho; cases h; subst ho; exact ⟨rfl, fun _ _ _ => rfl⟩
  · split at h
    · rename_i ho; cases h; subst ho; exact ⟨rfl, fun _ _ _ => rfl⟩
    · split at h
      · rename_i ho; cases h; subst ho; exact ⟨rfl, fun _ _ _ => rfl⟩
      · split at h
        · rename_i ho; cases h; subst ho; exact ⟨rfl, fun _ _ _ => rfl⟩
        · cases h

theorem operatorCondition_reads {c : Column} {key v : Value} {operator : String} {a : Condition}
    (hp : isPlainOperator c.kind operator v = true)
    (h : operatorCondition c key operator v = .ok a) :
    Reads c [a] fun x => x.passes c.kind operator v := by
  cases operatorCondition_own hp h with
  | equal hb => simpa [Cell.passes, hb] using reads_compare .equal hb
  | differs hb => simpa [Cell.passes, hb] using reads_differs hb
  | ordered hc hb => simpa [(operator_of_comparison? hc).2, hb] using reads_compare _ hb
  | among hi hv => simpa [Cell.passes, hi] using reads_member hv
  | notAmong hi hv => simpa [Cell.passes, hi] using reads_missing_or_not (reads_member hv)

/-! ## All operators -/

theorem columnConditions_bare {c : Column} {key v : Value} {b : Cell}
    (hb : c.kind.cell? v = some b) : columnConditions c key v = .ok [equals c v] := by
  cases v <;> first | rfl | simp [ColumnKind.cell?] at hb

/-- The conditions of a bare value of the column's own type select the cells that meet it. -/
theorem columnConditions_own {c : Column} {key v : Value} {conditions : List Condition} {b : Cell}
    (hb : c.kind.cell? v = some b) (h : columnConditions c key v = .ok conditions) :
    Reads c conditions fun x => x.meets c.kind v := by
  have hm : ∀ x : Cell, x.meets c.kind v = x.compares .equal b := by
    intro x
    cases v <;> first | (simp [ColumnKind.cell?] at hb; done) | simp [Cell.meets, hb]
  rw [columnConditions_bare hb] at h
  cases h
  simpa only [hm] using reads_equals hb

mutual

/-- What is asked of a column, at any depth of `$not`. -/
theorem columnConditions_reads {c : Column} {key : Value} :
    ∀ (v : Value) {conditions : List Condition}, isPlainDemand c.kind v = true →
      columnConditions c key v = .ok conditions →
      Reads c conditions fun x => x.meets c.kind v
  | v, conditions, hp, h => by
    cases v with
    | dict tests =>
      simp only [columnConditions] at h
      simp only [isPlainDemand] at hp
      simpa only [Cell.meets] using operatorConditions_reads tests hp h
    | _ =>
      simp only [isPlainDemand] at hp
      obtain ⟨b, hb⟩ := Option.isSome_iff_exists.mp hp
      exact columnConditions_own hb h

theorem operatorConditions_reads {c : Column} {key : Value} :
    ∀ (tests : List (Value × Value)) {conditions : List Condition},
      arePlainTests c.kind tests = true → operatorConditions c key tests = .ok conditions →
      Reads c conditions fun x => x.meetsAll c.kind tests
  | [], _, _, h => by
    simp only [operatorConditions] at h
    cases h
    exact Reads.nil c
  | (key', v) :: rest, conditions, hp, h => by
    cases key' with
    | text operator =>
      simp only [arePlainTests, Bool.and_eq_true] at hp
      simp only [operatorConditions] at h
      simp only [Cell.meetsAll]
      by_cases ho : operator = "$not"
      · rw [if_pos ho] at hp h
        split at h
        · cases h
        · rename_i inner hi
          split at h
          · cases h
          · rename_i more hm
            cases h
            simp only [if_pos ho]
            exact (reads_excluding (columnConditions_reads v hp.1 hi)).cons
              (operatorConditions_reads rest hp.2 hm)
      · rw [if_neg ho] at hp h
        split at h
        · cases h
        · rename_i a ha
          split at h
          · cases h
          · rename_i more hm
            cases h
            simp only [if_neg ho]
            exact (operatorCondition_reads hp.1 ha).cons (operatorConditions_reads rest hp.2 hm)
    | _ => simp [arePlainTests] at hp

end

/-! ## Null -/

section Null

variable {c : Column} {row : Row} (hn : row.cell c.name = .null)
include hn

theorem settle_equals_null {v : Value} {b : Cell} (h : c.kind.cell? v = some b) :
    ((equals c v).truth row).settle false = false := by
  rw [equals_own h, Condition.truth_compare_null .equal hn]
  rfl

theorem truth_missing_or (a : Condition) :
    (Condition.either (.isNull c) a).truth row = some true := by
  show Truth.either (some (row.cell c.name).isNull) (a.truth row) = some true
  rw [hn]
  rfl

theorem truth_excluding_null (conditions : List Condition) :
    (excluding c conditions).truth row = some true := by
  unfold excluding
  rw [Condition.truth_orElse]
  show Truth.either (some (row.cell c.name).isNull) _ = some true
  rw [hn]
  rfl

theorem operatorCondition_null {key v : Value} {operator : String} {a : Condition}
    (hp : isPlainOperator c.kind operator v = true)
    (h : operatorCondition c key operator v = .ok a) :
    (a.truth row).settle false = passesNull (.text operator) := by
  cases operatorCondition_own hp h with
  | equal hb => rw [Condition.truth_compare_null _ hn]; rfl
  | differs hb =>
    rw [Condition.truth_differs hb, hn]
    simp [Truth.settle, (cell?_ne_null hb).symm, passesNull, negatingOperators]
  | ordered hc hb =>
    rw [Condition.truth_compare_null _ hn, (operator_of_comparison? hc).1]
    rfl
  | among hi hv => exact Condition.settle_member_null hn _
  | notAmong hi hv => rw [truth_missing_or hn]; rfl

theorem operatorConditions_null {key : Value} {tests : List (Value × Value)}
    {conditions : List Condition} (hp : arePlainTests c.kind tests = true)
    (h : operatorConditions c key tests = .ok conditions) :
    (Join.conjunction.combineAll (conditions.map (·.truth row))).settle false
      = tests.all fun test => passesNull test.1 := by
  rw [Join.settle_combineAll_conjunction]
  induction tests generalizing conditions with
  | nil =>
    simp only [operatorConditions] at h
    cases h
    rfl
  | cons test rest ih =>
    obtain ⟨operator, v⟩ := test
    cases operator with
    | text operator =>
      simp only [arePlainTests, Bool.and_eq_true] at hp
      simp only [operatorConditions] at h
      by_cases ho : operator = "$not"
      · -- null passes a negation, whatever is negated: nothing is asked of the nesting
        rw [if_pos ho] at h
        split at h
        · cases h
        · rename_i inner hi
          split at h
          · cases h
          · rename_i more hm
            cases h
            rw [List.map_cons, List.all_cons, List.all_cons, ih hp.2 hm,
              truth_excluding_null hn, ho]
            rfl
      · rw [if_neg ho] at hp h
        split at h
        · cases h
        · rename_i a ha
          split at h
          · cases h
          · rename_i more hm
            cases h
            rw [List.map_cons, List.all_cons, List.all_cons, ih hp.2 hm,
              operatorCondition_null hn hp.1 ha]
    | _ => simp [arePlainTests] at hp

/-- What is asked of a column that is null: it is met just if all that is asked is not to be. -/
theorem columnConditions_null {key v : Value} {conditions : List Condition}
    (hp : isPlainDemand c.kind v = true) (h : columnConditions c key v = .ok conditions) :
    (Join.conjunction.combineAll (conditions.map (·.truth row))).settle false = meetsNull v := by
  cases v with
  | dict tests =>
    simp only [columnConditions] at h
    simp only [isPlainDemand] at hp
    exact operatorConditions_null hn hp h
  | _ =>
    simp only [isPlainDemand] at hp
    obtain ⟨b, hb⟩ := Option.isSome_iff_exists.mp hp
    rw [columnConditions_bare hb] at h
    cases h
    simpa [meetsNull] using settle_equals_null hn hb

end Null

/-! ## Keys of columns -/

theorem criteriaParts_single {shape : Shape} {key v : Value} {parts : List Part}
    (h : criteriaParts shape (.dict [(key, v)]) = .ok parts) :
    keyParts shape key v = .ok parts := by
  simp only [criteriaParts, entryParts] at h
  split at h
  · cases h
  · rename_i first hf
    cases h
    rw [hf, List.append_nil]

theorem keyParts_of_column {shape : Shape} {key : Value} (hk : Connective.ofKey? key = none)
    (v : Value) : keyParts shape key v = columnParts shape key v := by
  cases v <;> simp only [keyParts, hk]

theorem columnParts_of_ok {shape : Shape} {key criterion : Value} {parts : List Part}
    (h : columnParts shape key criterion = .ok parts) :
    ∃ c conditions, key.text?.bind shape.resolve? = some c ∧
      columnConditions c key criterion = .ok conditions ∧ parts = conditions.map .proper := by
  unfold columnParts resolveColumn at h
  cases hc : key.text?.bind shape.resolve? with
  | none => rw [hc] at h; cases h
  | some c =>
    rw [hc] at h
    obtain ⟨conditions, hk, rfl⟩ := map_eq_ok_iff.mp h
    exact ⟨c, conditions, rfl, hk, rfl⟩

end Store
end QueryOptions
