import QueryOptions.Proofs.Reading

/-!
# QueryOptions.Proofs.Complement

Criteria of a column and their negation. Of a row in which the column is null, a negation is always
true, whatever is negated. Of any other row it is never true together with the criteria, and one of
both is true, because nothing that the database has looked at can be unknown of it
(`Condition.truth_isSome`). The latter leaves out two things (`isDecided`): null among the values of
a list, and a double that is no number, as long as something is compared with it.

* `Condition.orderOf_isSome`: what a cell compares with;
* `Condition.truth_known`, `Condition.truth_isSome`: conditions made of decided tests, if the
  database does not fail;
* `columnConditions_decided`: the criteria of a column, at any depth of `$not`;
* `Documents.negation_selects`: the rows of a negation;
* `Documents.find_complement`: the documents of criteria and of their negation.
-/

namespace QueryOptions
namespace Store

/-! ## Values that compare -/

/-- Whether a column sees a value as a double that compares with nothing. -/
def seesUndefined (c : Column) (v : Value) : Bool :=
  match Datum.ofValue v with
  | .ok .null => !v.isNull
  | .ok d =>
    match d.seenBy c.kind with
    | .real x => Decimal.readDouble x == .undefined
    | _ => false
  | .error _ => false

/-- A value other than null that compares with the cells of a column. -/
def isComparable (c : Column) (v : Value) : Bool := !v.isNull && !seesUndefined c v

mutual

/-- Whether all values that a column is asked to compare with are decided: none is an undefined
double, and there is no null in a list. What a column differs from need not be decided. -/
def isDecided (c : Column) : Value → Bool
  | .dict tests => areDecided c tests
  | v => !seesUndefined c v

/-- Whether the values of all tests are decided, at any depth of `$not`. -/
def areDecided (c : Column) : List (Value × Value) → Bool
  | [] => true
  | (.text operator, v) :: rest =>
    (if operator = "$not" then isDecided c v
      else if operator = "$ne" then true
      else !seesUndefined c v && (v.array?.getD []).all (isComparable c))
      && areDecided c rest
  | _ :: rest => areDecided c rest

end

namespace Condition

/-- A test of one column that is decided for every cell that is not null. -/
def IsDecidedTest (c : Column) : Condition → Prop
  | .isNull _ => True
  | .compare d _ v => d = c ∧ isComparable c v = true
  | .differs _ _ => True
  | .member d items => d = c ∧ ∀ v ∈ items, isComparable c v = true
  | .found d _ => d = c
  | _ => False

variable {row : Row} {c : Column}

theorem numberOfText?_ne_null {s : String} {d : Datum} (h : numberOfText? s = some d) :
    d ≠ .null := by
  unfold numberOfText? at h
  rintro rfl
  split at h
  · cases h
  · cases h
  · split at h <;> cases h

theorem seenBy_ne_null {kind : ColumnKind} {d : Datum} (h : d ≠ .null) : d.seenBy kind ≠ .null := by
  have hnumber (s : String) : (numberOfText? s).getD (.text s) ≠ .null := by
    cases hs : numberOfText? s with
    | none => simp
    | some d => exact numberOfText?_ne_null hs
  cases d with
  | null => exact absurd rfl h
  | text s => cases kind <;> simp [Datum.seenBy, hnumber s]
  | _ => cases kind <;> simp [Datum.seenBy]

/-- What compares with a column is something for the database, and no undefined double. -/
theorem seenBy_of_isComparable {v : Value} {d : Datum} (hc : isComparable c v = true)
    (hd : Datum.ofValue v = .ok d) : d.seenBy c.kind ≠ .null ∧
      ∀ x, d.seenBy c.kind = .real x → Decimal.readDouble x ≠ .undefined := by
  simp only [isComparable, seesUndefined, hd, Bool.and_eq_true, Bool.not_eq_true'] at hc
  obtain ⟨hnull, hdefined⟩ := hc
  have hne : d ≠ .null := by
    rintro rfl
    simp [hnull] at hdefined
  refine ⟨seenBy_ne_null hne, fun x hx hu => ?_⟩
  cases d with
  | null => exact hne rfl
  | _ => simp [hx, hu] at hdefined

theorem compareTo_isSome {a : Cell} {d : Datum} (ha : a ≠ .null) (hd : d ≠ .null)
    (hx : ∀ x, d = .real x → Decimal.readDouble x ≠ .undefined) :
    (a.compareTo d).isSome = true := by
  cases a with
  | null => exact absurd rfl ha
  | integer m =>
    cases d with
    | null => exact absurd rfl hd
    | real x =>
      have hr := hx x rfl
      simp only [Cell.compareTo, Option.isSome_map, Decimal.compareDoubleInt]
      cases hread : Decimal.readDouble x with
      | undefined => exact absurd hread hr
      | infinite negative => cases negative <;> rfl
      | finite f => rfl
    | _ => rfl
  | text s =>
    cases d with
    | null => exact absurd rfl hd
    | _ => rfl

/-- A cell that is not null has an order with every value that the database takes. -/
theorem orderOf_isSome {v : Value} (hn : row.cell c.name ≠ .null) (hs : Storable v)
    (hc : isComparable c v = true) : (orderOf row c v).isSome = true := by
  obtain ⟨d, hd⟩ := hs
  have hseen : datumFor c v = d.seenBy c.kind := by
    unfold datumFor
    rw [hd]
  obtain ⟨hnull, hdefined⟩ := seenBy_of_isComparable hc hd
  unfold orderOf
  rw [hseen]
  exact compareTo_isSome hn hnull hdefined

theorem memberTruth_isSome {items : List Value}
    (h : ∀ v ∈ items, (orderOf row c v).isSome = true) :
    (memberTruth row c items).isSome = true := by
  unfold memberTruth
  induction items with
  | nil => rfl
  | cons v rest ih =>
    obtain ⟨order, ho⟩ := Option.isSome_iff_exists.mp (h v (by simp))
    obtain ⟨b, hb⟩ := Option.isSome_iff_exists.mp (ih fun w hw => h w (List.mem_cons_of_mem _ hw))
    rw [List.foldr_cons, hb, ho, Option.map_some, Truth.either_some]
    rfl

/-- A test that is decided for a row: its column is not null there. -/
def IsDecidedOn (row : Row) (a : Condition) : Prop :=
  ∃ c : Column, row.cell c.name ≠ .null ∧ IsDecidedTest c a

theorem found_known {d : Column} {pattern : String} (hn : row.cell d.name ≠ .null) {unknown : Bool}
    (hf : (found d pattern).fails row unknown = false) :
    ((found d pattern).truth row).isSome = true := by
  simp only [truth, fails] at hf ⊢
  cases hcell : row.cell d.name with
  | null => exact absurd hcell hn
  | integer n =>
    rw [hcell] at hf
    cases hf
  | text s =>
    rw [hcell] at hf
    simp only [search?] at hf ⊢
    cases hr : Regex.compile pattern {} with
    | error p => simp [hr] at hf
    | ok r => rfl

theorem test_known {a : Condition} (ha : IsDecidedOn row a) (hs : ∀ v ∈ a.parameters, Storable v)
    {unknown : Bool} (hf : a.fails row unknown = false) : (a.truth row).isSome = true := by
  obtain ⟨c, hn, ha⟩ := ha
  cases a with
  | isNull d => rfl
  | differs d v =>
    rfl
  | compare d comparison v =>
    obtain ⟨rfl, hv⟩ := ha
    simp only [truth, Option.isSome_map]
    exact orderOf_isSome hn (hs v (by simp [parameters])) hv
  | member d items =>
    obtain ⟨rfl, hv⟩ := ha
    refine memberTruth_isSome fun v hm => orderOf_isSome hn (hs v ?_) (hv v hm)
    have hc := hv v hm
    simp only [isComparable, Bool.and_eq_true] at hc
    exact List.mem_filter.mpr ⟨hm, hc.1⟩
  | found d pattern =>
    obtain rfl := ha
    exact found_known hn hf
  | _ => cases ha

/-- Nothing that the database has looked at without failing is unknown of a row in which no column
is null. -/
theorem truth_known {a : Condition} (ha : a.MadeOf (IsDecidedOn row))
    (hs : ∀ v ∈ a.parameters, Storable v) {unknown : Bool} (hf : a.fails row unknown = false) :
    (a.truth row).isSome = true := by
  induction ha generalizing unknown with
  | always => rfl
  | never => rfl
  | test ha => exact test_known ha hs hf
  | both _ _ iha ihb =>
    simp only [fails, Bool.or_eq_false_iff, Bool.and_eq_false_iff] at hf
    obtain ⟨x, hx⟩ := Option.isSome_iff_exists.mp
      (iha (fun v hv => hs v (List.mem_append_left _ hv)) hf.1)
    simp only [truth, hx]
    -- the second part has been looked at, unless the first one is false
    cases x with
    | false => rfl
    | true =>
      rw [Truth.both_true]
      refine ihb (fun v hv => hs v (List.mem_append_right _ hv)) (hf.2.resolve_left ?_)
      simp [hx, Truth.settle]
  | either _ _ iha ihb =>
    simp only [fails, Bool.or_eq_false_iff, Bool.and_eq_false_iff] at hf
    obtain ⟨x, hx⟩ := Option.isSome_iff_exists.mp
      (iha (fun v hv => hs v (List.mem_append_left _ hv)) hf.1)
    simp only [truth, hx]
    cases x with
    | true => rfl
    | false =>
      rw [Truth.either_false]
      refine ihb (fun v hv => hs v (List.mem_append_right _ hv)) (hf.2.resolve_left ?_)
      simp [hx, Truth.settle]
  | negated _ ih =>
    simp only [truth, Truth.negate, Option.isSome_map]
    exact ih hs hf

/-- `truth_known` for a condition made of tests of a single column: it is known of a row in which
this column is not null. -/
theorem truth_isSome {a : Condition} (ha : a.MadeOf (IsDecidedTest c))
    (hn : row.cell c.name ≠ .null) (hs : ∀ v ∈ a.parameters, Storable v) {unknown : Bool}
    (hf : a.fails row unknown = false) : (a.truth row).isSome = true :=
  truth_known (ha.mono fun _ ht => ⟨c, hn, ht⟩) hs hf

end Condition

/-! ## The criteria of a column -/

section

variable {c : Column} {key : Value}

open Condition

theorem equals_decided {v : Value} (h : seesUndefined c v = false) :
    (equals c v).MadeOf (IsDecidedTest c) := by
  refine .test ?_
  cases v with
  | null => trivial
  | _ => exact ⟨rfl, by simp [isComparable, Value.isNull, h]⟩

theorem memberOf_decided {items : List Value} {a : Condition}
    (h : ∀ v ∈ items, isComparable c v = true) (hm : memberOf c items = .ok a) :
    a.MadeOf (IsDecidedTest c) := by
  unfold memberOf at hm
  split at hm
  · cases hm
  · cases hm
    exact .test ⟨rfl, h⟩

theorem differsFrom_decided (v : Value) : (differsFrom c v).MadeOf (IsDecidedTest c) := by
  cases v with
  | null => exact .negated (.test trivial)
  | _ => exact .test trivial

theorem array?_of_valuesOf {operator : String} {v : Value} {items : List Value}
    (h : valuesOf operator key v = .ok items) : v.array? = some items := by
  unfold valuesOf at h
  split at h
  · cases h
    assumption
  · cases h

theorem operatorCondition_decided {v : Value} {operator : String} {a : Condition}
    (hne : operator ≠ "$ne") (hv : seesUndefined c v = false)
    (hitems : ∀ w ∈ v.array?.getD [], isComparable c w = true)
    (h : operatorCondition c key operator v = .ok a) : a.MadeOf (IsDecidedTest c) := by
  have hmember {items : List Value} {m : Condition} (ho : valuesOf operator key v = .ok items)
      (hm : memberOf c items = .ok m) : m.MadeOf (IsDecidedTest c) := by
    rw [array?_of_valuesOf ho] at hitems
    exact memberOf_decided hitems hm
  unfold operatorCondition at h
  split at h
  · cases h
    exact equals_decided hv
  · split at h
    · split at h
      · cases h
      · rename_i items ho
        exact hmember ho h
    · split at h
      · split at h
        · cases h
        · rename_i items ho
          split at h
          · cases h
          · rename_i m hm
            cases h
            exact .either (.test trivial) (.negated (hmember ho hm))
      · split at h
        · split at h
          · rename_i hordered
            cases h
            refine .test ⟨rfl, ?_⟩
            cases v <;> simp_all [isComparable, isOrdered, Value.isNull]
          · cases h
        · cases h

mutual

/-- What is asked of a column is decided, at any depth of `$not`. -/
theorem columnConditions_decided :
    ∀ (v : Value) {conditions : List Condition}, isDecided c v = true →
      columnConditions c key v = .ok conditions →
      ∀ a ∈ conditions, a.MadeOf (IsDecidedTest c)
  | v, conditions, hd, h => by
    cases v with
    | dict tests =>
      simp only [columnConditions] at h
      simp only [isDecided] at hd
      exact operatorConditions_decided tests hd h
    | regex r =>
      simp only [columnConditions] at h
      cases h
      intro a ha
      rw [List.mem_singleton.mp ha]
      exact .test rfl
    | _ =>
      simp only [columnConditions] at h
      simp only [isDecided, Bool.not_eq_true'] at hd
      cases h
      intro a ha
      rw [List.mem_singleton.mp ha]
      exact equals_decided hd

theorem operatorConditions_decided :
    ∀ (tests : List (Value × Value)) {conditions : List Condition}, areDecided c tests = true →
      operatorConditions c key tests = .ok conditions →
      ∀ a ∈ conditions, a.MadeOf (IsDecidedTest c)
  | [], _, _, h => by
    simp only [operatorConditions] at h
    cases h
    simp
  | (key', v) :: rest, conditions, hd, h => by
    cases key' with
    | text operator =>
      simp only [areDecided, Bool.and_eq_true] at hd
      simp only [operatorConditions] at h
      by_cases ho : operator = "$not"
      · rw [if_pos ho] at hd h
        split at h
        · cases h
        · rename_i inner hi
          split at h
          · cases h
          · rename_i more hm
            cases h
            have hall := Condition.MadeOf.all (columnConditions_decided v hd.1 hi)
            exact List.forall_mem_cons.mpr
              ⟨(Condition.MadeOf.test trivial).orElse hall.contrary,
                operatorConditions_decided rest hd.2 hm⟩
      · rw [if_neg ho] at hd h
        split at h
        · cases h
        · rename_i a ha
          split at h
          · cases h
          · rename_i more hm
            cases h
            refine List.forall_mem_cons.mpr ⟨?_, operatorConditions_decided rest hd.2 hm⟩
            by_cases hne : operator = "$ne"
            · subst hne
              cases ha
              exact differsFrom_decided v
            · rw [if_neg hne] at hd
              obtain ⟨hv, hitems⟩ := Bool.and_eq_true_iff.mp hd.1
              exact operatorCondition_decided hne (by simpa using hv)
                (List.all_eq_true.mp hitems) ha
    | _ =>
      simp only [operatorConditions] at h
      cases h

end

end

/-! ## Documents -/

namespace Documents

variable {session : Session} {model : Model} {key criterion : Value} {q n : Documents}

/-- A negation is asked of columns alone. -/
theorem ofKey?_of_find_not {s : Option Session}
    (h : find s false model (.dict [(key, .dict [(.text "$not", criterion)])]) = .ok n) :
    Connective.ofKey? key = none := by
  obtain ⟨condition, hcondition, -⟩ := find_eq_ok h
  obtain ⟨parts, hparts, -⟩ := map_eq_ok_iff.mp hcondition
  have hkey := criteriaParts_single hparts
  cases hk : Connective.ofKey? key with
  | none => rfl
  | some connective =>
    simp only [keyParts, hk] at hkey
    cases hkey

/-- The condition of `find` with a single entry under a column: all `columnConditions` of the
criterion joined. -/
theorem condition_of_find {s : Option Session} (hk : Connective.ofKey? key = none)
    (h : find s false model (.dict [(key, criterion)]) = .ok q) :
    ∃ c conditions, columnOf? model.shape key = some c ∧
      columnConditions c key criterion = .ok conditions ∧
      (∀ row, q.condition.truth row
        = Join.conjunction.combineAll (conditions.map (·.truth row))) ∧
      ∀ P : Condition → Prop, (∀ a ∈ conditions, a.MadeOf P) → q.condition.MadeOf P := by
  obtain ⟨condition, hcondition, rfl⟩ := find_eq_ok h
  obtain ⟨parts, hparts, rfl⟩ := map_eq_ok_iff.mp hcondition
  have hkey := criteriaParts_single hparts
  rw [keyParts_of_column hk] at hkey
  obtain ⟨c, conditions, hc, hconditions, rfl⟩ := columnParts_of_ok hkey
  exact ⟨c, conditions, hc, hconditions, Join.condition_conjunction conditions⟩

/-- `execute` of a query that is neither ordered nor cut gives the rows that its condition selects,
and the condition fails in none of them. -/
theorem sound_of_execute {awaited : Bool} {criteria : Value} {result : Result}
    (h : find (some session) false model criteria = .ok q)
    (hrun : (q.execute awaited).2 = .ok result) :
    result = q.selected session.database ∧
      q.condition.IsSound (session.database.rowsOf model.shape.table) := by
  obtain ⟨condition, -, rfl⟩ := find_eq_ok h
  obtain ⟨_, slice, rows, hsession, hslice, hrows, rfl⟩ := execute_ok rfl hrun
  cases hsession
  cases hslice
  have hselected := rows_of_ok hrows
  rw [Slice.take_all, sortRows_nil] at hselected
  exact ⟨by rw [hselected]; rfl, sound_of_rows hrows⟩

theorem execute_found {awaited : Bool} {criteria : Value} {result : Result}
    (h : find (some session) false model criteria = .ok q)
    (hrun : (q.execute awaited).2 = .ok result) :
    result = .list (((session.database.rowsOf model.shape.table).filter
        fun row => q.condition.selects row).map (q.document session.database)) ∧
      (∀ v ∈ q.condition.parameters, Storable v) ∧
      ∀ row ∈ session.database.rowsOf model.shape.table, q.condition.fails row false = false := by
  obtain ⟨hresult, hsound⟩ := sound_of_execute h hrun
  obtain ⟨condition, -, rfl⟩ := find_eq_ok h
  exact ⟨hresult, hsound.storable, hsound.steady⟩

/-- A negation selects rows in which the column is null, and those of which the criteria are
false. -/
theorem negation_selects {s : Option Session} {c : Column}
    (hc : columnOf? model.shape key = some c)
    (hfind : find s false model (.dict [(key, criterion)]) = .ok q)
    (hnot : find s false model (.dict [(key, .dict [(.text "$not", criterion)])]) = .ok n)
    (row : Row) :
    n.condition.selects row
      = ((row.cell c.name).isNull || !(q.condition.truth row).settle true) := by
  have hk := ofKey?_of_find_not hnot
  obtain ⟨d, conditions, hd, hconditions, htruth, -⟩ := condition_of_find hk hfind
  obtain rfl : c = d := Option.some.inj (hc.symm.trans hd)
  obtain ⟨d, excluded, hd, hexcluded, htruthNot, -⟩ := condition_of_find hk hnot
  obtain rfl : c = d := Option.some.inj (hc.symm.trans hd)
  have hexclude : excluded = [excluding c conditions] := by
    simp only [columnConditions, operatorConditions, if_true, hconditions] at hexcluded
    cases hexcluded
    rfl
  have hnegation : n.condition.truth row = (excluding c conditions).truth row := by
    rw [htruthNot, hexclude]
    exact Join.combine_unit_right .conjunction _
  unfold Condition.selects
  rw [hnegation]
  unfold excluding
  rw [Condition.truth_orElse, Condition.truth_contrary, Condition.truth_all, ← htruth,
    Truth.settle_either, Truth.settle_negate]
  rfl

/-- The documents of a negation, next to those of what is negated. -/
theorem find_complement {awaited : Bool} {result negated : Result}
    (hfind : find (some session) false model (.dict [(key, criterion)]) = .ok q)
    (hnot : find (some session) false model (.dict [(key, .dict [(.text "$not", criterion)])])
      = .ok n)
    (hrun : (q.execute awaited).2 = .ok result)
    (hrunNot : (n.execute awaited).2 = .ok negated) :
    result = .list (((session.database.rowsOf model.shape.table).filter
        fun row => q.condition.selects row).map (q.document session.database)) ∧
      negated = .list (((session.database.rowsOf model.shape.table).filter
        fun row => n.condition.selects row).map (q.document session.database)) ∧
      ∃ c, columnOf? model.shape key = some c ∧
        ∀ row ∈ session.database.rowsOf model.shape.table,
          (row.cell c.name = .null → n.condition.selects row = true) ∧
          (row.cell c.name ≠ .null → q.condition.selects row = true →
            n.condition.selects row = false) ∧
          (row.cell c.name ≠ .null → isDecided c criterion = true →
            n.condition.selects row = !q.condition.selects row) := by
  obtain ⟨c, conditions, hc, hconditions, -, hmade⟩ :=
    condition_of_find (ofKey?_of_find_not hnot) hfind
  obtain ⟨hresult, hstorable, hfails⟩ := execute_found hfind hrun
  obtain ⟨hnegated, -, -⟩ := execute_found hnot hrunNot
  refine ⟨hresult, ?_, c, hc, fun row hrow => ?_⟩
  · rw [hnegated]
    obtain ⟨_, -, rfl⟩ := find_eq_ok hfind
    obtain ⟨_, -, rfl⟩ := find_eq_ok hnot
    rfl
  · have hselects := negation_selects hc hfind hnot row
    refine ⟨fun hnull => ?_, fun hnull hselected => ?_, fun hnull hdecided => ?_⟩
    · rw [hselects, hnull]
      rfl
    · rw [hselects, Cell.isNull_eq_false hnull, Truth.settle_of_settle hselected]
      rfl
    · have hdefinite := Condition.truth_isSome
        (hmade _ (columnConditions_decided criterion hdecided hconditions)) hnull hstorable
        (hfails row hrow)
      rw [hselects, Cell.isNull_eq_false hnull, Truth.settle_of_isSome hdefinite false]
      rfl

/-- A query for what is asked of one column of persons. -/
def ofPersons (key : String) (criterion : Value) : Except Fault Documents :=
  find (some Sample.session) false (Sample.personModel "Person") (.dict [(.text key, criterion)])

def ofNumbers (q : Documents) (numbers : List Nat) : Result :=
  .list (numbers.map fun i =>
    q.document Sample.database (Sample.persons.map Sample.Person.row)[i]!)

/-- Persons with a nickname, and all the others. -/
theorem nick_complement :
    ∃ q n c, ofPersons "nick" (.text "root") = .ok q ∧
      ofPersons "nick" (.dict [(.text "$not", .text "root")]) = .ok n ∧
      (q.execute false).2 = .ok (q.ofNumbers [0, 7]) ∧
      (n.execute false).2 = .ok (q.ofNumbers [1, 2, 3, 4, 5, 6, 8, 9, 10, 11, 12, 13]) ∧
      columnOf? (Sample.personShape "Person") (.text "nick") = some c ∧
      isDecided c (.text "root") = true ∧
      ∀ row ∈ Sample.database.rowsOf "persons", row.cell c.name ≠ .null →
        n.condition.selects row = !q.condition.selects row := by
  have hcomplement {q n : Documents} {c : Column} {result negated : Result}
      (hfind : ofPersons "nick" (.text "root") = .ok q)
      (hnot : ofPersons "nick" (.dict [(.text "$not", .text "root")]) = .ok n)
      (hrun : (q.execute false).2 = .ok result) (hrunNot : (n.execute false).2 = .ok negated)
      (hc : columnOf? (Sample.personShape "Person") (.text "nick") = some c)
      (hdecided : isDecided c (.text "root") = true) :
      ∀ row ∈ Sample.database.rowsOf "persons", row.cell c.name ≠ .null →
        n.condition.selects row = !q.condition.selects row := by
    obtain ⟨-, -, d, hd, hrows⟩ := find_complement hfind hnot hrun hrunNot
    obtain rfl : c = d := Option.some.inj (hc.symm.trans hd)
    exact fun row hrow hnull => (hrows row hrow).2.2 hnull hdecided
  exact ⟨_, _, _, rfl, rfl, rfl, rfl, rfl, rfl, hcomplement rfl rfl rfl rfl rfl rfl⟩

/-- A person without a nickname is selected both by a negated criterion and by its negation. One
whose age is not among some values and null is selected neither by that nor by its negation. -/
theorem null_breaks_complement :
    (∃ q n, ofPersons "nick" (.dict [(.text "$ne", .text "root")]) = .ok q ∧
      ofPersons "nick" (.dict [(.text "$not", .dict [(.text "$ne", .text "root")])]) = .ok n ∧
      (q.execute false).2 = .ok (q.ofNumbers [1, 2, 3, 4, 5, 6, 8, 9, 10, 11, 12, 13]) ∧
      (n.execute false).2 = .ok (q.ofNumbers [0, 1, 6, 7])) ∧
    ∃ q n, ofPersons "age" (.dict [(.text "$in", .list [.int 40, .null])]) = .ok q ∧
      ofPersons "age" (.dict [(.text "$not", .dict [(.text "$in", .list [.int 40, .null])])])
        = .ok n ∧
      (q.execute false).2 = .ok (q.ofNumbers [0, 13]) ∧
      (n.execute false).2 = .ok (q.ofNumbers [6]) :=
  ⟨⟨_, _, rfl, rfl, rfl, rfl⟩, _, _, rfl, rfl, rfl, rfl⟩

end Documents
end Store
end QueryOptions
