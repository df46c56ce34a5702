import QueryOptions.Proofs.Clauses
import QueryOptions.Proofs.Complement

/-!
# QueryOptions.Proofs.Membership

Membership in a list, next to equality with its items. A row is selected by a list just if it is
selected by one of the items that are not null, and by the contrary of a list if it is selected by
none of them. A null in the list does not stand for rows in which the column is null: it makes
unknown whether any other cell is in the list, so the contrary of such a list selects rows in which
the column is null, and no others.

* `Condition.selects_member`, `Condition.selects_notMember`: membership and its contrary;
* `Documents.find_single`: a query for what is asked of one column;
* `Documents.findClause_single`: a clause for one item of the list;
* `Documents.find_membership`: all four of them.
-/

namespace QueryOptions
namespace Store

def AreNullOrOwn (c : Column) (items : List Value) : Prop :=
  ∀ v ∈ items, v = .null ∨ (c.kind.cell? v).isSome = true

/-! ## Conditions -/

namespace Condition

variable {row : Row} {c : Column} {items : List Value}

/-- The contrary of membership, which null meets as well. -/
def notMember (c : Column) (items : List Value) : Condition :=
  .either (.isNull c) (.negated (.member c items))

/-- Nothing has an order with a value that is null. -/
theorem orderOf_null_right (row : Row) (c : Column) : orderOf row c .null = none := by
  have hd : datumFor c .null = .null := by
    cases hk : c.kind <;> simp [datumFor, Datum.ofValue, Datum.seenBy, hk]
  unfold orderOf
  rw [hd]
  cases row.cell c.name <;> rfl

/-- Membership is equality with one of the items, whatever unknown counts as. -/
theorem settle_member (unknown : Bool) (row : Row) (c : Column) (items : List Value) :
    ((member c items).truth row).settle unknown
      = items.any fun v => ((compare c .equal v).truth row).settle unknown := by
  show (memberTruth row c items).settle unknown = _
  unfold memberTruth
  induction items with
  | nil => rfl
  | cons v rest ih =>
    rw [List.foldr_cons, Truth.settle_either, ih]
    rfl

theorem settle_equal_null (unknown : Bool) (row : Row) (c : Column) :
    ((compare c .equal .null).truth row).settle unknown = unknown := by
  rw [truth, orderOf_null_right]
  rfl

/-- A row is selected just if it is selected by an item that is not null. -/
theorem selects_member (hitems : AreNullOrOwn c items) :
    (member c items).selects row = true ↔
      ∃ v ∈ items, v ≠ .null ∧ (equals c v).selects row = true := by
  unfold selects
  rw [settle_member, List.any_eq_true]
  refine ⟨?_, ?_⟩
  · rintro ⟨v, hv, h⟩
    refine ⟨v, hv, ?_⟩
    rcases hitems v hv with rfl | hown
    · rw [settle_equal_null] at h
      cases h
    · obtain ⟨b, hb⟩ := Option.isSome_iff_exists.mp hown
      refine ⟨?_, by rwa [equals_own hb]⟩
      rintro rfl
      cases isNull_of_cell? hb
  · rintro ⟨v, hv, hne, h⟩
    obtain ⟨b, hb⟩ := Option.isSome_iff_exists.mp ((hitems v hv).resolve_left hne)
    exact ⟨v, hv, by rwa [equals_own hb] at h⟩

/-- Of a cell that is not null it is known whether it is among items that are not null. -/
theorem settle_member_known (hn : row.cell c.name ≠ .null)
    (hitems : ∀ v ∈ items, (c.kind.cell? v).isSome = true) (unknown : Bool) :
    ((member c items).truth row).settle unknown = (member c items).selects row := by
  unfold selects
  rw [truth_member hn hitems]
  rfl

/-- A row is selected if the column is null, or if there is no null in the list and the row is not
selected by the list. -/
theorem selects_notMember (hitems : AreNullOrOwn c items) :
    (notMember c items).selects row = true ↔
      row.cell c.name = .null ∨ (.null ∉ items ∧ (member c items).selects row = false) := by
  have hsettle : (notMember c items).selects row
      = ((row.cell c.name).isNull || !((member c items).truth row).settle true) := by
    show Truth.settle false (Truth.either (some (row.cell c.name).isNull)
      ((member c items).truth row).negate) = _
    rw [Truth.settle_either, Truth.settle_negate]
    rfl
  rw [hsettle]
  by_cases hn : row.cell c.name = .null
  · simp [hn, Cell.isNull]
  · rw [Cell.isNull_eq_false hn, Bool.false_or, Bool.not_eq_true']
    by_cases hnull : .null ∈ items
    · -- whether the cell equals the null is unknown, so that it may be in the list
      have ht : ((member c items).truth row).settle true = true := by
        rw [settle_member, List.any_eq_true]
        exact ⟨.null, hnull, settle_equal_null true row c⟩
      simp [ht, hn, hnull]
    · have hall : ∀ v ∈ items, (c.kind.cell? v).isSome = true := fun v hv =>
        (hitems v hv).resolve_left fun he => hnull (he ▸ hv)
      rw [settle_member_known hn hall]
      simp [hn, hnull]

end Condition

/-! ## What is asked of a column -/

section Asked

variable {c : Column} {key values : Value} {items : List Value}

theorem memberOf_nullable (hitems : AreNullOrOwn c items) :
    memberOf c items = .ok (.member c items) := by
  have hkeys : items.all Value.isKey = true := by
    rw [List.all_eq_true]
    intro v hv
    rcases hitems v hv with rfl | hown
    · rfl
    · cases v <;> first | rfl | simp [ColumnKind.cell?] at hown
  simp [memberOf, hkeys]

theorem columnConditions_in (harray : values.array? = some items)
    (hitems : AreNullOrOwn c items) :
    columnConditions c key (single "$in" values) = .ok [.member c items] := by
  simp [single, columnConditions, operatorConditions, operatorCondition, valuesOf, harray,
    memberOf_nullable hitems]

theorem columnConditions_nin (harray : values.array? = some items)
    (hitems : AreNullOrOwn c items) :
    columnConditions c key (single "$nin" values) = .ok [.notMember c items] := by
  simp [single, columnConditions, operatorConditions, operatorCondition, valuesOf, harray,
    memberOf_nullable hitems, Condition.notMember]

theorem columnConditions_not_in (harray : values.array? = some items)
    (hitems : AreNullOrOwn c items) :
    columnConditions c key (single "$not" (single "$in" values)) = .ok [.notMember c items] := by
  have hin : columnConditions c key _ = _ := columnConditions_in harray hitems
  unfold single at hin ⊢
  simp only [columnConditions, operatorConditions, if_true] at hin ⊢
  rw [hin]
  rfl

theorem columnConditions_item {v : Value} (h : v = .null ∨ (c.kind.cell? v).isSome = true) :
    columnConditions c key v = .ok [equals c v] := by
  rcases h with rfl | hown
  · rfl
  · obtain ⟨b, hb⟩ := Option.isSome_iff_exists.mp hown
    exact columnConditions_bare hb

end Asked

/-! ## Queries -/

namespace Documents

variable {session : Session} {model : Model} {key : String} {c : Column}

/-- A query for what is asked of one column. -/
def findWhere (session : Session) (model : Model) (key : String) (criterion : Value) :
    Except Fault Documents :=
  find (some session) false model (.dict [(.text key, criterion)])

/-- A query for the rows that pass a clause. -/
def findClause (session : Session) (model : Model) (e : Clause) : Except Fault Documents :=
  match Filters.predicate (.list [e.toValue]) with
  | .error f => .error f
  | .ok entries => find (some session) false model (.dict entries)

theorem find_single {criterion : Value} {a : Condition}
    (hkey : Connective.ofKey? (.text key) = none) (hcolumn : model.shape.resolve? key = some c)
    (h : columnConditions c (.text key) criterion = .ok [a]) :
    findWhere session model key criterion
      = .ok (whole session model (.dict [(.text key, criterion)]) a) := by
  have hresolve : resolveColumn model.shape (.text key) .filter = .ok c := by
    unfold resolveColumn
    rw [Value.text?, Option.bind_some, hcolumn]
  have hparts : criteriaParts model.shape (.dict [(.text key, criterion)]) = .ok [.proper a] := by
    simp only [criteriaParts, entryParts, keyParts_of_column hkey, columnParts, hresolve, h,
      Except.map]
    rfl
  unfold findWhere find criteriaCondition
  rw [hparts]
  exact congrArg (fun condition => Except.ok (whole session model _ condition))
    (Join.condition_single (.proper a))

/-- The predicate of one clause that takes an array has the entry of its criterion. -/
theorem predicate_single {e : Clause} {items : List Value} {v : Value}
    (ho : e.operator.takesArray = true) (harray : e.value.array? = some items)
    (hv : e.operator.criterion e.value = .ok v) :
    Filters.predicate (.list [e.toValue]) = .ok [(.text e.key, v)] := by
  obtain ⟨key, o, values⟩ := e
  have htoken : (Value.text o.token).text?.bind Operator.ofToken? = some o := by cases o <;> rfl
  have hcheck : o.check (.text key) values = .ok () := by
    simp only [Operator.check, ho, if_true, harray]
  have hout : o ≠ .outside := by
    rintro rfl
    cases ho
  have hpattern : o.takesPattern = false := by cases o <;> first | rfl | cases ho
  have hread : Filters.readClause Filters.plain.settings (Clause.toValue ⟨key, o, values⟩)
      = .ok (.field (.text key) o values) := by
    show Expression.read _ [] (.text key) (.text o.token) values = _
    simp only [Expression.read, Value.isKey, Dict.get?, htoken, hcheck, hout, hpattern, if_false,
      Bool.not_true, Bool.false_eq_true]
  have hcriteria (library : Library) :
      Expression.criteria library (.field (.text key) o values) = .ok [(.text key, v)] := by
    simp only [Expression.criteria, hv]
    rfl
  have hlist : Filters.read Filters.plain.settings (.list [Clause.toValue ⟨key, o, values⟩])
      = .ok [.field (.text key) o values] := by
    show Filters.readClauses _ [_] = _
    simp only [Filters.readClauses, hread]
  have hfresh : Filters.plain.received = none := rfl
  unfold Filters.predicate Filters.give Section.receive
  simp only [hfresh, hlist, Attempt.ofExcept]
  show Filters.contribute _ [] [_] = _
  simp only [Filters.contribute, hcriteria]
  rfl

theorem findClause_single {e : Clause} {items : List Value} {v : Value} {a : Condition}
    (hkey : Connective.ofKey? (.text e.key) = none)
    (hcolumn : model.shape.resolve? e.key = some c) (ho : e.operator.takesArray = true)
    (harray : e.value.array? = some items) (hv : e.operator.criterion e.value = .ok v)
    (h : columnConditions c (.text e.key) v = .ok [a]) :
    findClause session model e = .ok (whole session model (.dict [(.text e.key, v)]) a) := by
  unfold findClause
  rw [predicate_single ho harray hv]
  exact find_single hkey hcolumn h

/-- Membership in a list and its contrary, asked in criteria and by clauses. All four queries give
the rows that they select. -/
theorem find_membership {awaited : Bool} {values : Value} {items : List Value}
    (hkey : Connective.ofKey? (.text key) = none) (hcolumn : model.shape.resolve? key = some c)
    (harray : values.array? = some items)
    (hitems : AreNullOrOwn c items) :
    ∃ among others within without : Documents,
      findWhere session model key (.dict [(.text "$in", values)]) = .ok among ∧
      findWhere session model key (.dict [(.text "$nin", values)]) = .ok others ∧
      findClause session model ⟨key, .within, values⟩ = .ok within ∧
      findClause session model ⟨key, .without, values⟩ = .ok without ∧
      (∀ q ∈ [among, others, within, without],
        (q.execute awaited).2 = .ok (q.selected session.database)) ∧
      ∀ row : Row,
        (among.condition.selects row = true ↔ ∃ v ∈ items, v ≠ .null ∧
          ∃ q, findWhere session model key v = .ok q ∧ q.condition.selects row = true) ∧
        (others.condition.selects row = true ↔
          row.cell c.name = .null ∨ (.null ∉ items ∧ among.condition.selects row = false)) ∧
        within.condition.selects row = among.condition.selects row ∧
        without.condition.selects row = others.condition.selects row := by
  have hin : columnConditions c (.text key) _ = _ := columnConditions_in harray hitems
  have hnin : columnConditions c (.text key) _ = _ := columnConditions_nin harray hitems
  have hwithin : columnConditions c (.text key) _ = _ :=
    columnConditions_in (Value.array?_list items) hitems
  have hwithout : columnConditions c (.text key) _ = _ :=
    columnConditions_not_in (Value.array?_list items) hitems
  refine ⟨_, _, _, _, find_single hkey hcolumn hin, find_single hkey hcolumn hnin,
    findClause_single hkey hcolumn rfl harray (by simp only [Operator.criterion, harray]) hwithin,
    findClause_single hkey hcolumn rfl harray (by simp only [Operator.criterion, harray]) hwithout,
    ?_, fun row => ⟨?_, Condition.selects_notMember hitems, rfl, rfl⟩⟩
  -- Items of the column's type and nulls can be bound, so that nothing fails in the database.
  · have hstorable : ∀ v ∈ items, Storable v := by
      intro v hv
      rcases hitems v hv with rfl | hown
      · exact ⟨.null, rfl⟩
      · obtain ⟨b, hb⟩ := Option.isSome_iff_exists.mp hown
        exact storable_of_cell? hb
    have hmember : (Condition.member c items).MadeOf Condition.IsPlainTest := .test hstorable
    have hothers : (Condition.notMember c items).MadeOf Condition.IsPlainTest :=
      .either (.test trivial) (.negated hmember)
    have hrun {criteria : Value} {a : Condition} (h : a.MadeOf Condition.IsPlainTest) :
        ((whole session model criteria a).execute awaited).2 = _ :=
      execute_whole (Condition.isSound_of_plain h _)
    simp only [List.forall_mem_cons]
    exact ⟨hrun hmember, hrun hothers, hrun hmember, hrun hothers, nofun⟩
  · refine (Condition.selects_member hitems).trans ?_
    refine exists_congr fun v => and_congr_right fun hv => and_congr_right fun _ => ?_
    rw [find_single hkey hcolumn (columnConditions_item (hitems v hv))]
    simp only [Except.ok.injEq, exists_eq_left']
    rfl

/-- Ages that are asked for, with a null among them. -/
def agesOrNull : Value := .list [.int 40, .null]

/-- Persons of the ages, and those who are not known to have another one. -/
theorem agesOrNull_membership :
    ∃ c among others within without,
      (Sample.personShape "Person").resolve? "age" = some c ∧
      findWhere Sample.session (Sample.personModel "Person") "age"
        (.dict [(.text "$in", agesOrNull)]) = .ok among ∧
      findWhere Sample.session (Sample.personModel "Person") "age"
        (.dict [(.text "$nin", agesOrNull)]) = .ok others ∧
      findClause Sample.session (Sample.personModel "Person") ⟨"age", .within, agesOrNull⟩
        = .ok within ∧
      findClause Sample.session (Sample.personModel "Person") ⟨"age", .without, agesOrNull⟩
        = .ok without ∧
      (within.execute false).2 = .ok (within.ofNumbers [0, 13]) ∧
      (without.execute false).2 = .ok (without.ofNumbers [6]) ∧
      ∀ row : Row, without.condition.selects row = true ↔ row.cell c.name = .null := by
  have hmembership {c : Column} {without : Documents}
      (hcolumn : (Sample.personShape "Person").resolve? "age" = some c)
      (hitems : AreNullOrOwn c [.int 40, .null])
      (hwithout : findClause Sample.session (Sample.personModel "Person")
        ⟨"age", .without, agesOrNull⟩ = .ok without) (row : Row) :
      without.condition.selects row = true ↔ row.cell c.name = .null := by
    obtain ⟨_, _, _, _, -, -, -, hfound, -, hrows⟩ :=
      @find_membership Sample.session (Sample.personModel "Person") "age" c false agesOrNull _ rfl
        hcolumn (Value.array?_list [.int 40, .null]) hitems
    obtain rfl := Except.ok.inj (hwithout.symm.trans hfound)
    obtain ⟨-, hothers, -, hsame⟩ := hrows row
    rw [hsame, hothers]
    simp
  refine ⟨⟨"age", .integer⟩, _, _, _, _, rfl, rfl, rfl, rfl, rfl, rfl, rfl, hmembership rfl ?_ rfl⟩
  intro v hv
  rcases List.mem_pair.mp hv with rfl | rfl
  · exact .inr rfl
  · exact .inl rfl

/-- The person without an age is selected by an age that is null, but not by a list of ages with a
null among them; nobody else is selected by the contrary of that list. -/
theorem nullItem_breaks_membership :
    ∃ missing among others,
      findWhere Sample.session (Sample.personModel "Person") "age" .null = .ok missing ∧
      findWhere Sample.session (Sample.personModel "Person") "age"
        (.dict [(.text "$in", agesOrNull)]) = .ok among ∧
      findWhere Sample.session (Sample.personModel "Person") "age"
        (.dict [(.text "$nin", agesOrNull)]) = .ok others ∧
      (missing.execute false).2 = .ok (missing.ofNumbers [6]) ∧
      (among.execute false).2 = .ok (among.ofNumbers [0, 13]) ∧
      (others.execute false).2 = .ok (others.ofNumbers [6]) :=
  ⟨_, _, _, rfl, rfl, rfl, rfl, rfl, rfl⟩

end Documents
end Store
end QueryOptions
