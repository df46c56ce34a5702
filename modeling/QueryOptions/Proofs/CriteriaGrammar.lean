import QueryOptions.Proofs.ColumnCriteria
import QueryOptions.Proofs.FirstFaults
import QueryOptions.Proofs.Running
import QueryOptions.Sample.Staff

/-!
# QueryOptions.Proofs.CriteriaGrammar

Which criteria a query can be made with, and what the others are refused with. Criteria are read
from the outside in and from the first entry to the last, so the first place with a fault decides
(`find_settles`). What a query that was made can still fail with when it is run is nothing that
callers are told of by a class (`unclassed_execute`).

* `IsCriterion`, `IsTest`: what a column is asked, `IsCriteria`, `IsEntry`: criteria;
* `HasCriterionFault`, `HasTestFault`, `HasCriteriaFault`, `HasEntryFault`: what is refused first.
-/

namespace QueryOptions
namespace Store

/-! ## The grammar -/

/-- What an operator asks a column for. -/
inductive TestKind where
  | equality
  | membership
  | ordering
  | negation
deriving DecidableEq

def TestKind.names : TestKind → List String
  | .equality => ["$eq", "$ne"]
  | .membership => ["$in", "$nin"]
  | .ordering => ["$lt", "$lte", "$gt", "$gte"]
  | .negation => ["$not"]

/-- The kind of an operator; only texts are operators. -/
def testKind? : Value → Option TestKind
  | .text name =>
    [TestKind.equality, .membership, .ordering, .negation].find? fun kind =>
      kind.names.contains name
  | _ => none

mutual

/-- A value can be asked of a column. -/
inductive IsCriterion : Value → Prop where
  /-- A regular expression, or anything else but a mapping. -/
  | plain {v : Value} : v.dict? = none → IsCriterion v
  | tests {tests : Dict} : (∀ test ∈ tests, IsTest test) → IsCriterion (.dict tests)

/-- A column can be asked with an operator and its value. -/
inductive IsTest : Value × Value → Prop where
  | equality {operator v : Value} :
      testKind? operator = some .equality → IsTest (operator, v)
  | membership {operator v : Value} {items : List Value} :
      testKind? operator = some .membership → v.array? = some items → IsTest (operator, v)
  /-- Null and booleans have no order. -/
  | ordering {operator v : Value} :
      testKind? operator = some .ordering → isOrdered v = true → IsTest (operator, v)
  | negation {operator v : Value} :
      testKind? operator = some .negation → IsCriterion v → IsTest (operator, v)

end

mutual

/-- What a value that cannot be asked of a column is refused with. -/
inductive HasCriterionFault (key : Value) : Value → Fault → Prop where
  | first {tests : Dict} {f : Fault} :
      FirstFault IsTest (HasTestFault key) tests f → HasCriterionFault key (.dict tests) f

/-- What an operator and its value are refused with. -/
inductive HasTestFault (key : Value) : Value × Value → Fault → Prop where
  | unknown {operator v : Value} :
      testKind? operator = none →
      HasTestFault key (operator, v) (.criteria (.unknownOperator operator key))
  | membership {name : String} {v : Value} :
      testKind? (.text name) = some .membership → v.array? = none →
      HasTestFault key (.text name, v) (.criteria (.needsArray name key))
  | ordering {operator v : Value} :
      testKind? operator = some .ordering → isOrdered v = false →
      HasTestFault key (operator, v) .badArgument
  | negation {operator v : Value} {f : Fault} :
      testKind? operator = some .negation → HasCriterionFault key v f →
      HasTestFault key (operator, v) f

end

mutual

/-- A query can be made with criteria. -/
inductive IsCriteria (shape : Shape) : Value → Prop where
  | absent {v : Value} : v.isFalsy = true → IsCriteria shape v
  | entries {entries : Dict} :
      (∀ entry ∈ entries, IsEntry shape entry) → IsCriteria shape (.dict entries)

/-- An entry can stand in criteria. -/
inductive IsEntry (shape : Shape) : Value × Value → Prop where
  | connective {key v : Value} {connective : Connective} {items : List Value} :
      Connective.ofKey? key = some connective → v.array? = some items →
      (∀ item ∈ items, IsCriteria shape item) → IsEntry shape (key, v)
  | column {key v : Value} {c : Column} :
      Connective.ofKey? key = none → key.text?.bind shape.resolve? = some c → IsCriterion v →
      IsEntry shape (key, v)

end

mutual

/-- What criteria are refused with. -/
inductive HasCriteriaFault (shape : Shape) : Value → Fault → Prop where
  | shape {v : Value} :
      v.isFalsy = false → v.dict? = none → HasCriteriaFault shape v (.criteria .shape)
  | first {entries : Dict} {f : Fault} :
      FirstFault (IsEntry shape) (HasEntryFault shape) entries f →
      HasCriteriaFault shape (.dict entries) f

/-- What an entry is refused with. -/
inductive HasEntryFault (shape : Shape) : Value × Value → Fault → Prop where
  | needsList {key v : Value} {connective : Connective} :
      Connective.ofKey? key = some connective → v.array? = none →
      HasEntryFault shape (key, v) (.criteria (.needsList connective.token))
  | item {key v : Value} {connective : Connective} {items : List Value} {f : Fault} :
      Connective.ofKey? key = some connective → v.array? = some items →
      FirstFault (IsCriteria shape) (HasCriteriaFault shape) items f →
      HasEntryFault shape (key, v) f
  | column {key v : Value} :
      Connective.ofKey? key = none → key.text?.bind shape.resolve? = none →
      HasEntryFault shape (key, v) (.invalidColumn shape.title key .filter)
  | criterion {key v : Value} {c : Column} {f : Fault} :
      Connective.ofKey? key = none → key.text?.bind shape.resolve? = some c →
      HasCriterionFault key v f → HasEntryFault shape (key, v) f

end

/-! ## Lists of values -/

/-- A criterion asks a test, perhaps inside of negations. -/
inductive AsksIn : Value → Value × Value → Prop where
  | here {tests : Dict} {test : Value × Value} : test ∈ tests → AsksIn (.dict tests) test
  | inside {tests : Dict} {operator v : Value} {test : Value × Value} :
      (operator, v) ∈ tests → testKind? operator = some .negation → AsksIn v test →
      AsksIn (.dict tests) test

/-- Criteria ask a test of some column. -/
inductive Asks : Value → Value × Value → Prop where
  | column {entries : Dict} {key v : Value} {test : Value × Value} :
      (key, v) ∈ entries → Connective.ofKey? key = none → AsksIn v test →
      Asks (.dict entries) test
  | item {entries : Dict} {key v item : Value} {connective : Connective} {items : List Value}
      {test : Value × Value} :
      (key, v) ∈ entries → Connective.ofKey? key = some connective → v.array? = some items →
      item ∈ items → Asks item test → Asks (.dict entries) test

/-- A test with a list of values has neither arrays nor mappings among them. -/
def ListsScalars (test : Value × Value) : Prop :=
  testKind? test.1 = some .membership →
    ∀ items, test.2.array? = some items → ∀ item ∈ items, item.array? = none ∧ item.dict? = none

theorem asksIn_dict_iff {tests : Dict} {test : Value × Value} :
    AsksIn (.dict tests) test ↔ test ∈ tests ∨
      ∃ e ∈ tests, testKind? e.1 = some .negation ∧ AsksIn e.2 test := by
  constructor
  · intro h
    cases h with
    | here hmem => exact .inl hmem
    | inside hmem hkind h => exact .inr ⟨_, hmem, hkind, h⟩
  · rintro (hmem | ⟨e, hmem, hkind, h⟩)
    · exact .here hmem
    · exact .inside hmem hkind h

theorem not_asksIn {v : Value} (hdict : v.dict? = none) (test : Value × Value) :
    ¬AsksIn v test := by
  intro h
  cases h <;> cases hdict

theorem asks_dict_iff {entries : Dict} {test : Value × Value} :
    Asks (.dict entries) test ↔ ∃ e ∈ entries,
      (Connective.ofKey? e.1 = none ∧ AsksIn e.2 test) ∨
      ∃ connective items, Connective.ofKey? e.1 = some connective ∧ e.2.array? = some items ∧
        ∃ item ∈ items, Asks item test := by
  constructor
  · intro h
    cases h with
    | column hmem hkey h => exact ⟨_, hmem, .inl ⟨hkey, h⟩⟩
    | item hmem hkey harray hitem h => exact ⟨_, hmem, .inr ⟨_, _, hkey, harray, _, hitem, h⟩⟩
  · rintro ⟨e, hmem, ⟨hkey, h⟩ | ⟨_, _, hkey, harray, _, hitem, h⟩⟩
    · exact .column hmem hkey h
    · exact .item hmem hkey harray hitem h

theorem not_asks {v : Value} (hdict : v.dict? = none) (test : Value × Value) : ¬Asks v test := by
  intro h
  cases h <;> cases hdict

/-! ## Columns -/

variable {shape : Shape} {c : Column} {key v : Value} {name : String}

/-- What one operator asks of a column. -/
def testCondition (c : Column) (key : Value) (test : Value × Value) : Except Fault Condition :=
  match test.1 with
  | .text name =>
    if name = "$not" then (columnConditions c key test.2).map (excluding c)
    else operatorCondition c key name test.2
  | operator => .error (.criteria (.unknownOperator operator key))

theorem operatorConditions_cons (test : Value × Value) (rest : List (Value × Value)) :
    operatorConditions c key (test :: rest)
      = (testCondition c key test).bind fun a => (operatorConditions c key rest).map (a :: ·) := by
  obtain ⟨operator, v⟩ := test
  cases operator with
  | text name =>
    simp only [operatorConditions, testCondition]
    split
    · cases columnConditions c key v with
      | error f => rfl
      | ok conditions => cases operatorConditions c key rest <;> rfl
    · cases operatorCondition c key name v with
      | error f => rfl
      | ok condition => cases operatorConditions c key rest <;> rfl
  | _ => rfl

theorem name_of_testKind? {operator : Value} {kind : TestKind}
    (h : testKind? operator = some kind) : ∃ name ∈ kind.names, operator = .text name := by
  cases operator <;> try cases h
  rename_i name
  exact ⟨name, by simpa using List.find?_some h, rfl⟩

theorem testCondition_unknown {operator : Value} (h : testKind? operator = none) :
    testCondition c key (operator, v) = .error (.criteria (.unknownOperator operator key)) := by
  cases operator with
  | text name =>
    simp only [testKind?, List.find?_eq_none, List.forall_mem_cons] at h
    simp [TestKind.names] at h
    simp [testCondition, operatorCondition, comparison?, h]
  | _ => rfl

theorem testCondition_equality {operator : Value} (h : testKind? operator = some .equality)
    (c : Column) (key v : Value) : ∃ a, testCondition c key (operator, v) = .ok a := by
  obtain ⟨name, hname, rfl⟩ := name_of_testKind? h
  simp only [TestKind.names, List.mem_cons, List.not_mem_nil, or_false] at hname
  rcases hname with rfl | rfl
  · exact ⟨equals c v, rfl⟩
  · exact ⟨differsFrom c v, rfl⟩

theorem testCondition_ordering {operator : Value} (h : testKind? operator = some .ordering)
    (c : Column) (key v : Value) :
    ∃ a, testCondition c key (operator, v)
      = if isOrdered v then .ok a else .error .badArgument := by
  obtain ⟨name, hname, rfl⟩ := name_of_testKind? h
  simp only [TestKind.names, List.mem_cons, List.not_mem_nil, or_false] at hname
  rcases hname with rfl | rfl | rfl | rfl
  · exact ⟨.compare c .less v, rfl⟩
  · exact ⟨.compare c .atMost v, rfl⟩
  · exact ⟨.compare c .greater v, rfl⟩
  · exact ⟨.compare c .atLeast v, rfl⟩

theorem testCondition_negation {operator : Value} (h : testKind? operator = some .negation) :
    testCondition c key (operator, v) = (columnConditions c key v).map (excluding c) := by
  obtain ⟨name, hname, rfl⟩ := name_of_testKind? h
  obtain rfl := List.mem_singleton.mp hname
  rfl

theorem testCondition_membership (h : testKind? (.text name) = some .membership) (c : Column)
    (key v : Value) :
    ∃ g : Condition → Condition, testCondition c key (.text name, v)
      = (valuesOf name key v).bind fun items => (memberOf c items).map g := by
  obtain ⟨_, hname, heq⟩ := name_of_testKind? h
  cases heq
  simp only [TestKind.names, List.mem_cons, List.not_mem_nil, or_false] at hname
  rcases hname with rfl | rfl
  · refine ⟨id, ?_⟩
    show operatorCondition c key "$in" v = _
    simp only [operatorCondition]
    cases valuesOf "$in" key v with
    | error f => rfl
    | ok items => exact (Except.map_id ▸ rfl)
  · refine ⟨fun m => .either (.isNull c) (.negated m), ?_⟩
    show operatorCondition c key "$nin" v = _
    simp only [operatorCondition]
    cases valuesOf "$nin" key v with
    | error f => rfl
    | ok items => cases hm : memberOf c items <;> simp [Except.bind, Except.map, hm]

theorem memberOf_scalars {items : List Value}
    (h : ∀ item ∈ items, item.array? = none ∧ item.dict? = none) :
    memberOf c items = .ok (.member c items) := by
  have hkeys : items.all Value.isKey = true := by
    refine List.all_eq_true.mpr fun item hitem => ?_
    obtain ⟨harray, hdict⟩ := h item hitem
    cases item with
    | list _ | tuple _ => cases harray
    | dict _ => cases hdict
    | _ => rfl
  simp [memberOf, hkeys]

theorem test_settles {operator : Value} (hscalar : ListsScalars (operator, v))
    (hnegation : testKind? operator = some .negation →
      Settles (columnConditions c key v) (IsCriterion v) (HasCriterionFault key v)) :
    Settles (testCondition c key (operator, v)) (IsTest (operator, v))
      (HasTestFault key (operator, v)) := by
  cases hkind : testKind? operator with
  | none =>
    rw [testCondition_unknown hkind]
    exact .of_error (fun h => by cases h <;> simp_all) (.unknown hkind)
      fun f h => by cases h <;> simp_all
  | some kind =>
    cases kind with
    | equality =>
      obtain ⟨a, ha⟩ := testCondition_equality hkind c key v
      rw [ha]
      exact .of_ok (.equality hkind) fun f h => by cases h <;> simp_all
    | membership =>
      obtain ⟨name, -, rfl⟩ := name_of_testKind? hkind
      obtain ⟨g, hg⟩ := testCondition_membership hkind c key v
      rw [hg, valuesOf]
      cases harray : v.array? with
      | none =>
        exact .of_error (fun h => by cases h <;> simp_all) (.membership hkind harray)
          fun f h => by cases h <;> simp_all
      | some items =>
        have hmember := memberOf_scalars (c := c) (hscalar hkind items harray)
        simp only [Except.bind, hmember]
        exact .of_ok (.membership hkind harray) fun f h => by cases h <;> simp_all
    | ordering =>
      obtain ⟨a, ha⟩ := testCondition_ordering hkind c key v
      rw [ha]
      cases hordered : isOrdered v with
      | true => exact .of_ok (.ordering hkind hordered) fun f h => by cases h <;> simp_all
      | false =>
        exact .of_error (fun h => by cases h <;> simp_all) (.ordering hkind hordered)
          fun f h => by cases h <;> simp_all
    | negation =>
      rw [testCondition_negation hkind]
      refine ((hnegation hkind).map _).congr ⟨.negation hkind, fun h => ?_⟩
        fun f => ⟨.negation hkind, fun h => ?_⟩
      · cases h <;> simp_all
      · cases h <;> simp_all

mutual

theorem criterion_settles (c : Column) (key : Value) : ∀ v : Value,
    (∀ test, AsksIn v test → ListsScalars test) →
    Settles (columnConditions c key v) (IsCriterion v) (HasCriterionFault key v)
  | .dict tests, h => by
    have hscalar : ∀ test ∈ tests, ListsScalars test := fun test ht => h test (.here ht)
    have hinside : ∀ test ∈ tests, testKind? test.1 = some .negation →
        ∀ inner, AsksIn test.2 inner → ListsScalars inner :=
      fun test ht hk inner hi => h inner (.inside ht hk hi)
    rw [columnConditions]
    refine (tests_settle c key tests hscalar hinside).congr ⟨.tests, fun h => ?_⟩
      fun f => ⟨.first, fun h => ?_⟩
    · cases h with
      | plain hdict => cases hdict
      | tests h => exact h
    · cases h with
      | first h => exact h
  | .null, _ | .bool _, _ | .int _, _ | .float _, _ | .text _, _ | .bytes _, _ | .list _, _
  | .tuple _, _ | .regex _, _ | .callback _ _, _ | .function _, _ =>
    .of_ok (.plain rfl) fun f h => by cases h

theorem tests_settle (c : Column) (key : Value) : ∀ tests : List (Value × Value),
    (∀ test ∈ tests, ListsScalars test) →
    (∀ test ∈ tests, testKind? test.1 = some .negation →
      ∀ inner, AsksIn test.2 inner → ListsScalars inner) →
    Settles (operatorConditions c key tests) (∀ test ∈ tests, IsTest test)
      (FirstFault IsTest (HasTestFault key) tests)
  | [], _, _ => .nil
  | (operator, v) :: rest, hscalar, hinside => by
    obtain ⟨hfirst, hscalar⟩ := List.forall_mem_cons.mp hscalar
    obtain ⟨hnegated, hinside⟩ := List.forall_mem_cons.mp hinside
    rw [operatorConditions_cons]
    refine .cons (test_settles hfirst fun hk => ?_) (tests_settle c key rest hscalar hinside) _
    exact criterion_settles c key v (hnegated hk)

end

/-! ## Criteria -/

theorem entryParts_cons (key v : Value) (rest : List (Value × Value)) :
    entryParts shape ((key, v) :: rest)
      = (keyParts shape key v).bind fun parts => (entryParts shape rest).map (parts ++ ·) := by
  simp only [entryParts]
  cases keyParts shape key v with
  | error f => rfl
  | ok parts => cases entryParts shape rest <;> rfl

theorem listParts_cons (v : Value) (rest : List Value) :
    listParts shape (v :: rest)
      = (criteriaParts shape v).bind fun parts =>
          (listParts shape rest).map (Part.together parts :: ·) := by
  simp only [listParts]
  cases criteriaParts shape v with
  | error f => rfl
  | ok parts => cases listParts shape rest <;> rfl

theorem keyParts_of_array {connective : Connective} {items : List Value}
    (hkey : Connective.ofKey? key = some connective) (harray : v.array? = some items) :
    keyParts shape key v
      = (listParts shape items).map fun parts => [connective.apply parts] := by
  cases v <;> cases harray <;> simp only [keyParts, hkey]

theorem keyParts_of_needsList {connective : Connective}
    (hkey : Connective.ofKey? key = some connective) (harray : v.array? = none) :
    keyParts shape key v = .error (.criteria (.needsList connective.token)) := by
  cases v with
  | list _ | tuple _ => cases harray
  | _ => simp only [keyParts, hkey]

/-- `keyParts` under a column accepts the well-formed entries, and refuses any other one with its
`HasEntryFault`. -/
theorem columnEntry_settles (hkey : Connective.ofKey? key = none)
    (h : ∀ c, Settles (columnConditions c key v) (IsCriterion v) (HasCriterionFault key v)) :
    Settles (keyParts shape key v) (IsEntry shape (key, v)) (HasEntryFault shape (key, v)) := by
  rw [keyParts_of_column hkey, columnParts, resolveColumn]
  cases hcolumn : key.text?.bind shape.resolve? with
  | none =>
    exact .of_error (fun h => by cases h <;> simp_all) (.column hkey hcolumn)
      fun f h => by cases h <;> simp_all
  | some c =>
    refine ((h c).map _).congr ⟨.column hkey hcolumn, fun h => ?_⟩
      fun f => ⟨.criterion hkey hcolumn, fun h => ?_⟩
    · cases h <;> simp_all
    · cases h <;> simp_all

/-- `keyParts` under a connective accepts an array of well-formed criteria, and refuses any other
one with its `HasEntryFault`. -/
theorem joiningEntry_settles {connective : Connective}
    (hkey : Connective.ofKey? key = some connective)
    (h : ∀ items, v.array? = some items →
      Settles (listParts shape items) (∀ item ∈ items, IsCriteria shape item)
        (FirstFault (IsCriteria shape) (HasCriteriaFault shape) items)) :
    Settles (keyParts shape key v) (IsEntry shape (key, v)) (HasEntryFault shape (key, v)) := by
  cases harray : v.array? with
  | none =>
    rw [keyParts_of_needsList hkey harray]
    exact .of_error (fun h => by cases h <;> simp_all) (.needsList hkey harray)
      fun f h => by cases h <;> simp_all
  | some items =>
    rw [keyParts_of_array hkey harray]
    refine ((h items harray).map _).congr ⟨.connective hkey harray, fun h => ?_⟩
      fun f => ⟨.item hkey harray, fun h => ?_⟩
    · cases h <;> simp_all
    · cases h <;> simp_all

/-- `criteriaParts` of what is no mapping accepts what is absent, and nothing else. -/
theorem otherCriteria_settles (hdict : v.dict? = none) :
    Settles (criteriaParts shape v) (IsCriteria shape v) (HasCriteriaFault shape v) := by
  have hparts : criteriaParts shape v
      = if v.isFalsy then .ok [] else .error (.criteria .shape) := by
    cases v <;> first | rfl | cases hdict
  rw [hparts]
  cases hfalsy : v.isFalsy with
  | true => exact .of_ok (.absent hfalsy) fun f h => by cases h <;> simp_all [Value.dict?]
  | false =>
    exact .of_error (fun h => by cases h <;> simp_all [Value.dict?]) (.shape hfalsy hdict)
      fun f h => by cases h <;> simp_all [Value.dict?]

theorem Asks.cons {entries : Dict} {test : Value × Value} (entry : Value × Value)
    (h : Asks (.dict entries) test) : Asks (.dict (entry :: entries)) test := by
  cases h with
  | column hmem hkey h => exact .column (List.mem_cons_of_mem entry hmem) hkey h
  | item hmem hkey harray hitem h =>
    exact .item (List.mem_cons_of_mem entry hmem) hkey harray hitem h

mutual

theorem criteria_settles (shape : Shape) : ∀ v : Value,
    (∀ test, Asks v test → ListsScalars test) →
    Settles (criteriaParts shape v) (IsCriteria shape v) (HasCriteriaFault shape v)
  | .dict entries, h => by
    rw [criteriaParts]
    refine (entries_settle shape entries h).congr ⟨.entries, fun h => ?_⟩
      fun f => ⟨.first, fun h => ?_⟩
    · cases h with
      | absent hfalsy => simp [List.isEmpty_iff.mp hfalsy]
      | entries h => exact h
    · cases h with
      | shape _ hdict => cases hdict
      | first h => exact h
  | .null, _ | .bool _, _ | .int _, _ | .float _, _ | .text _, _ | .bytes _, _ | .list _, _
  | .tuple _, _ | .regex _, _ | .callback _ _, _ | .function _, _ => otherCriteria_settles rfl

theorem entries_settle (shape : Shape) : ∀ entries : List (Value × Value),
    (∀ test, Asks (.dict entries) test → ListsScalars test) →
    Settles (entryParts shape entries) (∀ entry ∈ entries, IsEntry shape entry)
      (FirstFault (IsEntry shape) (HasEntryFault shape) entries)
  | [], _ => .nil
  | (key, v) :: rest, h => by
    rw [entryParts_cons]
    refine .cons (entry_settles shape key v (fun hkey test ht => ?_)
      fun connective items hkey harray item hitem test ht => ?_)
      (entries_settle shape rest fun test ht => h test (ht.cons (key, v))) _
    · exact h test (.column (List.mem_cons_self ..) hkey ht)
    · exact h test (.item (List.mem_cons_self ..) hkey harray hitem ht)

theorem entry_settles (shape : Shape) (key : Value) : ∀ v : Value,
    (Connective.ofKey? key = none → ∀ test, AsksIn v test → ListsScalars test) →
    (∀ connective items, Connective.ofKey? key = some connective → v.array? = some items →
      ∀ item ∈ items, ∀ test, Asks item test → ListsScalars test) →
    Settles (keyParts shape key v) (IsEntry shape (key, v)) (HasEntryFault shape (key, v))
  | .list items, hcolumn, hitems => by
    cases hkey : Connective.ofKey? key with
    | none => exact columnEntry_settles hkey fun c => criterion_settles c key _ (hcolumn hkey)
    | some connective =>
      refine joiningEntry_settles hkey fun _ harray => ?_
      cases harray
      exact items_settle shape items (hitems connective items hkey rfl)
  | .tuple items, hcolumn, hitems => by
    cases hkey : Connective.ofKey? key with
    | none => exact columnEntry_settles hkey fun c => criterion_settles c key _ (hcolumn hkey)
    | some connective =>
      refine joiningEntry_settles hkey fun _ harray => ?_
      cases harray
      exact items_settle shape items (hitems connective items hkey rfl)
  | .null, hcolumn, _ | .bool _, hcolumn, _ | .int _, hcolumn, _ | .float _, hcolumn, _
  | .text _, hcolumn, _ | .bytes _, hcolumn, _ | .dict _, hcolumn, _ | .regex _, hcolumn, _
  | .callback _ _, hcolumn, _ | .function _, hcolumn, _ => by
    cases hkey : Connective.ofKey? key with
    | none => exact columnEntry_settles hkey fun c => criterion_settles c key _ (hcolumn hkey)
    | some connective => exact joiningEntry_settles hkey fun _ harray => by cases harray

theorem items_settle (shape : Shape) : ∀ items : List Value,
    (∀ item ∈ items, ∀ test, Asks item test → ListsScalars test) →
    Settles (listParts shape items) (∀ item ∈ items, IsCriteria shape item)
      (FirstFault (IsCriteria shape) (HasCriteriaFault shape) items)
  | [], _ => .nil
  | item :: rest, h => by
    obtain ⟨hfirst, hrest⟩ := List.forall_mem_cons.mp h
    rw [listParts_cons]
    exact .cons (criteria_settles shape item hfirst) (items_settle shape rest hrest) _

end

/-! ## Queries -/

/-- An outcome has no fault that callers are told of by a class. -/
def Unclassed {α : Type} (x : Except Fault α) : Prop := ∀ f, x = .error f → f.class? = none

namespace Unclassed

variable {α β : Type}

theorem ok (a : α) : Unclassed (.ok a) := fun f h => by cases h

theorem error {f : Fault} (h : f.class? = none) : Unclassed (.error f : Except Fault α) := by
  intro g hg
  cases hg
  exact h

theorem map {x : Except Fault α} (h : Unclassed x) (g : α → β) : Unclassed (x.map g) := by
  cases x with
  | ok a => exact .ok _
  | error f => exact .error (h f rfl)

end Unclassed

theorem unclassed_wholeCount (v : Value) : Unclassed (Documents.wholeCount v) := by
  unfold Documents.wholeCount
  split
  · exact .ok _
  · exact .ok _
  · split
    · exact .ok _
    · exact .error rfl
    · exact .error rfl
  · split
    · exact .ok _
    · exact .error rfl
  · split
    · exact .ok _
    · exact .error rfl
  · exact .error rfl

theorem unclassed_countOf (v : Value) : Unclassed (Documents.countOf v) := by
  unfold Documents.countOf
  split
  · exact .ok _
  · exact (unclassed_wholeCount v).map _

theorem unclassed_ofValue (v : Value) : Unclassed (Datum.ofValue v) := by
  cases v with
  | int n =>
    unfold Datum.ofValue
    dsimp only
    split
    · exact .ok _
    · exact .error rfl
  | list _ | tuple _ | dict _ | regex _ | callback _ _ | function _ => exact .error rfl
  | _ => exact .ok _

theorem unclassed_bindAll (vs : List Value) : Unclassed (Condition.bindAll vs) := by
  induction vs with
  | nil => exact .ok _
  | cons v rest ih =>
    unfold Condition.bindAll
    split
    · rename_i f hf
      exact .error (unclassed_ofValue v f hf)
    · exact ih

namespace Documents

theorem unclassed_slice (q : Documents) : Unclassed q.slice := by
  unfold slice
  split
  · rename_i f hf
    exact .error (unclassed_countOf q.skip f hf)
  · exact (unclassed_countOf q.limit).map _

theorem unclassed_rows (q : Documents) (slice : Slice) (db : Database) :
    Unclassed (q.rows slice db) := by
  unfold rows
  split
  · exact .error rfl
  · split
    · rename_i f hf
      exact .error (unclassed_bindAll _ f hf)
    · unfold Condition.filterRows
      split
      · rename_i f hf
        split at hf
        · cases hf
          exact .error rfl
        · cases hf
      · exact .ok _

theorem unclassed_load (q : Documents) (slice : Slice) : Unclassed (q.load slice) := by
  unfold load
  split
  · exact .error rfl
  · exact (q.unclassed_rows slice _).map _

/-- What a query can fail with when it is run is nothing that callers are told of by a class. -/
theorem unclassed_execute (awaited : Bool) (q : Documents) : Unclassed (q.execute awaited).2 := by
  rw [execute_snd]
  unfold run
  split
  · exact .error rfl
  · split
    · rename_i f hf
      exact .error (q.unclassed_slice f hf)
    · rename_i slice hslice
      dsimp only
      split
      · unfold first
        rw [hslice]
        exact ((q.unclassed_load _).map _).map _
      · unfold all
        rw [hslice]
        exact (q.unclassed_load _).map _

/-- A query is made if the criteria are well-formed, and refused with their first fault otherwise;
so it is never refused again when it is run. -/
theorem find_settles (session : Option Session) (single : Bool) (model : Model) {criteria : Value}
    (hscalar : ∀ test, Asks criteria test → ListsScalars test) :
    ((∃ q, find session single model criteria = .ok q) ↔ IsCriteria model.shape criteria) ∧
      (∀ f, find session single model criteria = .error f ↔
        HasCriteriaFault model.shape criteria f) ∧
      ∀ (q : Documents) (awaited : Bool) (f : Fault),
        (q.execute awaited).2 = .error f → f.class? = none := by
  have hfind : find session single model criteria
      = ((criteriaParts model.shape criteria).map fun parts =>
          (Join.conjunction.join parts).condition).map fun condition =>
            { model, predicate := criteria, condition, single, session } := by
    unfold find criteriaCondition
    cases criteriaParts model.shape criteria <;> rfl
  have hsettles := ((criteria_settles model.shape criteria hscalar).map fun parts =>
    (Join.conjunction.join parts).condition).map fun condition : Condition =>
      ({ model, predicate := criteria, condition, single, session } : Documents)
  rw [← hfind] at hsettles
  exact ⟨hsettles.ok, hsettles.error, fun q awaited => q.unclassed_execute awaited⟩

/-- Ages among several, null included, and not below a bound. -/
def listedAges : Value :=
  .dict [("age", .dict [("$in", .list [.int 40, .null]), ("$not", .dict [("$lt", .int 18)])])]

/-- An unknown operator stands before an unknown column. -/
def sizedNick : Value :=
  .dict [("$or", .tuple [.null, .dict [("nick", .dict [("$size", .int 1)])]]), ("nope", .int 1)]

theorem listedAges_listsScalars : ∀ test, Asks listedAges test → ListsScalars test := by
  intro test h
  have htest : test = (.text "$in", .list [.int 40, .null]) ∨
      test = (.text "$not", .dict [("$lt", .int 18)]) ∨ test = (.text "$lt", .int 18) := by
    simpa [listedAges, asks_dict_iff, asksIn_dict_iff, Connective.ofKey?, Connective.token,
      testKind?, TestKind.names, or_assoc] using h
  rcases htest with rfl | rfl | rfl
  · intro _ items harray
    cases harray
    simp [Value.array?, Value.dict?]
  · intro hkind
    cases hkind
  · intro hkind
    cases hkind

theorem sizedNick_listsScalars : ∀ test, Asks sizedNick test → ListsScalars test := by
  intro test h
  obtain rfl : test = (.text "$size", .int 1) := by
    have hnull := not_asks (v := .null) rfl test
    have hone := not_asksIn (v := .int 1) rfl test
    simpa [sizedNick, asks_dict_iff, asksIn_dict_iff, hnull, hone, Connective.ofKey?,
      Connective.token, testKind?, TestKind.names, Value.array?] using h
  intro hkind
  cases hkind

theorem listedAges_find :
    (∃ q, find none false (Sample.personModel "Person") listedAges = .ok q) ∧
      find none false (Sample.personModel "Person") sizedNick
        = .error (.criteria (.unknownOperator "$size" "nick")) := by
  have hbelow : IsCriterion (.dict [("$lt", .int 18)]) :=
    .tests (List.forall_mem_singleton.mpr (.ordering rfl rfl))
  have hages : IsCriterion
      (.dict [("$in", .list [.int 40, .null]), ("$not", .dict [("$lt", .int 18)])]) :=
    .tests (List.forall_mem_cons.mpr
      ⟨.membership rfl rfl, List.forall_mem_singleton.mpr (.negation rfl hbelow)⟩)
  have hnick : HasCriteriaFault (Sample.personShape "Person")
      (.dict [("nick", .dict [("$size", .int 1)])])
      (.criteria (.unknownOperator "$size" "nick")) :=
    .first (.here (.criterion rfl rfl (.first (.here (.unknown rfl)))))
  exact ⟨(find_settles none false _ listedAges_listsScalars).1.mpr
      (.entries (List.forall_mem_singleton.mpr (.column rfl rfl hages))),
    ((find_settles none false _ sizedNick_listsScalars).2.1 _).mpr
      (.first (.here (.item rfl rfl (.later (.absent rfl) (.here hnick)))))⟩

end Documents
end Store
end QueryOptions
