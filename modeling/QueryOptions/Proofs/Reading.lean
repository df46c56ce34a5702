import QueryOptions.Proofs.ColumnCriteria
import QueryOptions.Sample.Staff

/-!
# QueryOptions.Proofs.Reading

Criteria read as plain Boolean formulas. A mapping is the conjunction of its entries, `$and`, `$or`
and `$nor` join lists of criteria, and any other key asks something of the column that it names.
Nothing is unknown in this reading.

The reading agrees with the conditions that criteria are compiled to on every row in which no
column that the criteria mention is null (`selected_iff_satisfies`), as long as the criteria look
for no pattern and compare columns with values of their own types (`isPlain`). Lists without
criteria are left out: they have no truth value of their own.

* `PartsRead`, `EachPartReads`: the parts of criteria say what the reading says, together or one
  by one;
* `criteriaParts_reads`: criteria, by induction on the nesting of lists.
-/

namespace QueryOptions
namespace Store

def columnOf? (shape : Shape) (key : Value) : Option Column := key.text?.bind shape.resolve?

/-- Whether a key names a column that has a property together with what is asked of it. -/
def namesColumn (shape : Shape) (p : Column → Value → Bool) (key criterion : Value) : Bool :=
  (columnOf? shape key).any fun c => p c criterion

mutual

/-- Whether criteria are made of lists that are not empty, and of columns with a property. -/
def isOver (shape : Shape) (p : Column → Value → Bool) : Value → Bool
  | .dict entries => areEntriesOver shape p entries
  | _ => false

def areEntriesOver (shape : Shape) (p : Column → Value → Bool) : List (Value × Value) → Bool
  | [] => true
  | (key, criterion) :: rest => isEntryOver shape p key criterion && areEntriesOver shape p rest

def isEntryOver (shape : Shape) (p : Column → Value → Bool) (key : Value) : Value → Bool
  | .list items =>
    match Connective.ofKey? key with
    | some _ => !items.isEmpty && areItemsOver shape p items
    | none => namesColumn shape p key (.list items)
  | .tuple items =>
    match Connective.ofKey? key with
    | some _ => !items.isEmpty && areItemsOver shape p items
    | none => namesColumn shape p key (.tuple items)
  | v =>
    match Connective.ofKey? key with
    | some _ => false
    | none => namesColumn shape p key v

def areItemsOver (shape : Shape) (p : Column → Value → Bool) : List Value → Bool
  | [] => true
  | v :: rest => isOver shape p v && areItemsOver shape p rest

end

def Connective.reading : Connective → List Bool → Bool
  | .allOf, bs => bs.all id
  | .anyOf, bs => bs.any id
  | .noneOf, bs => !bs.any id

/-- Whether the column that a key names meets what is asked of it. -/
def columnReading (shape : Shape) (row : Row) (key criterion : Value) : Bool :=
  match columnOf? shape key with
  | some c => (row.cell c.name).meets c.kind criterion
  | none => false

mutual

/-- Whether a row satisfies criteria, read as a Boolean formula. -/
def Row.satisfies (shape : Shape) (row : Row) : Value → Bool
  | .dict entries => Row.satisfiesEntries shape row entries
  | _ => true

def Row.satisfiesEntries (shape : Shape) (row : Row) : List (Value × Value) → Bool
  | [] => true
  | (key, criterion) :: rest =>
    Row.satisfiesEntry shape row key criterion && Row.satisfiesEntries shape row rest

def Row.satisfiesEntry (shape : Shape) (row : Row) (key : Value) : Value → Bool
  | .list items =>
    match Connective.ofKey? key with
    | some connective => connective.reading (Row.readings shape row items)
    | none => columnReading shape row key (.list items)
  | .tuple items =>
    match Connective.ofKey? key with
    | some connective => connective.reading (Row.readings shape row items)
    | none => columnReading shape row key (.tuple items)
  | v => columnReading shape row key v

/-- For each criteria of a list, whether a row satisfies them. -/
def Row.readings (shape : Shape) (row : Row) : List Value → List Bool
  | [] => []
  | v :: rest => Row.satisfies shape row v :: Row.readings shape row rest

end

/-- Whether a column is compared with values of its own type only. -/
def asksPlainly (c : Column) (criterion : Value) : Bool := isPlainDemand c.kind criterion

def Row.hasCell (row : Row) (c : Column) (_ : Value) : Bool := !(row.cell c.name).isNull

/-- Whether criteria look for no pattern and compare columns with values of their own types. -/
def isPlain (shape : Shape) (criteria : Value) : Bool := isOver shape asksPlainly criteria

/-- Whether no column that the criteria mention is null in a row. -/
def Row.fills (shape : Shape) (row : Row) (criteria : Value) : Bool :=
  isOver shape row.hasCell criteria

/-- The parts are plain conditions, and on the rows of a kind they are true together just when the
reading says so. -/
def PartsRead (parts : List Part) (kind : Row → Prop) (reading : Row → Bool) : Prop :=
  ∃ conditions : List Condition, parts = conditions.map .proper ∧
    (∀ a ∈ conditions, a.MadeOf Condition.IsPlainTest) ∧
    ∀ row, kind row →
      Join.conjunction.combineAll (conditions.map (·.truth row)) = some (reading row)

/-- The parts are plain conditions, and on the rows of a kind each one is true just when its
reading says so. -/
def EachPartReads (parts : List Part) (kind : Row → Prop) (readings : Row → List Bool) : Prop :=
  ∃ conditions : List Condition, parts = conditions.map .proper ∧
    (∀ a ∈ conditions, a.MadeOf Condition.IsPlainTest) ∧
    ∀ row, kind row → conditions.map (·.truth row) = (readings row).map some

theorem PartsRead.append {parts more : List Part} {k l : Row → Prop} {s t : Row → Bool}
    (hp : PartsRead parts k s) (hm : PartsRead more l t) :
    PartsRead (parts ++ more) (fun row => k row ∧ l row) fun row => s row && t row := by
  obtain ⟨as, rfl, ha, hs⟩ := hp
  obtain ⟨bs, rfl, hb, ht⟩ := hm
  refine ⟨as ++ bs, by simp, fun c hc => ?_, fun row hrow => ?_⟩
  · rcases List.mem_append.mp hc with hc | hc
    · exact ha c hc
    · exact hb c hc
  · rw [List.map_append, Join.combineAll_append, hs row hrow.1, ht row hrow.2]
    exact Truth.both_some _ _

theorem PartsRead.mono {parts : List Part} {k l : Row → Prop} {reading : Row → Bool}
    (h : PartsRead parts k reading) (hl : ∀ row, l row → k row) : PartsRead parts l reading := by
  obtain ⟨conditions, hc, hm, ht⟩ := h
  exact ⟨conditions, hc, hm, fun row hrow => ht row (hl row hrow)⟩

/-- Criteria within a list are one part of it. -/
theorem PartsRead.together {parts : List Part} {kind : Row → Prop} {reading : Row → Bool}
    (h : PartsRead parts kind reading) :
    ∃ a, Part.together parts = .proper a ∧ a.MadeOf Condition.IsPlainTest ∧
      ∀ row, kind row → a.truth row = some (reading row) := by
  obtain ⟨conditions, rfl, hm, ht⟩ := h
  obtain ⟨htruth, hmade⟩ := Join.condition_conjunction conditions
  refine ⟨_, Join.together_proper conditions, hmade _ hm, fun row hrow => ?_⟩
  rw [htruth, ht row hrow]

theorem EachPartReads.cons {parts more : List Part} {k l : Row → Prop} {s : Row → Bool}
    {t : Row → List Bool} (hp : PartsRead parts k s) (hm : EachPartReads more l t) :
    EachPartReads (Part.together parts :: more) (fun row => k row ∧ l row)
      fun row => s row :: t row := by
  obtain ⟨a, ha, hma, hta⟩ := hp.together
  obtain ⟨conditions, rfl, hmc, htc⟩ := hm
  refine ⟨a :: conditions, by rw [ha]; rfl, fun c hc => ?_, fun row hrow => ?_⟩
  · rcases List.mem_cons.mp hc with rfl | hc
    · exact hma
    · exact hmc c hc
  · rw [List.map_cons, List.map_cons, hta row hrow.1, htc row hrow.2]

theorem PartsRead.single {a : Condition} {kind : Row → Prop} {reading : Row → Bool}
    (hm : a.MadeOf Condition.IsPlainTest)
    (ht : ∀ row, kind row → a.truth row = some (reading row)) :
    PartsRead [.proper a] kind reading := by
  refine ⟨[a], rfl, fun b hb => ?_, fun row hrow => ?_⟩
  · rw [List.mem_singleton.mp hb]; exact hm
  · simpa using ht row hrow

/-- A connective over a list that is not empty. -/
theorem EachPartReads.apply {parts : List Part} {kind : Row → Prop} {readings : Row → List Bool}
    (connective : Connective) (hne : parts ≠ []) (h : EachPartReads parts kind readings) :
    PartsRead [connective.apply parts] kind fun row => connective.reading (readings row) := by
  obtain ⟨conditions, rfl, hm, ht⟩ := h
  have hc : conditions ≠ [] := by simpa using hne
  cases connective with
  | allOf =>
    obtain ⟨a, ha, hta, hma⟩ := Join.conjunction.join_proper hc
    show PartsRead [Join.conjunction.join (conditions.map .proper)] _ _
    rw [ha]
    refine .single (hma _ (Condition.isKept_madeOf _) hm) fun row hrow => ?_
    rw [hta, ht row hrow]
    exact Join.combineAll_conjunction_some _
  | anyOf =>
    obtain ⟨a, ha, hta, hma⟩ := Join.disjunction.join_proper hc
    show PartsRead [Join.disjunction.join (conditions.map .proper)] _ _
    rw [ha]
    refine .single (hma _ (Condition.isKept_madeOf _) hm) fun row hrow => ?_
    rw [hta, ht row hrow]
    exact Join.combineAll_disjunction_some _
  | noneOf =>
    obtain ⟨a, ha, hta, hma⟩ := Join.disjunction.join_proper hc
    show PartsRead [(Join.disjunction.join (conditions.map .proper)).contrary] _ _
    rw [ha]
    refine .single (hma _ (Condition.isKept_madeOf _) hm).contrary fun row hrow => ?_
    rw [Condition.truth_contrary, hta, ht row hrow, Join.combineAll_disjunction_some]
    rfl

/-- The parts of an entry under a column read as `columnReading` says, in rows in which the column
is not null. -/
theorem columnParts_reads {shape : Shape} {key criterion : Value} {parts : List Part}
    (hp : namesColumn shape asksPlainly key criterion = true)
    (h : columnParts shape key criterion = .ok parts) :
    PartsRead parts (fun row => namesColumn shape row.hasCell key criterion = true)
      fun row => columnReading shape row key criterion := by
  obtain ⟨c, conditions, hc, hk, rfl⟩ := columnParts_of_ok h
  have hc : columnOf? shape key = some c := hc
  have hplain : isPlainDemand c.kind criterion = true := by
    simpa [namesColumn, hc, asksPlainly] using hp
  obtain ⟨hm, ht⟩ := columnConditions_reads criterion hplain hk
  refine ⟨conditions, rfl, hm, fun row hrow => ?_⟩
  have hn : row.cell c.name ≠ .null := by
    simpa [namesColumn, hc, Row.hasCell, ← Cell.isNull_iff] using hrow
  simpa only [columnReading, hc] using ht row hn

theorem listParts_ne_nil {shape : Shape} {items : List Value} {parts : List Part}
    (hne : (!items.isEmpty) = true) (h : listParts shape items = .ok parts) : parts ≠ [] := by
  cases items with
  | nil => cases hne
  | cons v rest =>
    simp only [listParts] at h
    split at h
    · cases h
    · split at h
      · cases h
      · cases h
        simp

mutual

/-- The parts of criteria read as `Row.satisfies` says, at any depth of connectives, in rows in
which the columns they name are not null. -/
theorem criteriaParts_reads {shape : Shape} :
    ∀ (v : Value) {parts : List Part}, isOver shape asksPlainly v = true →
      criteriaParts shape v = .ok parts →
      PartsRead parts (fun row => isOver shape row.hasCell v = true)
        fun row => row.satisfies shape v
  | v, parts, hp, h => by
    cases v with
    | dict entries =>
      simp only [isOver] at hp
      simp only [criteriaParts] at h
      simpa only [isOver, Row.satisfies] using entryParts_reads entries hp h
    | _ => simp [isOver] at hp

theorem entryParts_reads {shape : Shape} :
    ∀ (entries : List (Value × Value)) {parts : List Part},
      areEntriesOver shape asksPlainly entries = true → entryParts shape entries = .ok parts →
      PartsRead parts (fun row => areEntriesOver shape row.hasCell entries = true)
        fun row => row.satisfiesEntries shape entries
  | [], _, _, h => by
    simp only [entryParts] at h
    cases h
    exact ⟨[], rfl, by simp, fun row _ => by simp only [Row.satisfiesEntries]; rfl⟩
  | (key, criterion) :: rest, _, hp, h => by
    simp only [areEntriesOver, Bool.and_eq_true] at hp
    simp only [entryParts] at h
    split at h
    · cases h
    · rename_i parts hk
      split at h
      · cases h
      · rename_i more hr
        cases h
        simpa only [areEntriesOver, Bool.and_eq_true, Row.satisfiesEntries] using
          (keyParts_reads key criterion hp.1 hk).append (entryParts_reads rest hp.2 hr)

theorem keyParts_reads {shape : Shape} (key : Value) :
    ∀ (criterion : Value) {parts : List Part},
      isEntryOver shape asksPlainly key criterion = true →
      keyParts shape key criterion = .ok parts →
      PartsRead parts (fun row => isEntryOver shape row.hasCell key criterion = true)
        fun row => row.satisfiesEntry shape key criterion
  | v, parts, hp, h => by
    cases hc : Connective.ofKey? key with
    | none =>
      have ho : ∀ P, isEntryOver shape P key v = namesColumn shape P key v := by
        intro P
        cases v <;> simp only [isEntryOver, hc]
      have hs : ∀ row : Row, row.satisfiesEntry shape key v = columnReading shape row key v := by
        intro row
        cases v <;> simp only [Row.satisfiesEntry, hc]
      simp only [ho, hs, keyParts_of_column hc] at hp h ⊢
      exact columnParts_reads hp h
    | some connective =>
      cases v with
      | list items =>
        simp only [isEntryOver, Row.satisfiesEntry, keyParts, hc, Bool.and_eq_true] at hp h ⊢
        obtain ⟨inner, hl, rfl⟩ := map_eq_ok_iff.mp h
        exact ((listParts_reads items hp.2 hl).apply connective (listParts_ne_nil hp.1 hl)).mono
          fun row hrow => hrow.2
      | tuple items =>
        simp only [isEntryOver, Row.satisfiesEntry, keyParts, hc, Bool.and_eq_true] at hp h ⊢
        obtain ⟨inner, hl, rfl⟩ := map_eq_ok_iff.mp h
        exact ((listParts_reads items hp.2 hl).apply connective (listParts_ne_nil hp.1 hl)).mono
          fun row hrow => hrow.2
      | _ => simp [isEntryOver, hc] at hp

theorem listParts_reads {shape : Shape} :
    ∀ (items : List Value) {parts : List Part}, areItemsOver shape asksPlainly items = true →
      listParts shape items = .ok parts →
      EachPartReads parts (fun row => areItemsOver shape row.hasCell items = true)
        fun row => row.readings shape items
  | [], _, _, h => by
    simp only [listParts] at h
    cases h
    exact ⟨[], rfl, by simp, fun row _ => by simp [Row.readings]⟩
  | v :: rest, _, hp, h => by
    simp only [areItemsOver, Bool.and_eq_true] at hp
    simp only [listParts] at h
    split at h
    · cases h
    · rename_i parts hv
      split at h
      · cases h
      · rename_i more hr
        cases h
        simpa only [areItemsOver, Bool.and_eq_true, Row.readings] using
          EachPartReads.cons (criteriaParts_reads v hp.1 hv) (listParts_reads rest hp.2 hr)

end

/-- The condition of plain criteria. -/
theorem criteriaCondition_reads {shape : Shape} {criteria : Value} {a : Condition}
    (hp : isPlain shape criteria = true) (h : criteriaCondition shape criteria = .ok a) :
    a.MadeOf Condition.IsPlainTest ∧
      ∀ row : Row, row.fills shape criteria = true →
        a.truth row = some (row.satisfies shape criteria) := by
  obtain ⟨parts, hparts, rfl⟩ := map_eq_ok_iff.mp h
  obtain ⟨conditions, rfl, hm, ht⟩ := criteriaParts_reads criteria hp hparts
  obtain ⟨htc, hmc⟩ := Join.condition_conjunction conditions
  exact ⟨hmc _ hm, fun row hrow => by rw [htc, ht row hrow]⟩

/-- A list of documents that criteria give holds, of the rows in which the criteria mention no
null, exactly those that satisfy the criteria. -/
theorem selected_iff_satisfies {awaited : Bool} {session : Session} {model : Model}
    {criteria : Value} {q : Documents} (hp : isPlain model.shape criteria = true)
    (h : Documents.find (some session) false model criteria = .ok q) :
    ∃ selected : List Row,
      (q.execute awaited).2 = .ok (.list (selected.map (q.document session.database))) ∧
      selected.Sublist (session.database.rowsOf model.shape.table) ∧
      ∀ row ∈ session.database.rowsOf model.shape.table, row.fills model.shape criteria = true →
        (row ∈ selected ↔ row.satisfies model.shape criteria = true) := by
  obtain ⟨condition, hc, rfl⟩ := Documents.find_eq_ok h
  obtain ⟨hm, ht⟩ := criteriaCondition_reads hp hc
  refine ⟨_, Documents.execute_plain hm rfl rfl rfl rfl rfl, List.filter_sublist, ?_⟩
  intro row hrow hf
  simp [List.mem_filter, hrow, Condition.selects, ht row hf, Truth.settle]

/-- Criteria for persons: a list within a list, and a negation of two tests. -/
def nestedCriteria : Value :=
  .dict
    [(.text "$or", .list
        [.dict [(.text "$nor", .list
            [.dict [(.text "age", single "$lt" (.int 18))],
              .dict [(.text "level", single "$in" (.list [.int 9, .int 10]))]])],
          .dict
            [(.text "_id", single "$ne" (.text "5b0e")),
              (.text "name", single "$not"
                (.dict [(.text "$gte", .text "B"), (.text "$ne", .text "Guest")]))]]),
      (.text "active", .bool true)]

/-- One of the persons is selected and another one is not. -/
theorem nestedCriteria_selects :
    ∃ (q : Documents) (selected : List Row),
      Documents.find (some Sample.session) false (Sample.personModel "Person") nestedCriteria
        = .ok q ∧
      (q.execute false).2 = .ok (.list (selected.map (q.document Sample.database))) ∧
      (Sample.persons[0]).row ∈ selected ∧ (Sample.persons[4]).row ∉ selected := by
  obtain ⟨q, hq⟩ : ∃ q, Documents.find (some Sample.session) false (Sample.personModel "Person")
      nestedCriteria = .ok q := ⟨_, rfl⟩
  obtain ⟨selected, hs, -, hr⟩ := selected_iff_satisfies rfl hq
  refine ⟨q, selected, hq, hs, ?_, fun h => ?_⟩
  · exact (hr _ (by decide) rfl).mpr rfl
  · exact absurd ((hr _ (by decide) rfl).mp h) (by decide)

end Store
end QueryOptions
