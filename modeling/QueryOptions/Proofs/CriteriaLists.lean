import Mathlib.Data.List.Forall2
import QueryOptions.Proofs.Complement

/-!
# QueryOptions.Proofs.CriteriaLists

Lists of criteria, next to the criteria in them. `$and` selects the rows that all criteria of the
list select, and `$or` those that one of them selects, null or not. `$nor` asks for more than that
no criteria selects a row: each of them has to be known to be false of it. Of a row in which a
column that is asked for is null, a comparison is unknown, and so is its contrary.

An empty list says nothing at all: `$or` of nothing selects every row, and the database cannot read
`$nor` of nothing. Within other criteria such a list is left out (`isGapless`).

* `listParts_found`: the parts of a list are the conditions of its criteria;
* `Condition.isKept_isSound`: joining conditions brings in nothing that the database refuses;
* `truth_of_decided`: where the criteria of a list are known to be true or false;
* `Documents.listed_selects`: the rows that lists select.
-/

namespace QueryOptions
namespace Store

/-! ## Joined conditions -/

namespace Condition

theorem isKept_isMalformed : IsKept fun a => a.isMalformed = false where
  always := rfl
  never := rfl
  both ha hb := by simp [isMalformed, ha, hb]
  either ha hb := by simp [isMalformed, ha, hb]

theorem isKept_storable : IsKept fun a => ∀ v ∈ a.parameters, Storable v where
  always := by simp [parameters]
  never := by simp [parameters]
  both ha hb v hv := (List.mem_append.mp hv).elim (ha v) (hb v)
  either ha hb v hv := (List.mem_append.mp hv).elim (ha v) (hb v)

theorem isKept_fails (row : Row) (unknown : Bool) :
    IsKept fun a => a.fails row unknown = false where
  always := rfl
  never := rfl
  both ha hb := by simp [fails, ha, hb]
  either ha hb := by simp [fails, ha, hb]

theorem isKept_isSound (rows : List Row) : IsKept fun a => a.IsSound rows where
  always := ⟨rfl, isKept_storable.always, fun _ _ => rfl⟩
  never := ⟨rfl, isKept_storable.never, fun _ _ => rfl⟩
  both ha hb :=
    ⟨isKept_isMalformed.both ha.readable hb.readable, isKept_storable.both ha.storable hb.storable,
      fun row hrow => (isKept_fails row false).both (ha.steady row hrow) (hb.steady row hrow)⟩
  either ha hb :=
    ⟨isKept_isMalformed.either ha.readable hb.readable,
      isKept_storable.either ha.storable hb.storable,
      fun row hrow => (isKept_fails row false).either (ha.steady row hrow) (hb.steady row hrow)⟩

end Condition

/-! ## Criteria without gaps -/

def Part.isProper : Part → Bool
  | .proper _ => true
  | _ => false

/-- Whether all parts of criteria are conditions: none of them is left out as an empty list. -/
def isGapless (shape : Shape) (criteria : Value) : Bool :=
  match criteriaParts shape criteria with
  | .ok parts => parts.all Part.isProper
  | .error _ => false

theorem conditions_of_isProper {parts : List Part} (h : parts.all Part.isProper = true) :
    ∃ conditions : List Condition, parts = conditions.map .proper := by
  induction parts with
  | nil => exact ⟨[], rfl⟩
  | cons p rest ih =>
    simp only [List.all_cons, Bool.and_eq_true] at h
    obtain ⟨conditions, rfl⟩ := ih h.2
    cases p with
    | proper a => exact ⟨a :: conditions, rfl⟩
    | _ => cases h.1

section

variable {session : Option Session} {model : Model}

/-- Within a list, criteria stand for the condition that they have on their own. -/
theorem together_found {criteria : Value} {q : Documents}
    (h : Documents.find session false model criteria = .ok q)
    (hgapless : isGapless model.shape criteria = true) :
    ∃ parts, criteriaParts model.shape criteria = .ok parts ∧
      Part.together parts = .proper q.condition := by
  obtain ⟨condition, hcondition, rfl⟩ := Documents.find_eq_ok h
  obtain ⟨parts, hparts, rfl⟩ := map_eq_ok_iff.mp hcondition
  simp only [isGapless, hparts] at hgapless
  obtain ⟨conditions, rfl⟩ := conditions_of_isProper hgapless
  exact ⟨_, hparts, Join.together_proper conditions⟩

theorem listParts_found {cs : List Value} {qs : List Documents}
    (hfind : List.Forall₂ (fun c q => Documents.find session false model c = .ok q) cs qs)
    (hgapless : ∀ c ∈ cs, isGapless model.shape c = true) :
    listParts model.shape cs = .ok ((qs.map Documents.condition).map .proper) := by
  induction hfind with
  | nil => simp [listParts]
  | @cons c q cs qs hc _ ih =>
    obtain ⟨parts, hparts, htogether⟩ := together_found hc (hgapless c (by simp))
    simp only [listParts, hparts, ih fun d hd => hgapless d (List.mem_cons_of_mem _ hd), htogether]
    rfl

end

/-! ## Criteria that are decided -/

section Made

variable {shape : Shape} {p : Column → Value → Bool} {P : Condition → Prop}

/-- The parts are conditions that are made of tests with a property. -/
def PartsMadeOf (P : Condition → Prop) (parts : List Part) : Prop :=
  ∃ conditions : List Condition, parts = conditions.map .proper ∧ ∀ a ∈ conditions, a.MadeOf P

theorem PartsMadeOf.append {parts more : List Part} (hp : PartsMadeOf P parts)
    (hm : PartsMadeOf P more) : PartsMadeOf P (parts ++ more) := by
  obtain ⟨as, rfl, ha⟩ := hp
  obtain ⟨bs, rfl, hb⟩ := hm
  exact ⟨as ++ bs, by simp, fun c hc => (List.mem_append.mp hc).elim (ha c) (hb c)⟩

theorem PartsMadeOf.cons {parts more : List Part} (hp : PartsMadeOf P parts)
    (hm : PartsMadeOf P more) : PartsMadeOf P (Part.together parts :: more) := by
  obtain ⟨as, rfl, ha⟩ := hp
  have hone : PartsMadeOf P [Part.together (as.map .proper)] := by
    rw [Join.together_proper]
    refine ⟨[_], rfl, fun c hc => ?_⟩
    rw [List.mem_singleton.mp hc]
    exact (Join.condition_conjunction as).2 P ha
  exact hone.append hm

theorem PartsMadeOf.apply {parts : List Part} (connective : Connective) (hne : parts ≠ [])
    (hp : PartsMadeOf P parts) : PartsMadeOf P [connective.apply parts] := by
  obtain ⟨conditions, rfl, hm⟩ := hp
  have hc : conditions ≠ [] := by simpa using hne
  have hjoin (j : Join) : ∃ a : Condition, j.join (conditions.map .proper) = .proper a ∧
      a.MadeOf P := by
    obtain ⟨a, ha, -, hkept⟩ := j.join_proper hc
    exact ⟨a, ha, hkept _ (Condition.isKept_madeOf P) hm⟩
  have hsingle {a : Condition} (ha : a.MadeOf P) : PartsMadeOf P [.proper a] :=
    ⟨[a], rfl, fun b hb => by rwa [List.mem_singleton.mp hb]⟩
  cases connective with
  | allOf =>
    obtain ⟨a, ha, hm⟩ := hjoin .conjunction
    simpa only [Connective.apply, ha] using hsingle hm
  | anyOf =>
    obtain ⟨a, ha, hm⟩ := hjoin .disjunction
    simpa only [Connective.apply, ha] using hsingle hm
  | noneOf =>
    obtain ⟨a, ha, hm⟩ := hjoin .disjunction
    simpa only [Connective.apply, ha, Part.contrary] using hsingle hm.contrary

/-- What is asked of a column with a property is made of tests with a property. -/
def MakesTests (p : Column → Value → Bool) (P : Condition → Prop) : Prop :=
  ∀ {c : Column} {key criterion : Value} {conditions : List Condition}, p c criterion = true →
    columnConditions c key criterion = .ok conditions → ∀ a ∈ conditions, a.MadeOf P

theorem columnParts_madeOf (hp : MakesTests p P) {key criterion : Value} {parts : List Part}
    (hn : namesColumn shape p key criterion = true)
    (h : columnParts shape key criterion = .ok parts) : PartsMadeOf P parts := by
  obtain ⟨c, conditions, hc, hk, rfl⟩ := columnParts_of_ok h
  have hc : columnOf? shape key = some c := hc
  have hpc : p c criterion = true := by simpa [namesColumn, hc] using hn
  exact ⟨conditions, rfl, hp hpc hk⟩

mutual

/-- The parts of criteria are made of the tests that their entries are made of, at any depth of
connectives. -/
theorem criteriaParts_madeOf (hp : MakesTests p P) : ∀ (v : Value) {parts : List Part},
    isOver shape p v = true → criteriaParts shape v = .ok parts → PartsMadeOf P parts
  | v, parts, ho, h => by
    cases v with
    | dict entries =>
      simp only [isOver] at ho
      simp only [criteriaParts] at h
      exact entryParts_madeOf hp entries ho h
    | _ => simp [isOver] at ho

theorem entryParts_madeOf (hp : MakesTests p P) :
    ∀ (entries : List (Value × Value)) {parts : List Part}, areEntriesOver shape p entries = true →
    entryParts shape entries = .ok parts → PartsMadeOf P parts
  | [], _, _, h => by
    simp only [entryParts] at h
    cases h
    exact ⟨[], rfl, by simp⟩
  | (key, criterion) :: rest, _, ho, h => by
    simp only [areEntriesOver, Bool.and_eq_true] at ho
    simp only [entryParts] at h
    split at h
    · cases h
    · rename_i parts hk
      split at h
      · cases h
      · rename_i more hr
        cases h
        exact (keyParts_madeOf hp key criterion ho.1 hk).append (entryParts_madeOf hp rest ho.2 hr)

theorem keyParts_madeOf (hp : MakesTests p P) (key : Value) :
    ∀ (criterion : Value) {parts : List Part}, isEntryOver shape p key criterion = true →
    keyParts shape key criterion = .ok parts → PartsMadeOf P parts
  | v, parts, ho, h => by
    cases hc : Connective.ofKey? key with
    | none =>
      have hn : isEntryOver shape p key v = namesColumn shape p key v := by
        cases v <;> simp only [isEntryOver, hc]
      rw [hn] at ho
      rw [keyParts_of_column hc] at h
      exact columnParts_madeOf hp ho h
    | some connective =>
      cases v with
      | list items =>
        simp only [isEntryOver, keyParts, hc, Bool.and_eq_true] at ho h
        obtain ⟨inner, hl, rfl⟩ := map_eq_ok_iff.mp h
        exact (listParts_madeOf hp items ho.2 hl).apply connective (listParts_ne_nil ho.1 hl)
      | tuple items =>
        simp only [isEntryOver, keyParts, hc, Bool.and_eq_true] at ho h
        obtain ⟨inner, hl, rfl⟩ := map_eq_ok_iff.mp h
        exact (listParts_madeOf hp items ho.2 hl).apply connective (listParts_ne_nil ho.1 hl)
      | _ => simp [isEntryOver, hc] at ho

theorem listParts_madeOf (hp : MakesTests p P) : ∀ (items : List Value) {parts : List Part},
    areItemsOver shape p items = true → listParts shape items = .ok parts → PartsMadeOf P parts
  | [], _, _, h => by
    simp only [listParts] at h
    cases h
    exact ⟨[], rfl, by simp⟩
  | v :: rest, _, ho, h => by
    simp only [areItemsOver, Bool.and_eq_true] at ho
    simp only [listParts] at h
    split at h
    · cases h
    · rename_i parts hv
      split at h
      · cases h
      · rename_i more hr
        cases h
        exact (criteriaParts_madeOf hp v ho.1 hv).cons (listParts_madeOf hp rest ho.2 hr)

end

end Made

/-- Criteria have no gaps if none of the lists within them is empty. -/
theorem isGapless_of_isOver {shape : Shape} {criteria : Value} {parts : List Part}
    (h : criteriaParts shape criteria = .ok parts)
    (ho : isOver shape (fun _ _ => true) criteria = true) : isGapless shape criteria = true := by
  have hany : MakesTests (fun _ _ => true) fun _ => True := fun _ _ _ _ => .test trivial
  obtain ⟨conditions, rfl, -⟩ := criteriaParts_madeOf hany criteria ho h
  simp [isGapless, h, Part.isProper]

/-- Whether a column that is not null is asked something that can be decided. -/
def Row.decides (row : Row) (c : Column) (criterion : Value) : Bool :=
  row.hasCell c criterion && isDecided c criterion

theorem makesTests_decides (row : Row) : MakesTests row.decides (Condition.IsDecidedOn row) := by
  intro c key criterion conditions hd h a ha
  simp only [Row.decides, Row.hasCell, Bool.and_eq_true, Bool.not_eq_true'] at hd
  have hn : row.cell c.name ≠ .null := fun e => by simp [e, Cell.isNull] at hd
  exact (columnConditions_decided criterion hd.2 h a ha).mono fun _ ht => ⟨c, hn, ht⟩

/-- Criteria are known to be true or false of a row in which no column is null that they ask for,
if they compare with nothing that is undefined. -/
theorem truth_of_decided {awaited : Bool} {session : Session} {model : Model} {criteria : Value}
    {q : Documents} {result : Result} {row : Row}
    (hfind : Documents.find (some session) false model criteria = .ok q)
    (hrun : (q.execute awaited).2 = .ok result)
    (hrow : row ∈ session.database.rowsOf model.shape.table)
    (hd : isOver model.shape row.decides criteria = true) :
    (q.condition.truth row).isSome = true := by
  obtain ⟨-, hsound⟩ := Documents.sound_of_execute hfind hrun
  obtain ⟨condition, hcondition, rfl⟩ := Documents.find_eq_ok hfind
  obtain ⟨parts, hparts, rfl⟩ := map_eq_ok_iff.mp hcondition
  obtain ⟨conditions, rfl, hm⟩ := criteriaParts_madeOf (makesTests_decides row) criteria hd hparts
  exact Condition.truth_known ((Join.condition_conjunction conditions).2 _ hm) hsound.storable
    (hsound.steady row hrow)

/-! ## Lists -/

namespace Documents

variable {session : Session} {model : Model} {connective : Connective} {cs : List Value}

def findListed (session : Session) (model : Model) (connective : Connective) (cs : List Value) :
    Except Fault Documents :=
  find (some session) false model (.dict [(.text connective.token, .list cs)])

theorem find_listed {parts : List Part} (h : listParts model.shape cs = .ok parts) :
    findListed session model connective cs
      = .ok (whole session model (.dict [(.text connective.token, .list cs)])
          (connective.apply parts).condition) := by
  have hkey : Connective.ofKey? (.text connective.token) = some connective := by
    cases connective <;> decide
  have hparts : criteriaParts model.shape (.dict [(.text connective.token, .list cs)])
      = .ok [connective.apply parts] := by
    simp only [criteriaParts, entryParts, keyParts, hkey, h, Except.map]
    rfl
  unfold findListed find criteriaCondition
  rw [hparts]
  exact congrArg (fun condition => Except.ok (whole session model _ condition))
    (Join.condition_single _)

/-- None of the criteria may be true of a row just if all are known to be false. -/
theorem not_any_settle (row : Row) (qs : List Documents) :
    (!(qs.map fun q => q.condition.truth row).any (Truth.settle true))
      = qs.all fun q => q.condition.truth row == some false := by
  induction qs with
  | nil => rfl
  | cons q rest ih =>
    simp only [List.map_cons, List.any_cons, List.all_cons, Bool.not_or, ih]
    rcases q.condition.truth row with _ | _ | _ <;> rfl

theorem exists_found {session : Option Session} {qs : List Documents}
    (hfind : List.Forall₂ (fun c q => find session false model c = .ok q) cs qs) :
    ∀ q ∈ qs, ∃ c ∈ cs, find session false model c = .ok q := by
  induction hfind with
  | nil => simp
  | cons hc _ ih =>
    refine List.forall_mem_cons.mpr ⟨⟨_, by simp, hc⟩, fun q hq => ?_⟩
    obtain ⟨c, hm, h⟩ := ih q hq
    exact ⟨c, List.mem_cons_of_mem _ hm, h⟩

section Listed

variable {awaited : Bool} {qs : List Documents}
  (hparts : listParts model.shape cs = .ok ((qs.map condition).map .proper))
include hparts

theorem findListed_allOf
    (hsound : ∀ a ∈ qs.map condition, a.IsSound (session.database.rowsOf model.shape.table)) :
    ∃ every, findListed session model .allOf cs = .ok every ∧
      (every.execute awaited).2 = .ok (every.selected session.database) ∧
      ∀ row, every.condition.selects row = qs.all fun q => q.condition.selects row := by
  have hjoined := Join.kept_conjunction (Condition.isKept_isSound _) hsound
  refine ⟨_, find_listed hparts, execute_whole hjoined, fun row => ?_⟩
  show Truth.settle false ((Join.conjunction.join _).condition.truth row) = _
  rw [(Join.condition_conjunction _).1, Join.settle_combineAll_conjunction]
  simp only [List.all_map]
  rfl

theorem findListed_anyOf (hne : qs.map condition ≠ [])
    (hsound : ∀ a ∈ qs.map condition, a.IsSound (session.database.rowsOf model.shape.table)) :
    ∃ either, findListed session model .anyOf cs = .ok either ∧
      (either.execute awaited).2 = .ok (either.selected session.database) ∧
      ∀ row, either.condition.selects row = qs.any fun q => q.condition.selects row := by
  obtain ⟨a, ha, htruth, hjoined⟩ := Join.disjunction.join_proper hne
  have hcondition : (Connective.anyOf.apply ((qs.map condition).map .proper)).condition = a :=
    congrArg Part.condition ha
  have hfound : findListed session model .anyOf cs = _ := find_listed hparts
  rw [hcondition] at hfound
  refine ⟨_, hfound, execute_whole (hjoined _ (Condition.isKept_isSound _) hsound), fun row => ?_⟩
  show Truth.settle false (a.truth row) = _
  rw [htruth, Join.settle_combineAll_disjunction]
  simp only [List.any_map]
  rfl

theorem findListed_noneOf (hne : qs.map condition ≠ []) :
    ∃ neither, findListed session model .noneOf cs = .ok neither ∧
      ((∀ q ∈ qs, q.condition.MadeOf Condition.IsPlainTest) →
        (neither.execute awaited).2 = .ok (neither.selected session.database)) ∧
      ∀ row, neither.condition.selects row
        = qs.all fun q => q.condition.truth row == some false := by
  obtain ⟨a, ha, htruth, hjoined⟩ := Join.disjunction.join_proper hne
  have hcondition : (Connective.noneOf.apply ((qs.map condition).map .proper)).condition
      = a.contrary := congrArg (fun p => p.contrary.condition) ha
  have hfound : findListed session model .noneOf cs = _ := find_listed hparts
  rw [hcondition] at hfound
  refine ⟨_, hfound, fun hplain => ?_, fun row => ?_⟩
  · have hmade : a.MadeOf Condition.IsPlainTest := by
      refine hjoined _ (Condition.isKept_madeOf _) fun b hb => ?_
      obtain ⟨q, hq, rfl⟩ := List.mem_map.mp hb
      exact hplain q hq
    exact execute_whole (Condition.isSound_of_plain hmade.contrary _)
  · show a.contrary.selects row = _
    unfold Condition.selects
    rw [Condition.truth_contrary, Truth.settle_negate, htruth, Join.settle_combineAll_disjunction,
      ← not_any_settle, List.map_map]
    rfl

end Listed

/-- The rows that lists of criteria select, next to the criteria in them. -/
theorem listed_selects {awaited : Bool} {qs : List Documents}
    (hfind : List.Forall₂ (fun c q => find (some session) false model c = .ok q) cs qs)
    (hrun : ∀ q ∈ qs, ∃ result, (q.execute awaited).2 = .ok result)
    (hgapless : ∀ c ∈ cs, isGapless model.shape c = true) :
    (∃ every, findListed session model .allOf cs = .ok every ∧
      (every.execute awaited).2 = .ok (every.selected session.database) ∧
      ∀ row, every.condition.selects row = qs.all fun q => q.condition.selects row) ∧
    (cs ≠ [] → ∃ either, findListed session model .anyOf cs = .ok either ∧
      (either.execute awaited).2 = .ok (either.selected session.database) ∧
      ∀ row, either.condition.selects row = qs.any fun q => q.condition.selects row) ∧
    (cs ≠ [] → ∃ neither, findListed session model .noneOf cs = .ok neither ∧
      (∀ result, (neither.execute awaited).2 = .ok result →
        result = neither.selected session.database) ∧
      ((∀ q ∈ qs, q.condition.MadeOf Condition.IsPlainTest) →
        (neither.execute awaited).2 = .ok (neither.selected session.database)) ∧
      (∀ row, neither.condition.selects row
        = qs.all fun q => q.condition.truth row == some false) ∧
      ∀ row ∈ session.database.rowsOf model.shape.table,
        (∀ c ∈ cs, isOver model.shape row.decides c = true) →
        neither.condition.selects row = !qs.any fun q => q.condition.selects row) := by
  have hparts := listParts_found hfind hgapless
  have hsound (a : Condition) (ha : a ∈ qs.map condition) :
      a.IsSound (session.database.rowsOf model.shape.table) := by
    obtain ⟨q, hq, rfl⟩ := List.mem_map.mp ha
    obtain ⟨c, -, hc⟩ := exists_found hfind q hq
    obtain ⟨result, hr⟩ := hrun q hq
    exact (sound_of_execute hc hr).2
  have hnil (hne : cs ≠ []) : qs.map condition ≠ [] := by
    rintro hq
    rw [List.map_eq_nil_iff] at hq
    subst hq
    cases hfind
    exact hne rfl
  refine ⟨findListed_allOf hparts hsound, fun hne => findListed_anyOf hparts (hnil hne) hsound,
    fun hne => ?_⟩
  obtain ⟨neither, hneither, hplain, hselects⟩ := findListed_noneOf hparts (hnil hne)
  refine ⟨neither, hneither, fun result hr => (sound_of_execute hneither hr).1, hplain, hselects,
    fun row hrow hd => ?_⟩
  -- Here no criteria is unknown of the row, so that those which do not select it are false.
  rw [hselects row, List.not_any_eq_all_not, Bool.eq_iff_iff, List.all_eq_true, List.all_eq_true]
  refine forall₂_congr fun q hq => ?_
  obtain ⟨c, hc, hfound⟩ := exists_found hfind q hq
  obtain ⟨result, hr⟩ := hrun q hq
  obtain ⟨b, hb⟩ := Option.isSome_iff_exists.mp (truth_of_decided hfound hr hrow (hd c hc))
  simp [Condition.selects, hb, Truth.settle]

/-- Criteria for persons with a nickname, and for grown persons. -/
def rootOrGrown : List Value :=
  [.dict [(.text "nick", .text "root")], .dict [(.text "age", .dict [(.text "$gte", .int 18)])]]

/-- Persons of whom both criteria are true, one of them, or none. A person without a nickname and an
age is in no list. -/
theorem rootOrGrown_listed :
    ∃ qs every either neither,
      List.Forall₂ (fun c q => find (some Sample.session) false (Sample.personModel "Person") c
        = .ok q) rootOrGrown qs ∧
      findListed Sample.session (Sample.personModel "Person") .allOf rootOrGrown = .ok every ∧
      findListed Sample.session (Sample.personModel "Person") .anyOf rootOrGrown = .ok either ∧
      findListed Sample.session (Sample.personModel "Person") .noneOf rootOrGrown = .ok neither ∧
      (every.execute false).2 = .ok (every.ofNumbers [0]) ∧
      (either.execute false).2 = .ok (either.ofNumbers [0, 1, 2, 3, 7, 8, 11, 12, 13]) ∧
      (neither.execute false).2 = .ok (neither.ofNumbers [4, 5, 9, 10]) ∧
      ∀ row, neither.condition.selects row
        = qs.all fun q => q.condition.truth row == some false := by
  have hlisted {p q neither : Documents}
      (hp : find (some Sample.session) false (Sample.personModel "Person")
        (.dict [(.text "nick", .text "root")]) = .ok p)
      (hq : find (some Sample.session) false (Sample.personModel "Person")
        (.dict [(.text "age", .dict [(.text "$gte", .int 18)])]) = .ok q)
      (hrunp : ∃ result, (p.execute false).2 = .ok result)
      (hrunq : ∃ result, (q.execute false).2 = .ok result)
      (hneither : findListed Sample.session (Sample.personModel "Person") .noneOf rootOrGrown
        = .ok neither) (row : Row) :
      neither.condition.selects row
        = [p, q].all fun q => q.condition.truth row == some false := by
    have hgapless : ∀ c ∈ rootOrGrown, isGapless (Sample.personShape "Person") c = true :=
      List.forall_mem_cons.mpr ⟨isGapless_of_isOver rfl rfl,
        List.forall_mem_cons.mpr ⟨isGapless_of_isOver rfl rfl, nofun⟩⟩
    obtain ⟨-, -, hnone⟩ := listed_selects (.cons hp (.cons hq .nil))
      (List.forall_mem_cons.mpr ⟨hrunp, List.forall_mem_cons.mpr ⟨hrunq, nofun⟩⟩) hgapless
    obtain ⟨_, hfound, -, -, hselects, -⟩ := hnone (by simp)
    obtain rfl := Except.ok.inj (hneither.symm.trans hfound)
    exact hselects row
  exact ⟨[_, _], _, _, _, .cons rfl (.cons rfl .nil), rfl, rfl, rfl, rfl, rfl, rfl,
    hlisted rfl rfl ⟨_, rfl⟩ ⟨_, rfl⟩ rfl⟩

/-- Two persons without a nickname are selected neither by a nickname nor by `$nor` of it. `$or` of
nothing selects everybody, and `$nor` of nothing cannot be read. -/
theorem nullAndNothing_break_lists :
    (∃ q neither, ofPersons "nick" (.text "root") = .ok q ∧
      findListed Sample.session (Sample.personModel "Person") .noneOf
        [.dict [(.text "nick", .text "root")]] = .ok neither ∧
      (q.execute false).2 = .ok (q.ofNumbers [0, 7]) ∧
      (neither.execute false).2
        = .ok (neither.ofNumbers [2, 3, 4, 5, 8, 9, 10, 11, 12, 13])) ∧
    (∃ either, findListed Sample.session (Sample.personModel "Person") .anyOf [] = .ok either ∧
      (either.execute false).2 = .ok (either.ofNumbers (List.range 14))) ∧
    ∃ neither, findListed Sample.session (Sample.personModel "Person") .noneOf [] = .ok neither ∧
      (neither.execute false).2 = .error .databaseFailed :=
  ⟨⟨_, _, rfl, rfl, rfl, rfl⟩, ⟨_, rfl, rfl⟩, _, rfl, rfl⟩

end Documents
end Store
end QueryOptions
