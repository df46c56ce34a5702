import QueryOptions.Proofs.Acceptance
import QueryOptions.Proofs.Calls
import QueryOptions.Proofs.Clauses
import QueryOptions.Sample.Staff

/-!
# QueryOptions.Proofs.Scan

Filters select what a linear scan selects. Clauses are compiled twice, to criteria and from there to
conditions, and conditions may be unknown of a row. What is selected in the end are the rows that
pass every clause (`filter_eq_scan`), as long as no clause replaces the criteria of another one.

* `criterion_plain`: what a clause asks of its column, in terms of the cell alone;
* `Clause.Gives.selects`: the entry of one clause selects the rows that pass the clause;
* `criteriaCondition_selects`: the entries of all clauses select the rows that pass all of them.
-/

namespace QueryOptions
namespace Store

/-! ## Conditions -/

section Demands

variable {kind : ColumnKind} {v : Value}

theorem bare_own (h : (kind.cell? v).isSome = true) :
    isPlainDemand kind v = true ∧
      (∀ a : Cell, a.meets kind v = (kind.cell? v).any (a.compares .equal)) ∧
      meetsNull v = false := by
  cases v with
  | dict tests => cases kind <;> simp [ColumnKind.cell?] at h
  | _ => exact ⟨by simpa only [isPlainDemand] using h, fun a => by simp only [Cell.meets], rfl⟩

theorem single_comparing {operator : String} (hm : operator ∈ comparingOperators)
    (h : (kind.cell? v).isSome = true) :
    isPlainDemand kind (single operator v) = true ∧
      (∀ a : Cell, a.meets kind (single operator v) = a.passes kind operator v) ∧
      meetsNull (single operator v) = passesNull (.text operator) := by
  have hn : operator ≠ "$not" := by
    rintro rfl
    simp [comparingOperators] at hm
  refine ⟨?_, fun a => ?_, by simp [single, meetsNull]⟩
  · simp [single, isPlainDemand, arePlainTests, isPlainOperator, hn, hm, h]
  · simp [single, Cell.meets, Cell.meetsAll, hn]

theorem single_in {items : List Value} (h : ∀ item ∈ items, (kind.cell? item).isSome = true) :
    isPlainDemand kind (single "$in" (.list items)) = true ∧
      ∀ a : Cell, a.meets kind (single "$in" (.list items)) = a.isAmong kind items := by
  refine ⟨?_, fun a => ?_⟩
  · simpa [single, isPlainDemand, arePlainTests, isPlainOperator, comparingOperators,
      listingOperators, Value.array?] using h
  · simp [single, Cell.meets, Cell.meetsAll, Cell.passes, Value.array?]

theorem single_not (kind : ColumnKind) (w : Value) :
    isPlainDemand kind (single "$not" w) = isPlainDemand kind w ∧
      ∀ a : Cell, a.meets kind (single "$not" w) = !a.meets kind w := by
  refine ⟨?_, fun a => ?_⟩
  · simp [single, isPlainDemand, arePlainTests]
  · simp [single, Cell.meets, Cell.meetsAll]

end Demands

/-- `criterion` of an operator without a pattern asks of a cell what the operator suits. -/
theorem criterion_plain {kind : ColumnKind} {o : Operator} {v w : Value}
    (hp : o.takesPattern = false) (ho : isOwn kind o v = true) (h : o.criterion v = .ok w) :
    isPlainDemand kind w = true ∧ (∀ a : Cell, a.meets kind w = a.suits kind o v) ∧
      meetsNull w = (o == .unequal || o == .without) := by
  cases o with
  | equal => cases h; exact bare_own ho
  | unequal => cases h; exact single_comparing (by decide) ho
  | less => cases h; exact single_comparing (by decide) ho
  | atMost => cases h; exact single_comparing (by decide) ho
  | greater => cases h; exact single_comparing (by decide) ho
  | atLeast => cases h; exact single_comparing (by decide) ho
  | within =>
    obtain ⟨items, hi, ho⟩ := (Option.any_eq_true _ _).mp ho
    simp only [Operator.criterion, hi] at h
    cases h
    obtain ⟨hd, hm⟩ := single_in (List.all_eq_true.mp ho)
    exact ⟨hd, fun a => by rw [hm]; simp [Cell.suits, hi], rfl⟩
  | without =>
    obtain ⟨items, hi, ho⟩ := (Option.any_eq_true _ _).mp ho
    simp only [Operator.criterion, hi] at h
    cases h
    obtain ⟨hd, hm⟩ := single_in (List.all_eq_true.mp ho)
    obtain ⟨hnd, hnm⟩ := single_not kind (single "$in" (.list items))
    exact ⟨hnd.trans hd, fun a => by rw [hnm, hm]; simp [Cell.suits, hi], rfl⟩
  | between =>
    obtain ⟨items, hi, ho⟩ := (Option.any_eq_true _ _).mp ho
    simp only [Operator.criterion, hi] at h
    split at h
    · rename_i low high heq
      cases h
      cases heq
      simp only [List.all_cons, List.all_nil, Bool.and_true, Bool.and_eq_true] at ho
      refine ⟨?_, fun a => ?_, rfl⟩
      · simp [isPlainDemand, arePlainTests, isPlainOperator, comparingOperators, ho]
      · simp [Cell.meets, Cell.meetsAll, Cell.passes, Cell.suits, hi]
    · cases h
  | outside => cases h
  | found => cases hp
  | unfound => cases hp

theorem columnConditions_comparing {c : Column} {key v : Value} {operator : String}
    {comparison : Comparison} {conditions : List Condition}
    (hc : comparison? operator = some comparison)
    (h : columnConditions c key (single operator v) = .ok conditions) :
    conditions = [.compare c comparison v] := by
  have hm : operator ∉ ["$eq", "$ne", "$in", "$nin", "$not"] := by
    intro hm
    simp only [List.mem_cons, List.not_mem_nil, or_false] at hm
    rcases hm with rfl | rfl | rfl | rfl | rfl <;> simp [comparison?] at hc
  simp only [List.mem_cons, List.not_mem_nil, or_false, not_or] at hm
  simp [single, columnConditions, operatorConditions, operatorCondition, hm, hc] at h
  split at h
  · cases h
  · rename_i a ha
    split at ha
    · cases ha
      cases h
      rfl
    · cases ha

theorem criteriaParts_bound {shape : Shape} {key operator : String} {v : Value} {c : Column}
    {comparison : Comparison} {parts : List Part} (hk : Connective.ofKey? (.text key) = none)
    (hr : shape.resolve? key = some c) (hc : comparison? operator = some comparison)
    (h : criteriaParts shape (.dict [(.text key, single operator v)]) = .ok parts) :
    parts = [.proper (.compare c comparison v)] := by
  have h := criteriaParts_single h
  rw [keyParts_of_column hk] at h
  obtain ⟨d, conditions, hd, hcond, rfl⟩ := columnParts_of_ok h
  have hcd : c = d := by
    rw [Value.text?, Option.bind_some, hr] at hd
    injection hd
  subst hcd
  rw [columnConditions_comparing hc hcond]
  rfl

theorem listParts_pair {shape : Shape} {v w : Value} {parts : List Part}
    (h : listParts shape [v, w] = .ok parts) :
    ∃ first second, criteriaParts shape v = .ok first ∧ criteriaParts shape w = .ok second ∧
      parts = [Part.together first, Part.together second] := by
  simp only [listParts] at h
  split at h
  · cases h
  · rename_i first hf
    split at h
    · cases h
    · rename_i more hm
      cases h
      split at hm
      · cases hm
      · rename_i second hs
        cases hm
        exact ⟨first, second, hf, hs, rfl⟩

/-- The parts are conditions that together select the rows that pass a test. -/
def PartsSelect (parts : List Part) (test : Row → Bool) : Prop :=
  ∃ conditions : List Condition, parts = conditions.map .proper ∧
    ∀ row, (Join.conjunction.combineAll (conditions.map (·.truth row))).settle false = test row

namespace Clause

variable {shape : Shape} {e : Clause} {parts : List Part}

theorem column_of_isPlain (hp : e.isPlain shape = true) :
    ∃ c, shape.resolve? e.key = some c ∧ Connective.ofKey? (.text e.key) = none ∧
      e.operator.takesPattern = false ∧ isOwn c.kind e.operator e.value = true := by
  simp only [isPlain, Bool.and_eq_true, Bool.not_eq_true', Option.isNone_iff_eq_none] at hp
  obtain ⟨c, hr, ho⟩ := (Option.any_eq_true _ _).mp hp.2
  exact ⟨c, hr, hp.1.2, hp.1.1, ho⟩

theorem field_selects {w : Value} (hp : e.isPlain shape = true)
    (hc : e.operator.criterion e.value = .ok w)
    (h : keyParts shape (.text e.key) w = .ok parts) :
    PartsSelect parts fun row => e.holds shape row := by
  obtain ⟨c, hr, hk, hpattern, hown⟩ := column_of_isPlain hp
  obtain ⟨hplain, hmeets, hnull⟩ := criterion_plain hpattern hown hc
  rw [keyParts_of_column hk] at h
  obtain ⟨d, conditions, hd, hcond, rfl⟩ := columnParts_of_ok h
  obtain rfl : c = d := Option.some.inj (hr.symm.trans hd)
  refine ⟨conditions, rfl, fun row => ?_⟩
  simp only [holds, hr]
  by_cases hn : row.cell c.name = .null
  · rw [columnConditions_null hn hplain hcond, hnull, hn]
    rfl
  · rw [(columnConditions_reads w hplain hcond).2 row hn, Cell.isNull_eq_false hn]
    exact hmeets _

theorem choice_selects {low high : Value} (hp : e.isPlain shape = true)
    (ho : e.operator = .outside) (ha : e.value.array? = some [low, high])
    (h : keyParts shape (.text "$or") (.list
        [.dict [(.text e.key, single "$lt" low)], .dict [(.text e.key, single "$gt" high)]])
      = .ok parts) : PartsSelect parts fun row => e.holds shape row := by
  obtain ⟨c, hr, hk, -, hown⟩ := column_of_isPlain hp
  rw [ho] at hown
  obtain ⟨items, hi, hall⟩ := (Option.any_eq_true _ _).mp hown
  obtain rfl : [low, high] = items := Option.some.inj (ha.symm.trans hi)
  simp only [List.all_cons, List.all_nil, Bool.and_true, Bool.and_eq_true] at hall
  obtain ⟨b, hb⟩ := Option.isSome_iff_exists.mp hall.1
  obtain ⟨d, hd⟩ := Option.isSome_iff_exists.mp hall.2
  have hor : Connective.ofKey? (.text "$or") = some .anyOf := by decide
  simp only [keyParts, hor] at h
  obtain ⟨both, hboth, rfl⟩ := map_eq_ok_iff.mp h
  obtain ⟨first, second, hf, hs, rfl⟩ := listParts_pair hboth
  rw [criteriaParts_bound hk hr rfl hf, criteriaParts_bound hk hr rfl hs]
  have hne : [Condition.compare c .less low, .compare c .greater high] ≠ [] := by simp
  obtain ⟨a, hj, hta, -⟩ := Join.disjunction.join_proper hne
  refine ⟨[a], congrArg (fun p => [p]) hj, fun row => ?_⟩
  simp only [List.map_cons, List.map_nil, Join.settle_combineAll_conjunction, List.all_cons,
    List.all_nil, hta, Join.settle_combineAll_disjunction, List.any_cons, List.any_nil,
    Bool.or_false, Bool.and_true, holds, hr]
  by_cases hn : row.cell c.name = .null
  · rw [Condition.truth_compare_null _ hn, Condition.truth_compare_null _ hn, hn, ho]
    rfl
  · rw [Condition.truth_compare _ hn hb, Condition.truth_compare _ hn hd,
      Cell.isNull_eq_false hn, ho]
    simp [Cell.suits, ha, hb, hd, Truth.settle]

theorem Gives.selects {entry : Value × Value} (hp : e.isPlain shape = true) (hg : e.Gives entry)
    (h : keyParts shape entry.1 entry.2 = .ok parts) :
    PartsSelect parts fun row => e.holds shape row := by
  cases hg with
  | field _ hc => exact field_selects hp hc h
  | choice ho ha => exact choice_selects hp ho ha h

end Clause
theorem PartsSelect.append {parts more : List Part} {s t : Row → Bool} (hp : PartsSelect parts s)
    (hm : PartsSelect more t) : PartsSelect (parts ++ more) fun row => s row && t row := by
  obtain ⟨as, rfl, hs⟩ := hp
  obtain ⟨bs, rfl, ht⟩ := hm
  refine ⟨as ++ bs, by simp, fun row => ?_⟩
  show _ = (s row && t row)
  rw [List.map_append, Join.combineAll_append, ← hs row, ← ht row]
  exact Truth.settle_both _ _ _

/-- The entries of clauses select the rows that pass all of them. -/
theorem entryParts_select {shape : Shape} {clauses : List Clause} {entries : Dict}
    {parts : List Part} (hp : ∀ e ∈ clauses, e.isPlain shape = true)
    (hg : List.Forall₂ Clause.Gives clauses entries) (h : entryParts shape entries = .ok parts) :
    PartsSelect parts fun row => clauses.all fun e => e.holds shape row := by
  induction hg generalizing parts with
  | nil =>
    simp only [entryParts] at h
    cases h
    exact ⟨[], rfl, fun row => rfl⟩
  | @cons e entry clauses entries he _ ih =>
    obtain ⟨key, v⟩ := entry
    simp only [entryParts] at h
    split at h
    · cases h
    · rename_i first hf
      split at h
      · cases h
      · rename_i more hm
        cases h
        exact (he.selects (hp e (by simp)) hf).append
          (ih (fun f hf => hp f (List.mem_cons_of_mem _ hf)) hm)

/-- The criteria of clauses select the rows that pass all clauses. -/
theorem criteriaCondition_selects {shape : Shape} {clauses : List Clause} {entries : Dict}
    {a : Condition} (hp : ∀ e ∈ clauses, e.isPlain shape = true)
    (hg : List.Forall₂ Clause.Gives clauses entries)
    (h : criteriaCondition shape (if entries.isEmpty then .null else .dict entries) = .ok a)
    (row : Row) : a.selects row = clauses.all fun e => e.holds shape row := by
  obtain ⟨parts, hparts, rfl⟩ := map_eq_ok_iff.mp h
  have hentries : entryParts shape entries = .ok parts := by
    cases entries with
    | nil => simpa [criteriaParts, entryParts, Value.isFalsy] using hparts
    | cons entry rest => simpa [criteriaParts] using hparts
  obtain ⟨conditions, rfl, hs⟩ := entryParts_select hp hg hentries
  unfold Condition.selects
  rw [(Join.condition_conjunction conditions).1 row]
  exact hs row

/-! ## One page of all rows -/

def pageOptions (values : List Value) (n : Int) : Dict :=
  [(.text "filters", .list values), (.text "pagination", .dict [(.text "size", .int n)])]

def Shape.wholeDocument (shape : Shape) (row : Row) : Document where
  columns := shape.columns.map fun c => (c.name, (row.cell c.name).toValue c.kind)
  related := []

theorem read_list (settings : FilterSettings) (values : List Value) :
    Filters.read settings (.list values) = Filters.readClauses settings values := by
  cases values <;> rfl

/-- What the sections read, when options give clauses and a page size. -/
theorem readings_of_pageOptions {q : Query} {values : List Value} {n : Int} {x : Query.Readings}
    (h : x.AreOf (pageOptions values n) q) :
    Filters.readClauses q.filters.settings values = .ok x.filters ∧ x.fields = [] ∧ x.embed = [] ∧
      x.sort = none ∧
      Pagination.settle q.pagination.settings .null (.int n) = ⟨x.page, none⟩ := by
  obtain ⟨hf, hs, he, ho, hp⟩ := h
  refine ⟨?_, ?_, ?_, ?_, ?_⟩
  · rw [← read_list]; exact hf
  · exact (Except.ok.inj hs).symm
  · exact (Except.ok.inj he).symm
  · exact (Except.ok.inj ho).symm
  · exact hp

theorem settle_first {settings : PageSettings} {n : Int} (hd : settings.defaultPage = .int 1)
    (hm : settings.maxSize = .null) (hn : n ≠ 0) :
    Pagination.settle settings .null (.int n) = ⟨some ⟨.int 1, .int n, .int n, .int 0⟩, none⟩ := by
  have hz : (Value.int n).orElse settings.defaultSize = .int n :=
    Value.orElse_of_not_falsy _ (by simp [Value.isFalsy, hn])
  unfold Pagination.settle
  rw [hz, hd, hm]
  show (⟨some ⟨.int 1, .int n, .int n, .int ((1 - 1) * n)⟩, none⟩ : Attempt Page) = _
  rw [Int.sub_self, Int.zero_mul]

def pageQuery (entries : Dict) (page : Page) : CompiledQuery where
  predicate := if entries.isEmpty then .null else .dict entries
  limit := page.limit
  skip := page.skip

theorem compile_pageOptions {watched : Bool} {q : Query} {shape : Shape} {values : List Value}
    {clauses : List Clause} {n : Int} {compiled : CompiledQuery}
    (hs : Filters.shadowed q.filters.settings.operators = [])
    (hv : values.map Clause.ofValue? = clauses.map some) (hscan : Scannable shape clauses)
    (ht : (q.take watched (.dict (pageOptions values n)) .null).outcome = .ok ())
    (hc : (q.take watched (.dict (pageOptions values n)) .null).state.compile = .ok compiled) :
    ∃ entries page, List.Forall₂ Clause.Gives clauses entries ∧
      Pagination.settle q.pagination.settings .null (.int n) = ⟨page, none⟩ ∧
      compiled = pageQuery entries (page.getD {}) := by
  obtain ⟨x, hx, hstate⟩ := Query.take_collection rfl ht
  obtain ⟨hfilters, hfields, hembed, hsort, hpage⟩ := readings_of_pageOptions hx
  rw [hstate] at hc
  obtain ⟨criteria, projection, hf, hp, rfl⟩ := Query.compile_collection rfl hc
  have hes : x.filters = clauses.map Clause.expression := by
    refine readClauses_plain hs hv (fun e he => ?_) hfilters
    obtain ⟨_, _, _, ht, _⟩ := Clause.column_of_isPlain (hscan.plain e he)
    exact ht
  have hnone : ∀ k ∈ Dict.keys [], ∀ e ∈ clauses, k ≠ .text e.slot := by simp [Dict.keys]
  obtain ⟨entries, hg, hcriteria⟩ := contribute_of_nodup hscan.nodup_slots hnone
    (by rw [← hes]; exact hf)
  obtain rfl : criteria = entries := hcriteria
  refine ⟨criteria, x.page, hg, hpage, ?_⟩
  have hp : Fields.compile (q.fields.filled .null (some x.fields)) = .ok projection := hp
  rw [hfields] at hp
  obtain rfl : "" = projection := Except.ok.inj hp
  show ({ predicate := _, relations := x.embed, sort := x.sort, limit := _, skip := _ } :
    CompiledQuery) = _
  rw [hembed, hsort]
  rfl

theorem prepare_pageQuery {session : Option Session} {model : Model} {entries : Dict} {page : Page}
    {d : Documents}
    (h : ((source session model).prepare (pageQuery entries page).opening
      (pageQuery entries page).steps).outcome = .ok d) :
    ∃ condition, criteriaCondition model.shape (if entries.isEmpty then .null else .dict entries)
        = .ok condition ∧
      d = { model, predicate := if entries.isEmpty then .null else .dict entries, condition,
            single := false, session, limit := page.limit, skip := page.skip } := by
  have ho : (source session model).acquire (pageQuery entries page).opening
      = Documents.find session false model (if entries.isEmpty then .null else .dict entries) := by
    cases entries <;> rfl
  have hs : (pageQuery entries page).steps = [.limit page.limit, .skip page.skip] := rfl
  unfold Source.prepare at h
  rw [ho, hs] at h
  split at h
  · cases h
  · rename_i found hf
    obtain ⟨condition, hc, rfl⟩ := Documents.find_eq_ok hf
    cases h
    exact ⟨condition, hc, rfl⟩

theorem take_nil {α : Type} (s : Slice) : s.take ([] : List α) = [] := by
  unfold Slice.take
  cases s.limit with
  | none => simp
  | some n => by_cases hn : n < 0 <;> simp [hn]

/-- A page that is large enough leaves out no row. -/
theorem take_page {α : Type} {settings : PageSettings} {n : Int} {page : Option Page}
    {d : Documents} {slice : Slice} {rows : List α} (hd : settings.defaultPage = .int 1)
    (hm : settings.maxSize = .null) (hn : (rows.length : Int) ≤ n)
    (hpage : Pagination.settle settings .null (.int n) = ⟨page, none⟩)
    (hlimit : d.limit = (page.getD {}).limit) (hskip : d.skip = (page.getD {}).skip)
    (hslice : d.slice = .ok slice) : slice.take rows = rows := by
  by_cases hz : n = 0
  · -- a size of zero is replaced by the default one, which need not be a number of rows
    have hr : rows = [] := List.eq_nil_of_length_eq_zero (by omega)
    rw [hr]
    exact take_nil slice
  · rw [settle_first hd hm hz] at hpage
    obtain rfl : some _ = page := congrArg Attempt.kept hpage
    have hl : Documents.countOf (.int n) = .ok (some n) := by
      simp [Documents.countOf, Value.isFalsy, hz, Documents.wholeCount, Except.map]
    unfold Documents.slice at hslice
    rw [hlimit, hskip] at hslice
    have hs : slice = { limit := some n } := by
      have h : (Documents.countOf (.int n)).map (fun limit => ({ limit } : Slice)) = .ok slice :=
        hslice
      rw [hl] at h
      exact (Except.ok.inj h).symm
    have hneg : ¬ n < 0 := by omega
    rw [hs]
    simp only [Slice.take, hneg, if_false]
    exact List.take_of_length_le (by simp; omega)

theorem record_nil (shape : Shape) (row : Row) :
    Documents.record shape [] row
      = shape.columns.map fun c => (c.name, (row.cell c.name).toValue c.kind) := by
  have hall : shape.columns.filter (Documents.isLoaded shape []) = shape.columns :=
    List.filter_eq_self.mpr fun c _ => rfl
  unfold Documents.record
  rw [hall]

/-- Filters and a page that is large enough give the rows that pass every clause, whole and in the
order of the table. -/
theorem filter_eq_scan {watched awaited : Bool} {library : Library} {r : Registry} {c : ModelClass}
    {session : Session} {settings : Value} {q : Query} {values : List Value}
    {clauses : List Clause} {n : Int} {d : Documents} {documents : List Document}
    (hsession : r.sessionOf c = some session)
    (hquery : (r.query library c.name).2 = .ok q)
    (hnew : Query.new library c.name settings = .ok q)
    (hfirst : q.pagination.settings.defaultPage = .int 1)
    (hunbounded : q.pagination.settings.maxSize = .null)
    (hvalues : values.map Clause.ofValue? = clauses.map some)
    (hscan : Scannable c.model.shape clauses)
    (hn : ((session.database.rowsOf c.model.shape.table).length : Int) ≤ n)
    (hcall : (r.enter watched library c .filter ⟨[.dict (pageOptions values n)], []⟩).outcome
      = .ok (.handle d))
    (hrun : (d.execute awaited).2 = .ok (.list documents)) :
    documents = ((session.database.rowsOf c.model.shape.table).filter fun row =>
      clauses.all fun e => e.holds c.model.shape row).map c.model.shape.wholeDocument := by
  obtain ⟨htake, hhandle⟩ := Registry.enter_ok hquery hcall
  obtain ⟨compiled, hcompile, hprepare⟩ := Query.handle_of_ok hhandle
  obtain ⟨entries, page, hg, hpage, rfl⟩ :=
    compile_pageOptions (Query.shadowed_of_new hnew) hvalues hscan htake hcompile
  unfold Registry.sourceOf at hprepare
  rw [hsession] at hprepare
  obtain ⟨condition, hcondition, rfl⟩ := prepare_pageQuery hprepare
  obtain ⟨slice, rows, hslice, hrows, rfl⟩ := Documents.execute_list rfl rfl hrun
  have hselects : (fun row => condition.selects row)
      = fun row => clauses.all fun e => e.holds c.model.shape row :=
    funext fun row => criteriaCondition_selects hscan.plain hg hcondition row
  have hr := Documents.rows_of_ok hrows
  dsimp only at hr
  rw [sortRows_nil, hselects] at hr
  have hlength := List.length_filter_le
    (fun row => clauses.all fun e => e.holds c.model.shape row)
    (session.database.rowsOf c.model.shape.table)
  rw [take_page hfirst hunbounded (by omega) hpage rfl rfl hslice] at hr
  rw [hr]
  refine List.map_congr_left fun row _ => ?_
  unfold Documents.document
  rw [record_nil]
  rfl

def personClass : ModelClass := ⟨"Person", ["Person", Sample.baseName], Sample.personModel "Person"⟩

def personClauses : List Clause :=
  [⟨"age", .atLeast, .int 12⟩, ⟨"nick", .unequal, .text "root"⟩,
    ⟨"level", .without, .list [.int 4, .int 7]⟩, ⟨"title", .outside, .list [.text "C", .text "V"]⟩]

def personCall : Arguments := ⟨[.dict (pageOptions (personClauses.map Clause.toValue) 14)], []⟩

/-- Persons that pass the clauses, one of them without a nickname. -/
theorem personClauses_scan :
    ∃ d documents,
      (Sample.registry.enter false Sample.library personClass .filter personCall).outcome
        = .ok (.handle d) ∧
      (d.execute false).2 = .ok (.list documents) ∧
      documents = [1, 3, 11, 12, 13].map fun i =>
        (Sample.personShape "Person").wholeDocument (Sample.persons.map Sample.Person.row)[i]! := by
  have hsession : Sample.registry.sessionOf personClass = some Sample.session := rfl
  have hnew := Query.new_null Sample.library personClass.name
  have hquery := Registry.query_of_absent (r := Sample.registry) rfl hnew
  have hscan : Scannable (Sample.personShape "Person") personClauses :=
    ⟨List.all_eq_true.mp rfl, by decide, by decide⟩
  have hdocuments {d : Documents} {documents : List Document}
      (hcall : (Sample.registry.enter false Sample.library personClass .filter personCall).outcome
        = .ok (.handle d))
      (hrun : (d.execute false).2 = .ok (.list documents)) :=
    filter_eq_scan hsession hquery hnew rfl rfl
      (Clause.map_ofValue?_toValue personClauses) hscan (by decide) hcall hrun
  have hcall := (Registry.enter_eq false hquery .filter personCall).2
  exact ⟨_, _, hcall.trans rfl, rfl, (hdocuments (hcall.trans rfl) rfl).trans rfl⟩

end Store
end QueryOptions
