import QueryOptions.Proofs.Handles
import QueryOptions.Sample.Staff

/-!
# QueryOptions.Proofs.LoadedColumns

Which columns a document comes with. A projection that names a column loads the columns that it
names, together with the key, whatever else it names; the same holds of the columns of a relation.
The name `_id` and the names of relationships are no names of columns. A projection of nothing but
such names therefore loads all columns (`loaded_columns`, `keyAlone_loads_all`).

* `selectedColumns_eq_ok_iff`, `relatedColumns_eq_ok_iff`: which names are taken, and what is kept;
* `Shape.loads_record`: the columns of one row;
* `configureAll_columns`, `configureAll_relation`: what the last selection and the last population
  of a relation leave behind stays until the query is run.
-/

namespace QueryOptions
namespace Store

/-! ## Names -/

namespace Shape

/-- Whether a name is that of a column. The name `_id` stands for the key and is none. -/
def isColumnName (s : Shape) (name : String) : Bool := name != "_id" && (s.column? name).isSome

def recordOf (s : Shape) (wanted : Column → Bool) (row : Row) : Record :=
  (s.columns.filter wanted).map fun c => (c.name, (row.cell c.name).toValue c.kind)

def isRequested (s : Shape) (names : List String) (c : Column) : Bool :=
  c == s.key || (c.name != "_id" && names.contains c.name)

/-- What is loaded of a row when names are asked for. -/
inductive Loads (s : Shape) (names : List String) (row : Row) : Record → Prop where
  /-- The key and the columns of those names, if there are any. -/
  | requested : (∃ name ∈ names, s.isColumnName name = true) →
      Loads s names row (s.recordOf (s.isRequested names) row)
  /-- All columns, if there are none. -/
  | all : (∀ name ∈ names, s.isColumnName name = false) →
      Loads s names row (s.recordOf (fun _ => true) row)

theorem column?_isSome {s : Shape} {c : Column} (h : c ∈ s.columns) :
    (s.column? c.name).isSome = true := by
  unfold column?
  rw [List.find?_isSome]
  exact ⟨c, h, beq_self_eq_true _⟩

theorem loads_record (s : Shape) (names : List String) (row : Row) :
    s.Loads names row (Documents.record s (names.filter s.isColumnName) row) := by
  by_cases hsome : ∃ name ∈ names, s.isColumnName name = true
  · have hloaded : ∀ c ∈ s.columns,
        Documents.isLoaded s (names.filter s.isColumnName) c = s.isRequested names c := by
      intro c hc
      have hne : (names.filter s.isColumnName).isEmpty = false := by
        obtain ⟨name, hname, hcolumn⟩ := hsome
        rw [List.isEmpty_eq_false_iff]
        exact List.ne_nil_of_mem (List.mem_filter.mpr ⟨hname, hcolumn⟩)
      have hname : (names.filter s.isColumnName).contains c.name
          = (c.name != "_id" && names.contains c.name) := by
        rw [Bool.eq_iff_iff]
        simp [isColumnName, column?_isSome hc, and_comm]
      simp only [Documents.isLoaded, isRequested, hne, hname, Bool.false_or]
    have hrecord : Documents.record s (names.filter s.isColumnName) row
        = s.recordOf (s.isRequested names) row := by
      unfold Documents.record recordOf
      rw [List.filter_congr hloaded]
    rw [hrecord]
    exact .requested hsome
  · have hnone : ∀ name ∈ names, s.isColumnName name = false :=
      fun name hname => Bool.eq_false_iff.mpr fun hcolumn => hsome ⟨name, hname, hcolumn⟩
    have hnil : names.filter s.isColumnName = [] := by
      rw [List.filter_eq_nil_iff]
      intro name hname
      simp [hnone name hname]
    rw [hnil]
    exact .all hnone

end Shape

/-- Whether a projection may have a name: that of the key, of a column or of a relationship. -/
def Model.isName (m : Model) (name : String) : Bool :=
  name == "_id" || (m.shape.column? name).isSome || (m.relationship? name).isSome

def Shape.isName (s : Shape) (name : String) : Bool := name == "_id" || (s.column? name).isSome

namespace Documents

theorem selectedColumns_eq_ok_iff {m : Model} {names columns : List String} :
    selectedColumns m names = .ok columns ↔
      (∀ name ∈ names, m.isName name = true) ∧ columns = names.filter m.shape.isColumnName := by
  induction names generalizing columns with
  | nil =>
    constructor
    · rintro ⟨rfl⟩
      exact ⟨nofun, rfl⟩
    · rintro ⟨-, rfl⟩
      rfl
  | cons name rest ih =>
    unfold selectedColumns
    by_cases hkey : name = "_id"
    · simp [hkey, ih, Model.isName, Shape.isColumnName]
    · rw [if_neg hkey]
      cases hcolumn : (m.shape.column? name).isSome with
      | true =>
        have hkept : (name :: rest).filter m.shape.isColumnName
            = name :: rest.filter m.shape.isColumnName :=
          List.filter_cons_of_pos (by simp [Shape.isColumnName, hkey, hcolumn])
        rw [if_pos rfl, map_eq_ok_iff, hkept]
        constructor
        · rintro ⟨more, hmore, rfl⟩
          obtain ⟨hknown, rfl⟩ := ih.mp hmore
          exact ⟨List.forall_mem_cons.mpr ⟨by simp [Model.isName, hcolumn], hknown⟩, rfl⟩
        · rintro ⟨hknown, rfl⟩
          exact ⟨_, ih.mpr ⟨(List.forall_mem_cons.mp hknown).2, rfl⟩, rfl⟩
      | false =>
        cases hrelation : (m.relationship? name).isSome with
        | true => simp [hkey, hcolumn, hrelation, ih, Model.isName, Shape.isColumnName]
        | false => simp [hkey, hcolumn, hrelation, Model.isName]

theorem relatedColumns_eq_ok_iff {target : Shape} {names columns : List String} :
    relatedColumns target names = .ok columns ↔
      (∀ name ∈ names, target.isName name = true) ∧
        columns = names.filter target.isColumnName := by
  induction names generalizing columns with
  | nil =>
    constructor
    · rintro ⟨rfl⟩
      exact ⟨nofun, rfl⟩
    · rintro ⟨-, rfl⟩
      rfl
  | cons name rest ih =>
    unfold relatedColumns
    by_cases hkey : name = "_id"
    · simp [hkey, ih, Shape.isName, Shape.isColumnName]
    · rw [if_neg hkey]
      cases hcolumn : (target.column? name).isSome with
      | true =>
        have hkept : (name :: rest).filter target.isColumnName
            = name :: rest.filter target.isColumnName :=
          List.filter_cons_of_pos (by simp [Shape.isColumnName, hkey, hcolumn])
        rw [if_pos rfl, map_eq_ok_iff, hkept]
        constructor
        · rintro ⟨more, hmore, rfl⟩
          obtain ⟨hknown, rfl⟩ := ih.mp hmore
          exact ⟨List.forall_mem_cons.mpr ⟨by simp [Shape.isName, hcolumn], hknown⟩, rfl⟩
        · rintro ⟨hknown, rfl⟩
          exact ⟨_, ih.mpr ⟨(List.forall_mem_cons.mp hknown).2, rfl⟩, rfl⟩
      | false => simp [hkey, hcolumn, Shape.isName]

/-! ## Steps -/

variable {q q' d : Documents} {name : String} {fields : Option String} {columns : List String}

theorem select_eq_ok_iff {projection : String} :
    q.select projection = .ok q' ↔
      (∀ name ∈ Text.words projection, q.model.isName name = true) ∧
        q' = { q with
          columns := (Text.words projection).filter q.model.shape.isColumnName } := by
  unfold select
  constructor
  · intro h
    split at h
    · cases h
    · rename_i kept hkept
      cases h
      obtain ⟨hknown, rfl⟩ := selectedColumns_eq_ok_iff.mp hkept
      exact ⟨hknown, rfl⟩
  · rintro ⟨hknown, rfl⟩
    rw [selectedColumns_eq_ok_iff.mpr ⟨hknown, rfl⟩]

theorem populate_eq_ok_iff :
    q.populate name fields = .ok q' ↔
      ∃ r, q.model.relationship? name = some r ∧
        (∀ n ∈ Text.words (fields.getD ""), r.target.isName n = true) ∧
        q' = { q with
          relations := putRelation q.relations name
            ((Text.words (fields.getD "")).filter r.target.isColumnName) } := by
  unfold populate
  constructor
  · intro h
    split at h
    · cases h
    · rename_i r hr
      split at h
      · cases h
      · rename_i kept hkept
        cases h
        obtain ⟨hknown, rfl⟩ := relatedColumns_eq_ok_iff.mp hkept
        exact ⟨r, hr, hknown, rfl⟩
  · rintro ⟨r, hr, hknown, rfl⟩
    rw [hr]
    dsimp only
    rw [relatedColumns_eq_ok_iff.mpr ⟨hknown, rfl⟩]

def IsDistinct (relations : List (String × List String)) : Prop := (relations.map Prod.fst).Nodup

theorem mem_putRelation_of_ne {n : String} (h : n ≠ name) (columns : List String)
    {relations : List (String × List String)} {old : List String} :
    (n, old) ∈ putRelation relations name columns ↔ (n, old) ∈ relations := by
  induction relations with
  | nil => simp [putRelation, h]
  | cons e rest ih =>
    obtain ⟨m, kept⟩ := e
    unfold putRelation
    split
    · rename_i hm
      simp [hm, h]
    · simp only [List.mem_cons, ih]

theorem mem_putRelation_self {relations : List (String × List String)}
    (h : IsDistinct relations) {old : List String} :
    (name, old) ∈ putRelation relations name columns ↔ old = columns := by
  induction relations with
  | nil => simp [putRelation]
  | cons e rest ih =>
    obtain ⟨m, kept⟩ := e
    obtain ⟨hm, hrest⟩ := List.nodup_cons.mp h
    unfold putRelation
    split
    · rename_i hname
      have hnot : (name, old) ∉ rest := by
        intro hmem
        exact hm (List.mem_map.mpr ⟨_, hmem, hname.symm⟩)
      simp [hname, hnot]
    · rename_i hname
      have hne : name ≠ m := fun e => hname e.symm
      simp [hne, ih hrest]

theorem isDistinct_putRelation {relations : List (String × List String)}
    (h : IsDistinct relations) (name : String) (columns : List String) :
    IsDistinct (putRelation relations name columns) := by
  induction relations with
  | nil => simp [IsDistinct, putRelation]
  | cons e rest ih =>
    obtain ⟨m, kept⟩ := e
    obtain ⟨hm, hrest⟩ := List.nodup_cons.mp h
    unfold putRelation
    split
    · exact h
    · rename_i hname
      refine List.nodup_cons.mpr ⟨fun hmem => ?_, ih hrest⟩
      obtain ⟨⟨n, old⟩, hput, he⟩ := List.mem_map.mp hmem
      obtain rfl : n = m := he
      exact hm (List.mem_map.mpr ⟨_, (mem_putRelation_of_ne hname columns).mp hput, rfl⟩)

/-- What a step says about the columns that are loaded. -/
theorem take_cases {s : Step} (h : q.take s = .ok d) :
    (∃ projection, s = .select projection ∧ q.select projection = .ok d) ∨
      (∃ relation fields, s = .populate relation fields ∧ q.populate relation fields = .ok d) ∨
      d.columns = q.columns ∧ d.relations = q.relations := by
  cases s with
  | select projection => exact .inl ⟨projection, rfl, h⟩
  | populate relation fields => exact .inr (.inl ⟨relation, fields, rfl, h⟩)
  | sort spec =>
    simp only [take, sort] at h
    split at h
    · cases h
    · cases h
      exact .inr (.inr ⟨rfl, rfl⟩)
  | limit count =>
    cases h
    exact .inr (.inr ⟨rfl, rfl⟩)
  | skip count =>
    cases h
    exact .inr (.inr ⟨rfl, rfl⟩)

theorem take_isDistinct {s : Step} (hq : IsDistinct q.relations) (h : q.take s = .ok d) :
    IsDistinct d.relations := by
  rcases take_cases h with ⟨_, -, h⟩ | ⟨_, _, -, h⟩ | ⟨-, hrelations⟩
  · obtain ⟨-, rfl⟩ := select_eq_ok_iff.mp h
    exact hq
  · obtain ⟨_, -, -, rfl⟩ := populate_eq_ok_iff.mp h
    exact isDistinct_putRelation hq _ _
  · rw [hrelations]
    exact hq

theorem take_columns {s : Step} (hs : ∀ projection, s ≠ .select projection)
    (h : q.take s = .ok d) : d.columns = q.columns := by
  rcases take_cases h with ⟨_, he, -⟩ | ⟨_, _, -, h⟩ | ⟨hcolumns, -⟩
  · exact absurd he (hs _)
  · obtain ⟨_, -, -, rfl⟩ := populate_eq_ok_iff.mp h
    rfl
  · exact hcolumns

theorem take_relation {s : Step} (hs : ∀ fields, s ≠ .populate name fields)
    (h : q.take s = .ok d) {kept : List String} :
    (name, kept) ∈ d.relations ↔ (name, kept) ∈ q.relations := by
  rcases take_cases h with ⟨_, -, h⟩ | ⟨relation, fields, he, h⟩ | ⟨-, hrelations⟩
  · obtain ⟨-, rfl⟩ := select_eq_ok_iff.mp h
    rfl
  · obtain ⟨_, -, -, rfl⟩ := populate_eq_ok_iff.mp h
    have hne : name ≠ relation := by
      rintro rfl
      exact hs fields he
    exact mem_putRelation_of_ne hne _
  · rw [hrelations]

variable {session : Option Session} {model : Model} {steps : List Step}

/-- What each of some steps keeps, all of them keep. -/
theorem configureAll_keeps {p : Documents → Prop}
    (hstep : ∀ s ∈ steps, ∀ {q d : Documents}, p q → q.take s = .ok d → p d) (hq : p q)
    (h : ((source session model).configureAll steps q).outcome = .ok d) : p d := by
  induction steps generalizing q with
  | nil =>
    cases h
    exact hq
  | cons s rest ih =>
    obtain ⟨next, hnext, hrest⟩ := Source.configureAll_cons.mp h
    have hkept := hstep s List.mem_cons_self hq hnext
    exact ih (fun t ht => hstep t (List.mem_cons_of_mem s ht)) hkept hrest

theorem configureAll_columns (hs : ∀ projection, .select projection ∉ steps)
    (h : ((source session model).configureAll steps q).outcome = .ok d) :
    d.columns = q.columns := by
  refine configureAll_keeps (p := fun e => e.columns = q.columns)
    (fun s hmem q' d' hq' ht => ?_) rfl h
  rw [take_columns (fun projection he => hs projection (he ▸ hmem)) ht]
  exact hq'

theorem configureAll_relation (hs : ∀ fields, .populate name fields ∉ steps)
    (hq : ∀ kept, (name, kept) ∈ q.relations ↔ kept = columns)
    (h : ((source session model).configureAll steps q).outcome = .ok d) :
    ∀ kept, (name, kept) ∈ d.relations ↔ kept = columns := by
  refine configureAll_keeps (p := fun e => ∀ kept, (name, kept) ∈ e.relations ↔ kept = columns)
    (fun s hmem q' d' hq' ht kept => ?_) hq h
  rw [take_relation (fun fields he => hs fields (he ▸ hmem)) ht]
  exact hq' kept

theorem prepare_ok {opening : Opening}
    (h : ((source session model).prepare opening steps).outcome = .ok d) :
    ∃ found, found.model = model ∧ found.session = session ∧ found.relations = [] ∧
      ((source session model).configureAll steps found).outcome = .ok d := by
  unfold Source.prepare at h
  split at h
  · cases h
  · rename_i found hfound
    cases opening with
    | find predicate =>
      obtain ⟨_, -, rfl⟩ := find_eq_ok hfound
      exact ⟨_, rfl, rfl, rfl, h⟩
    | findOne predicate =>
      obtain ⟨_, -, rfl⟩ := find_eq_ok hfound
      exact ⟨_, rfl, rfl, rfl, h⟩

theorem prepare_columns {opening : Opening} {before after : List Step} {projection : String}
    (hafter : ∀ p, .select p ∉ after)
    (h : ((source session model).prepare opening (before ++ .select projection :: after)).outcome
      = .ok d) :
    d.columns = (Text.words projection).filter model.shape.isColumnName := by
  obtain ⟨found, hmodel, -, -, hsteps⟩ := prepare_ok h
  obtain ⟨middle, hbefore, hrest⟩ := Source.configureAll_append hsteps
  obtain ⟨next, hselect, hlast⟩ := Source.configureAll_cons.mp hrest
  obtain ⟨-, rfl⟩ := select_eq_ok_iff.mp hselect
  rw [configureAll_columns hafter hlast, (configureAll_sameRows hbefore).model, hmodel]

theorem prepare_relation {opening : Opening} {before after : List Step}
    (hafter : ∀ f, .populate name f ∉ after)
    (h : ((source session model).prepare opening (before ++ .populate name fields :: after)).outcome
      = .ok d) :
    ∃ r, model.relationship? name = some r ∧ ∀ kept, (name, kept) ∈ d.relations ↔
      kept = (Text.words (fields.getD "")).filter r.target.isColumnName := by
  obtain ⟨found, hmodel, -, hnone, hsteps⟩ := prepare_ok h
  obtain ⟨middle, hbefore, hrest⟩ := Source.configureAll_append hsteps
  obtain ⟨next, hpopulate, hlast⟩ := Source.configureAll_cons.mp hrest
  obtain ⟨r, hr, -, rfl⟩ := populate_eq_ok_iff.mp hpopulate
  have hdistinct : IsDistinct middle.relations := by
    refine configureAll_keeps (p := fun e => IsDistinct e.relations)
      (fun s _ q' d' hq' ht => take_isDistinct hq' ht) ?_ hbefore
    rw [hnone]
    exact List.nodup_nil
  rw [(configureAll_sameRows hbefore).model, hmodel] at hr
  exact ⟨r, hr, configureAll_relation hafter (fun kept => mem_putRelation_self hdistinct) hlast⟩

end Documents

/-! ## Documents -/

def Result.documents : Result → List Document
  | .list documents => documents
  | .single document => document.toList

def Related.records : Related → List Record
  | .one record => record.toList
  | .many records => records

namespace Documents

variable {d : Documents} {session : Session} {model : Model} {db : Database} {row : Row}

theorem load_mem {slice : Slice} {documents : List Document} (hsession : d.session = some session)
    (h : d.load slice = .ok documents) {document : Document} (hm : document ∈ documents) :
    ∃ row ∈ session.database.rowsOf d.model.shape.table,
      document = d.document session.database row := by
  unfold load at h
  rw [hsession] at h
  obtain ⟨rows, hrows, rfl⟩ := map_eq_ok_iff.mp h
  obtain ⟨row, hrow, rfl⟩ := List.mem_map.mp hm
  refine ⟨row, ?_, rfl⟩
  have hall : ∀ {t}, t ∈ rows → t ∈ session.database.rowsOf d.model.shape.table := by
    intro t ht
    rw [rows_of_ok hrows] at ht
    have hsorted : t ∈ sortRows d.order ((session.database.rowsOf d.model.shape.table).filter
        fun row => d.condition.selects row) := by
      unfold Slice.take at ht
      dsimp only at ht
      split at ht
      · exact List.mem_of_mem_drop ht
      · split at ht
        · exact List.mem_of_mem_drop ht
        · exact List.mem_of_mem_drop (List.mem_of_mem_take ht)
    exact (List.mem_filter.mp (mem_sortRows.mp hsorted)).1
  exact hall hrow

/-- A document comes from a row of the table. -/
theorem execute_mem {awaited : Bool} {result : Result} (hsession : d.session = some session)
    (h : (d.execute awaited).2 = .ok result) {document : Document}
    (hm : document ∈ result.documents) :
    ∃ row ∈ session.database.rowsOf d.model.shape.table,
      document = d.document session.database row := by
  rw [execute_snd] at h
  unfold run at h
  rw [if_neg (by simp [hsession])] at h
  split at h
  · cases h
  · rename_i slice hslice
    unfold first all at h
    rw [hslice] at h
    dsimp only at h
    split at h
    · obtain ⟨_, hfirst, rfl⟩ := map_eq_ok_iff.mp h
      obtain ⟨documents, hload, rfl⟩ := map_eq_ok_iff.mp hfirst
      exact load_mem hsession hload (List.mem_of_mem_head? (Option.mem_toList.mp hm))
    · obtain ⟨documents, hload, rfl⟩ := map_eq_ok_iff.mp h
      exact load_mem hsession hload hm

theorem relatedOf_mem {shape : Shape} {r : Relationship} {columns : List String} {record : Record}
    (h : record ∈ (relatedOf db shape r columns row).records) :
    ∃ t ∈ db.related shape r row, record = Documents.record r.target columns t := by
  have hmap : record ∈ (db.related shape r row).map (Documents.record r.target columns) := by
    unfold relatedOf at h
    dsimp only at h
    split at h
    · exact List.mem_of_mem_head? (Option.mem_toList.mp h)
    · exact h
  obtain ⟨t, ht, rfl⟩ := List.mem_map.mp hmap
  exact ⟨t, ht, rfl⟩

/-- A document has the rows of a relation once. -/
theorem document_related {name : String} {r : Relationship} {columns : List String}
    (hr : d.model.relationship? name = some r)
    (h : ∀ kept, (name, kept) ∈ d.relations ↔ kept = columns) (other : Related) :
    (name, other) ∈ (d.document db row).related ↔
      other = relatedOf db d.model.shape r columns row := by
  have hname {n : String} {r : Relationship} (hr : d.model.relationship? n = some r) :
      r.name = n := by
    unfold Model.relationship? at hr
    have hfound := List.find?_some hr
    simpa using hfound
  show (name, other) ∈ d.relations.filterMap _ ↔ _
  rw [List.mem_filterMap]
  constructor
  · rintro ⟨⟨n, kept⟩, hmem, he⟩
    obtain ⟨r', hr', he⟩ := Option.map_eq_some_iff.mp he
    obtain ⟨hn, rfl⟩ := Prod.mk.inj he
    obtain rfl : n = name := (hname hr').symm.trans hn
    obtain rfl := (h kept).mp hmem
    obtain rfl : r' = r := Option.some.inj (hr'.symm.trans hr)
    rfl
  · rintro rfl
    refine ⟨(name, columns), (h columns).mpr rfl, ?_⟩
    dsimp only
    rw [hr, Option.map_some, hname hr]

/-- What the last selection and the last population of a relation say is what is loaded of each
document and of each related row. Both take names that are known, and no others. -/
theorem loaded_columns :
    (∀ (q : Documents) (projection : String), (∃ q', q.select projection = .ok q') ↔
      ∀ name ∈ Text.words projection, q.model.isName name = true) ∧
    (∀ (q : Documents) (name : String) (fields : Option String),
      (∃ q', q.populate name fields = .ok q') ↔
        ∃ r, q.model.relationship? name = some r ∧
          ∀ n ∈ Text.words (fields.getD ""), r.target.isName n = true) ∧
    ∀ {opening : Opening} {steps : List Step} {awaited : Bool} {result : Result},
      ((source (some session) model).prepare opening steps).outcome = .ok d →
      (d.execute awaited).2 = .ok result →
      (∀ before projection after, steps = before ++ .select projection :: after →
        (∀ p, .select p ∉ after) → ∀ document ∈ result.documents,
          ∃ row ∈ session.database.rowsOf model.shape.table,
            model.shape.Loads (Text.words projection) row document.columns) ∧
      ∀ before name fields after, steps = before ++ .populate name fields :: after →
        (∀ f, .populate name f ∉ after) →
        ∃ r, model.relationship? name = some r ∧ ∀ document ∈ result.documents,
          ∃ row ∈ session.database.rowsOf model.shape.table, ∃ related,
            (∀ other, (name, other) ∈ document.related ↔ other = related) ∧
            ∀ record ∈ related.records, ∃ t ∈ session.database.related model.shape r row,
              r.target.Loads (Text.words (fields.getD "")) t record := by
  refine ⟨fun q projection => ?_, fun q name fields => ?_, ?_⟩
  · simp only [select_eq_ok_iff, exists_and_left, exists_eq, and_true]
  · constructor
    · rintro ⟨q', h⟩
      obtain ⟨r, hr, hknown, -⟩ := populate_eq_ok_iff.mp h
      exact ⟨r, hr, hknown⟩
    · rintro ⟨r, hr, hknown⟩
      exact ⟨_, populate_eq_ok_iff.mpr ⟨r, hr, hknown, rfl⟩⟩
  intro opening steps awaited result hprepare hrun
  obtain ⟨found, hmodel, hsession, -, hsteps⟩ := prepare_ok hprepare
  have hsame := configureAll_sameRows hsteps
  rw [← hsame.model] at hmodel
  rw [← hsame.session] at hsession
  refine ⟨?_, ?_⟩
  · rintro before projection after rfl hafter document hdocument
    have hcolumns := prepare_columns hafter hprepare
    obtain ⟨row, hrow, rfl⟩ := execute_mem hsession hrun hdocument
    rw [hmodel] at hrow
    refine ⟨row, hrow, ?_⟩
    show model.shape.Loads _ row (Documents.record d.model.shape d.columns row)
    rw [hmodel, hcolumns]
    exact model.shape.loads_record _ row
  · rintro before name fields after rfl hafter
    obtain ⟨r, hr, hrelation⟩ := prepare_relation hafter hprepare
    refine ⟨r, hr, fun document hdocument => ?_⟩
    obtain ⟨row, hrow, rfl⟩ := execute_mem hsession hrun hdocument
    rw [← hmodel] at hr
    rw [hmodel] at hrow
    refine ⟨row, hrow, _, fun other => document_related hr hrelation other, ?_⟩
    intro record hrecord
    obtain ⟨t, ht, rfl⟩ := relatedOf_mem hrecord
    rw [hmodel] at ht
    exact ⟨t, ht, r.target.loads_record _ t⟩

/-- Persons with their names, and with the cities of their teams. -/
def namesAndCities : List Step :=
  [.select "team name _id", .populate "team" (some "_id city city"), .sort [("level", -1)]]

/-- The names have been loaded, and the cities. -/
theorem namesAndCities_loaded :
    ∃ d documents,
      ((source (some Sample.session) (Sample.personModel "Person")).prepare (.find none)
        namesAndCities).outcome = .ok d ∧
      (d.execute false).2 = .ok (.list documents) ∧
      (∀ document ∈ documents,
        ∃ row ∈ Sample.database.rowsOf "persons",
          (Sample.personShape "Person").Loads ["team", "name", "_id"] row document.columns) ∧
      (∃ r, (Sample.personModel "Person").relationship? "team" = some r ∧
        ∀ document ∈ documents, ∃ row ∈ Sample.database.rowsOf "persons", ∃ related,
          (∀ other, ("team", other) ∈ document.related ↔ other = related) ∧
          ∀ record ∈ related.records,
            ∃ t ∈ Sample.database.related (Sample.personShape "Person") r row,
              r.target.Loads ["_id", "city", "city"] t record) ∧
      (documents.map fun document => document.columns.map Prod.fst)
        = List.replicate 14 ["id", "name"] ∧
      (documents.head?.map Document.related).map (fun related => related.map fun e =>
          (e.1, e.2.records)) =
        some [("team", [[("id", .int 1), ("city", .text "Oslo")]])] := by
  obtain ⟨d, documents, hprepare, hrun, hnames, hcities⟩ : ∃ d documents,
      ((source (some Sample.session) (Sample.personModel "Person")).prepare (.find none)
        namesAndCities).outcome = .ok d ∧
      (d.execute false).2 = .ok (.list documents) ∧
      (documents.map fun document => document.columns.map Prod.fst)
        = List.replicate 14 ["id", "name"] ∧
      (documents.head?.map Document.related).map (fun related => related.map fun e =>
          (e.1, e.2.records)) =
        some [("team", [[("id", .int 1), ("city", .text "Oslo")]])] := ⟨_, _, rfl, rfl, rfl, rfl⟩
  obtain ⟨hcolumns, hrelated⟩ := loaded_columns.2.2 hprepare hrun
  refine ⟨d, documents, hprepare, hrun, ?_, ?_, hnames, hcities⟩
  · exact hcolumns [] "team name _id" _ rfl (by simp)
  · exact hrelated [.select "team name _id"] "team" (some "_id city city") _ rfl (by simp)

/-- Only the key is asked for, of teams and of the teams of persons. All columns are loaded. -/
theorem keyAlone_loads_all :
    ∃ d e teams persons,
      ((source (some Sample.session) Sample.teamModel).prepare (.find none)
        [.select "_id"]).outcome = .ok d ∧
      (d.execute false).2 = .ok (.list teams) ∧
      (teams.map fun document => document.columns.map Prod.fst)
        = List.replicate 4 ["id", "name", "city"] ∧
      ((source (some Sample.session) (Sample.personModel "Person")).prepare (.find none)
        [.populate "team" (some "_id")]).outcome = .ok e ∧
      (e.execute false).2 = .ok (.list persons) ∧
      (persons.head?.map Document.related).map (fun related => related.map fun e =>
          (e.1, e.2.records.map fun record => record.map Prod.fst)) =
        some [("team", [["id", "name", "city"]])] :=
  ⟨_, _, _, _, rfl, rfl, rfl, rfl, rfl, rfl⟩

end Documents
end Store
end QueryOptions
