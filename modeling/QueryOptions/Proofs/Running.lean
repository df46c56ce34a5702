import QueryOptions.Proofs.Connectives
import QueryOptions.Proofs.Outcomes
import QueryOptions.Store.Documents

/-!
# QueryOptions.Proofs.Running

Running a query. The database refuses a query if it cannot read the condition, if it cannot take a
value (`Storable`), or if it fails on a row. A condition with which none of that happens is sound
(`Condition.IsSound`), and running comes to selecting the rows of which the condition is true,
ordering them and cutting out a slice. Conditions that look for no pattern are sound if the database
takes all their values.

* `isSound_of_plain`: nothing of a condition without patterns fails;
* `rows_of_sound`, `sound_of_rows`: the database gives rows just if the condition is sound;
* `run_list`, `execute_ok`, `execute_sound`: what running a query for all documents gives.
-/

namespace QueryOptions
namespace Store

/-- The database takes a value. -/
def Storable (v : Value) : Prop := ∃ d, Datum.ofValue v = .ok d

namespace Condition

/-- A test that looks for no pattern and whose values the database takes. -/
def IsPlainTest : Condition → Prop
  | .isNull _ => True
  | .compare _ _ v => Storable v
  | .differs _ v => Storable v
  | .member _ items => ∀ v ∈ items, Storable v
  | _ => False

theorem fails_eq_false {a : Condition} (h : a.MadeOf IsPlainTest) (row : Row) :
    ∀ unknown, a.fails row unknown = false := by
  induction h with
  | always => intro unknown; rfl
  | never => intro unknown; rfl
  | @test a ha => intro unknown; cases a <;> first | rfl | cases ha
  | both _ _ iha ihb => intro unknown; simp [fails, iha, ihb]
  | either _ _ iha ihb => intro unknown; simp [fails, iha, ihb]
  | negated _ ih => intro unknown; simp [fails, ih]

theorem isMalformed_eq_false {a : Condition} (h : a.MadeOf IsPlainTest) :
    a.isMalformed = false := by
  induction h with
  | always => rfl
  | never => rfl
  | @test a ha => cases a <;> first | rfl | cases ha
  | both _ _ iha ihb => simp [isMalformed, iha, ihb]
  | either _ _ iha ihb => simp [isMalformed, iha, ihb]
  | negated _ ih => simpa [isMalformed] using ih

theorem storable_parameters {a : Condition} (h : a.MadeOf IsPlainTest) :
    ∀ v ∈ a.parameters, Storable v := by
  induction h with
  | always => simp [parameters]
  | never => simp [parameters]
  | @test a ha =>
    cases a with
    | member c items =>
      intro v hv
      exact ha v (List.mem_filter.mp hv).1
    | compare c comparison w =>
      intro v hv
      rw [List.mem_singleton.mp hv]; exact ha
    | differs c w =>
      intro v hv
      rw [List.mem_singleton.mp hv]; exact ha
    | isNull c => simp [parameters]
    | _ => cases ha
  | both _ _ iha ihb =>
    intro v hv
    rcases List.mem_append.mp hv with hv | hv
    · exact iha v hv
    · exact ihb v hv
  | either _ _ iha ihb =>
    intro v hv
    rcases List.mem_append.mp hv with hv | hv
    · exact iha v hv
    · exact ihb v hv
  | negated _ ih => exact ih

theorem bindAll_of_storable {vs : List Value} (h : ∀ v ∈ vs, Storable v) : bindAll vs = .ok () := by
  induction vs with
  | nil => rfl
  | cons v rest ih =>
    obtain ⟨d, hd⟩ := h v (by simp)
    simp only [bindAll, hd]
    exact ih fun w hw => h w (List.mem_cons_of_mem _ hw)

theorem storable_of_bindAll {vs : List Value} (h : bindAll vs = .ok ()) : ∀ v ∈ vs, Storable v := by
  induction vs with
  | nil => simp
  | cons v rest ih =>
    simp only [bindAll] at h
    split at h
    · cases h
    · rename_i d hd
      exact List.forall_mem_cons.mpr ⟨⟨d, hd⟩, ih h⟩

/-- The database refuses nothing of a condition when it looks at rows. -/
structure IsSound (a : Condition) (rows : List Row) : Prop where
  readable : a.isMalformed = false
  storable : ∀ v ∈ a.parameters, Storable v
  steady : ∀ row ∈ rows, a.fails row false = false

theorem isSound_of_plain {a : Condition} (h : a.MadeOf IsPlainTest) (rows : List Row) :
    a.IsSound rows :=
  ⟨isMalformed_eq_false h, storable_parameters h, fun row _ => fails_eq_false h row false⟩

theorem filterRows_of_sound {a : Condition} {rows : List Row}
    (h : ∀ row ∈ rows, a.fails row false = false) :
    a.filterRows rows = .ok (rows.filter fun row => a.selects row) := by
  unfold filterRows
  rw [if_neg]
  simpa using h

theorem filterRows_of_ok {a : Condition} {rows selected : List Row}
    (h : a.filterRows rows = .ok selected) :
    selected = rows.filter fun row => a.selects row := by
  unfold filterRows at h
  split at h
  · cases h
  · cases h
    rfl

end Condition

/-! ## Rows -/

theorem sortRows_nil (rows : List Row) : sortRows [] rows = rows := by
  induction rows with
  | nil => rfl
  | cons r rest ih =>
    show insertRow [] r (sortRows [] rest) = r :: rest
    rw [ih]
    cases rest <;> rfl

namespace Documents

theorem find_eq_ok {session : Option Session} {single : Bool} {model : Model} {predicate : Value}
    {q : Documents} (h : find session single model predicate = .ok q) :
    ∃ condition, criteriaCondition model.shape predicate = .ok condition ∧
      q = { model, predicate, condition, single, session } := by
  unfold find at h
  split at h
  · cases h
  · rename_i condition hc
    cases h
    exact ⟨condition, hc, rfl⟩

/-- If the condition is sound, the database gives a slice of the selected rows in order. -/
theorem rows_of_sound {q : Documents} {slice : Slice} {db : Database}
    (h : q.condition.IsSound (db.rowsOf q.model.shape.table))
    (hs : ∀ v ∈ slice.parameters, Storable v) :
    q.rows slice db = .ok (slice.take (sortRows q.order
      ((db.rowsOf q.model.shape.table).filter fun row => q.condition.selects row))) := by
  have hb : Condition.bindAll (q.condition.parameters ++ slice.parameters) = .ok () :=
    Condition.bindAll_of_storable fun v hv =>
      (List.mem_append.mp hv).elim (h.storable v) (hs v)
  unfold rows
  rw [h.readable, hb, Condition.filterRows_of_sound h.steady]
  rfl

/-- If the database refuses nothing, it gives a slice of the selected rows in order. -/
theorem rows_of_ok {q : Documents} {slice : Slice} {db : Database} {rows : List Row}
    (h : q.rows slice db = .ok rows) :
    rows = slice.take (sortRows q.order
      ((db.rowsOf q.model.shape.table).filter fun row => q.condition.selects row)) := by
  unfold Documents.rows at h
  split at h
  · cases h
  · split at h
    · cases h
    · split at h
      · cases h
      · rename_i selected hs
        cases h
        rw [Condition.filterRows_of_ok hs]

/-- If the database refuses nothing, the condition is sound. -/
theorem sound_of_rows {q : Documents} {slice : Slice} {db : Database} {rows : List Row}
    (h : q.rows slice db = .ok rows) :
    q.condition.IsSound (db.rowsOf q.model.shape.table) := by
  unfold Documents.rows at h
  split at h
  · cases h
  · rename_i hmalformed
    split at h
    · cases h
    · rename_i hbind
      have hstorable := Condition.storable_of_bindAll hbind
      refine ⟨by simpa using hmalformed, fun v hv => hstorable v (List.mem_append_left _ hv), ?_⟩
      split at h
      · cases h
      · rename_i selected hs
        unfold Condition.filterRows at hs
        split at hs
        · cases hs
        · rename_i hfails
          intro row hrow
          simpa using fun hf => hfails (List.any_eq_true.mpr ⟨row, hrow, hf⟩)

theorem execute_snd (awaited : Bool) (q : Documents) : (q.execute awaited).2 = q.run.2 := by
  unfold execute
  split
  rename_i notices outcome hr
  rw [hr]
  split <;> rfl

theorem run_list {q : Documents} {session : Session} {slice : Slice}
    (hsession : q.session = some session) (hsingle : q.single = false)
    (hslice : q.slice = .ok slice) :
    q.run.2 = (q.rows slice session.database).map
      fun rows => .list (rows.map (q.document session.database)) := by
  unfold run all load
  rw [hsession, hslice, hsingle]
  cases h : q.rows slice session.database <;> simp [Except.map, h]

/-- A query for all documents that has run was in a session, which gave the rows. -/
theorem execute_ok {awaited : Bool} {q : Documents} {result : Result} (hsingle : q.single = false)
    (h : (q.execute awaited).2 = .ok result) :
    ∃ session slice rows, q.session = some session ∧ q.slice = .ok slice ∧
      q.rows slice session.database = .ok rows ∧
      result = .list (rows.map (q.document session.database)) := by
  cases hsession : q.session with
  | none => simp [execute_snd, run, hsession] at h
  | some session =>
    cases hslice : q.slice with
    | error f => simp [execute_snd, run, hsession, hslice] at h
    | ok slice =>
      rw [execute_snd, run_list hsession hsingle hslice] at h
      obtain ⟨rows, hr, rfl⟩ := map_eq_ok_iff.mp h
      exact ⟨session, slice, rows, rfl, rfl, hr, rfl⟩

/-- If a query gives all documents, the rows were there and were not refused. -/
theorem execute_list {awaited : Bool} {q : Documents} {session : Session}
    {documents : List Document} (hsession : q.session = some session)
    (hsingle : q.single = false) (h : (q.execute awaited).2 = .ok (.list documents)) :
    ∃ slice rows, q.slice = .ok slice ∧ q.rows slice session.database = .ok rows ∧
      documents = rows.map (q.document session.database) := by
  obtain ⟨_, slice, rows, hs, hslice, hr, heq⟩ := execute_ok hsingle h
  obtain rfl : session = _ := Option.some.inj (hsession.symm.trans hs)
  cases heq
  exact ⟨slice, rows, hslice, hr, rfl⟩

/-- The documents of all rows that a query selects, in the order of the table. -/
def selected (q : Documents) (db : Database) : Result :=
  .list (((db.rowsOf q.model.shape.table).filter fun row => q.condition.selects row).map
    (q.document db))

/-- `execute` of a query for all documents gives the rows that a sound condition selects, if it is
neither ordered nor cut. -/
theorem execute_sound {awaited : Bool} {q : Documents} {session : Session}
    (h : q.condition.IsSound (session.database.rowsOf q.model.shape.table))
    (hsession : q.session = some session) (hsingle : q.single = false) (ho : q.order = [])
    (hl : q.limit = .null) (hs : q.skip = .null) :
    (q.execute awaited).2 = .ok (q.selected session.database) := by
  have hslice : q.slice = .ok {} := by
    unfold slice
    rw [hl, hs]
    rfl
  have hnone : ∀ v ∈ ({} : Slice).parameters, Storable v := by simp [Slice.parameters]
  have hr := rows_of_sound h hnone
  rw [execute_snd, run_list hsession hsingle hslice, hr, ho, sortRows_nil]
  rfl

/-- `execute` of a query for all documents gives the rows that a condition without patterns selects,
if it is neither ordered nor cut. -/
theorem execute_plain {awaited : Bool} {q : Documents} {session : Session}
    (h : q.condition.MadeOf Condition.IsPlainTest) (hsession : q.session = some session)
    (hsingle : q.single = false) (ho : q.order = []) (hl : q.limit = .null) (hs : q.skip = .null) :
    (q.execute awaited).2 = .ok (.list
      (((session.database.rowsOf q.model.shape.table).filter fun row => q.condition.selects row).map
        (q.document session.database))) :=
  execute_sound (Condition.isSound_of_plain h _) hsession hsingle ho hl hs

/-- A query for all rows that meet a condition. -/
def whole (session : Session) (model : Model) (criteria : Value) (condition : Condition) :
    Documents :=
  { model, predicate := criteria, condition, single := false, session := some session }

theorem execute_whole {awaited : Bool} {session : Session} {model : Model} {criteria : Value}
    {a : Condition} (h : a.IsSound (session.database.rowsOf model.shape.table)) :
    ((whole session model criteria a).execute awaited).2
      = .ok ((whole session model criteria a).selected session.database) :=
  execute_sound h rfl rfl rfl rfl rfl

end Documents
end Store
end QueryOptions
