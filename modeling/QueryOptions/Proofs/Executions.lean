import QueryOptions.Proofs.Conduct
import QueryOptions.Proofs.LoadedColumns
import QueryOptions.Proofs.PageBound

/-!
# QueryOptions.Proofs.Executions

The ways to run a query on rows: for all documents, for the first one, as it was made, one document
after the other, and for a callback. They run the same selection of rows in the same order, and only
the limit tells them apart: the first document is asked for under the limit one, whatever limit the
query has. So it is the first of all documents, unless a limit other than zero counts for zero,
which leaves nothing of all documents and still leaves the first one.

A query for a single document gives one thing to whoever goes through it. That is the document, or
null if there is none (`nobody_goneThrough`).

* `rows_cutAt`: the rows under a limit are cut out of the rows without it;
* `first_eq_head`: the first document and all documents;
* `run_of_list`, `run_of_single`: a query as it was made;
* `executions_agree`: all ways to run a query that was made and configured.
-/

namespace QueryOptions

theorem Source.prepare_ok_iff {H R : Type} {source : Source H R} {opening : Opening}
    {steps : List Step} {handle : H} :
    (source.prepare opening steps).outcome = .ok handle ↔
      ∃ made, source.acquire opening = .ok made ∧
        (source.configureAll steps made).outcome = .ok handle := by
  unfold prepare
  cases source.acquire opening <;> simp

namespace Store

/-! ## Rows under a limit -/

namespace Slice

variable {α : Type}

/-- The rows that a limit leaves; none or a negative number leaves all of them. -/
def cutAt (limit : Option Int) (rows : List α) : List α :=
  match limit with
  | none => rows
  | some n => if n < 0 then rows else rows.take n.toNat

theorem take_eq_cutAt (s : Slice) (rows : List α) :
    s.take rows = cutAt s.limit (({ s with limit := none } : Slice).take rows) := rfl

/-- A limit other than zero leaves the first row. -/
theorem head?_cutAt {limit : Option Int} (h : limit ≠ some 0) (rows : List α) :
    (cutAt limit rows).head? = rows.head? := by
  cases limit with
  | none => rfl
  | some n =>
    have hn : n ≠ 0 := fun e => h (congrArg some e)
    unfold cutAt
    dsimp only
    split
    · rfl
    · have hpos : n.toNat ≠ 0 := by omega
      rw [List.head?_take, if_neg hpos]

end Slice

namespace Condition

theorem bindAll_append (vs ws : List Value) :
    bindAll (vs ++ ws) = (bindAll vs).bind fun _ => bindAll ws := by
  induction vs with
  | nil => rfl
  | cons v rest ih =>
    rw [List.cons_append, bindAll, bindAll]
    cases Datum.ofValue v with
    | error f => rfl
    | ok d => exact ih

end Condition

namespace Documents

/-- Whether a limit does not count for zero, unless it is none at all. -/
def IsLimit (count : Value) : Prop := countOf count ≠ .ok (some 0)

/-- Whole numbers are limits; zero is none at all. -/
theorem isLimit_int (n : Int) : IsLimit (.int n) := by
  intro h
  unfold countOf at h
  split at h
  · cases h
  · rename_i hn
    cases h
    exact hn rfl

variable {q : Documents} {slice : Slice} {db : Database}

/-- A limit that the database can hold only cuts the rows that it gives without one. -/
theorem rows_cutAt (h : Condition.bindAll (slice.limit.toList.map .int) = .ok ()) :
    q.rows slice db = (q.rows { slice with limit := none } db).map (Slice.cutAt slice.limit) := by
  have hbind : Condition.bindAll (q.condition.parameters ++ slice.parameters)
      = Condition.bindAll
          (q.condition.parameters ++ ({ slice with limit := none } : Slice).parameters) := by
    simp only [Slice.parameters, List.map_append, Condition.bindAll_append, h]
    rfl
  unfold rows
  rw [hbind]
  split
  · rfl
  · split
    · rfl
    · cases q.condition.filterRows (db.rowsOf q.model.shape.table) with
      | error f => rfl
      | ok selected => exact congrArg Except.ok (slice.take_eq_cutAt (sortRows q.order selected))

/-- The database gives no rows under a limit that it cannot hold. -/
theorem bindAll_limit {rows : List Row} (h : q.rows slice db = .ok rows) :
    Condition.bindAll (slice.limit.toList.map .int) = .ok () := by
  unfold Documents.rows at h
  split at h
  · cases h
  · split at h
    · cases h
    · rename_i hbind
      rw [Slice.parameters, List.map_append, Condition.bindAll_append] at hbind
      obtain ⟨_, -, hslice⟩ := bind_eq_ok_iff.mp hbind
      rw [Condition.bindAll_append] at hslice
      obtain ⟨_, hlimit, -⟩ := bind_eq_ok_iff.mp hslice
      exact hlimit

/-! ## All documents and the first one -/

theorem load_eq {session : Session} (hsession : q.session = some session) :
    q.load slice
      = (q.rows slice session.database).map fun rows => rows.map (q.document session.database) := by
  unfold load
  rw [hsession]

/-- The first document is the first of all documents, if these can be had. -/
theorem first_eq_head {session : Session} (hsession : q.session = some session)
    (hlimit : IsLimit q.limit) {documents : List Document} (h : q.all = .ok documents) :
    q.first = .ok documents.head? := by
  unfold all at h
  cases hslice : q.slice with
  | error f =>
    rw [hslice] at h
    cases h
  | ok slice =>
    rw [hslice] at h
    dsimp only at h
    rw [load_eq hsession] at h
    obtain ⟨rows, hrows, rfl⟩ := map_eq_ok_iff.mp h
    have hnotZero : slice.limit ≠ some 0 :=
      fun hn => hlimit ((limit_of_slice hslice).trans (congrArg Except.ok hn))
    have honeNotZero : some (1 : Int) ≠ some 0 := by decide
    -- both limits cut the same rows
    rw [rows_cutAt (bindAll_limit hrows)] at hrows
    obtain ⟨uncut, huncut, rfl⟩ := map_eq_ok_iff.mp hrows
    have hone : q.rows { slice with limit := some 1 } session.database
        = (q.rows { slice with limit := none } session.database).map (Slice.cutAt (some 1)) :=
      rows_cutAt rfl
    unfold first
    rw [hslice]
    dsimp only
    rw [load_eq hsession, hone, huncut]
    change Except.ok _ = Except.ok _
    rw [List.head?_map, List.head?_map, Slice.head?_cutAt honeNotZero, Slice.head?_cutAt hnotZero]

/-! ## As it was made -/

/-- A query for all documents that is run as it was made. -/
theorem run_of_list {session : Session} (hsession : q.session = some session)
    (hsingle : q.single = false) : q.run.2 = q.all.map .list := by
  unfold run all
  rw [hsession, hsingle]
  cases q.slice <;> rfl

/-- A query for a single document that is run as it was made. -/
theorem run_of_single {session : Session} (hsession : q.session = some session)
    (hsingle : q.single = true) : q.run.2 = q.first.map .single := by
  unfold run first
  rw [hsession, hsingle]
  cases q.slice <;> rfl

theorem items_snd (q : Documents) :
    q.items.2 = q.run.2.map fun
      | .list documents => documents.map some
      | .single document => [document] := rfl

/-- Runs a query as it was made and gives the outcome to a callback; no callback is null. -/
def exec (callback : Value) (q : Documents) : Act (Event Result) Unit (Option Result) :=
  (source q.session q.model).exec callback q

theorem exec_null (q : Documents) : (q.exec .null).outcome = q.run.2.map some :=
  congrArg (Except.map some) (execute_snd false q)

/-- A callback is told once what the query gives without one, or why it gives nothing. -/
theorem calls_exec (number : Nat) (raises : Bool) (q : Documents) :
    (q.exec (.callback number raises)).calls = [.executed, .told number q.run.2] := by
  unfold exec Act.calls
  rw [Source.exec_callback]
  change List.filter _ (.executed :: (q.execute true).1.map .notice
    ++ [Event.told number (q.execute true).2]) = _
  rw [execute_snd, List.filter_append, List.filter_cons, filter_notices]
  cases q.run.2 <;> rfl

/-! ## Made and configured -/

def limitAfter (old : Value) : Step → Value
  | .limit count => count
  | _ => old

/-- The limit that steps come to: the last one of them, and none at all without any. -/
def lastLimit (steps : List Step) : Value := steps.foldl limitAfter .null

theorem take_limit {s : Step} {d : Documents} (h : q.take s = .ok d) :
    d.limit = limitAfter q.limit s := by
  cases s with
  | select projection =>
    obtain ⟨-, rfl⟩ := select_eq_ok_iff.mp h
    rfl
  | populate relation fields =>
    obtain ⟨-, -, -, rfl⟩ := populate_eq_ok_iff.mp h
    rfl
  | sort spec =>
    simp only [take, sort] at h
    split at h
    · cases h
    · cases h
      rfl
  | limit count | skip count =>
    cases h
    rfl

variable {session : Option Session} {model : Model} {opening : Opening} {steps : List Step}

theorem configureAll_limit {d : Documents}
    (h : ((source session model).configureAll steps q).outcome = .ok d) :
    d.limit = steps.foldl limitAfter q.limit := by
  induction steps generalizing q with
  | nil =>
    cases h
    rfl
  | cons s rest ih =>
    obtain ⟨next, hnext, hrest⟩ := Source.configureAll_cons.mp h
    rw [ih hrest, take_limit hnext, List.foldl_cons]

theorem limit_of_prepare
    (h : ((source session model).prepare opening steps).outcome = .ok q) :
    q.limit = lastLimit steps := by
  obtain ⟨made, hmade, hconfigured⟩ := Source.prepare_ok_iff.mp h
  rw [configureAll_limit hconfigured]
  cases opening with
  | find predicate | findOne predicate =>
    obtain ⟨_, -, rfl⟩ := find_eq_ok hmade
    rfl

/-- `prepare` keeps what the opening asks for: one document, or all of them. -/
theorem single_of_prepare
    (h : ((source session model).prepare opening steps).outcome = .ok q) :
    q.session = session ∧
      match opening with
      | .find _ => q.single = false
      | .findOne _ => q.single = true := by
  obtain ⟨made, hmade, hconfigured⟩ := Source.prepare_ok_iff.mp h
  have hsame := configureAll_sameRows hconfigured
  rw [hsame.session, hsame.single]
  cases opening with
  | find predicate | findOne predicate =>
    obtain ⟨_, -, rfl⟩ := find_eq_ok hmade
    exact ⟨rfl, rfl⟩

/-- All ways to run a query that was made and configured in a session. Under a limit as it should be
the first document is the first of all. A query for all documents gives them, to whoever goes
through it too; a query for a single one gives the first one, and gives it as the only thing to go
through, even if it is null. A callback is told once what the query gives without one, or why it
fails. -/
theorem executions_agree {session : Session}
    (h : ((source (some session) model).prepare opening steps).outcome = .ok q) :
    (IsLimit (lastLimit steps) →
        ∀ documents, q.all = .ok documents → q.first = .ok documents.head?) ∧
      ∃ outcome : Except Fault Result,
        (q.exec .null).outcome = outcome.map some ∧
        (match opening with
          | .find _ => outcome = q.all.map .list ∧ q.items.2 = q.all.map (List.map some)
          | .findOne _ => outcome = q.first.map .single ∧
              q.items.2 = q.first.map fun document => [document]) ∧
        ∀ (number : Nat) (raises : Bool),
          (q.exec (.callback number raises)).calls = [.executed, .told number outcome] := by
  obtain ⟨hsession, hsingle⟩ := single_of_prepare h
  have hlimit := limit_of_prepare h
  refine ⟨fun hl _ => first_eq_head hsession (hlimit ▸ hl), q.run.2, exec_null q, ?_,
    fun number raises => calls_exec number raises q⟩
  cases opening with
  | find predicate =>
    have hrun := run_of_list hsession hsingle
    refine ⟨hrun, ?_⟩
    rw [items_snd, hrun]
    cases q.all <;> rfl
  | findOne predicate =>
    have hrun := run_of_single hsession hsingle
    refine ⟨hrun, ?_⟩
    rw [items_snd, hrun]
    cases q.first <;> rfl

/-- The second to the fourth of the active persons, by level and name. -/
def activePage : List Step :=
  [.select "_id name", .sort [("level", -1), ("name", 1)], .limit (.int 3), .skip (.int 1)]

theorem activePage_executions :
    ∃ q documents,
      ((source (some Sample.session) (Sample.personModel "Person")).prepare
        (.find (some (.dict [(.text "active", .bool true)]))) activePage).outcome = .ok q ∧
      q.all = .ok documents ∧ documents.length = 3 ∧ q.first = .ok documents.head? ∧
      (q.exec .null).outcome = .ok (some (.list documents)) ∧
      q.items.2 = .ok (documents.map some) ∧
      (q.exec (.callback 1 true)).calls =
        [.executed, .answered 1 none (some (.list documents))] := by
  have hlimit : IsLimit (lastLimit activePage) := isLimit_int 3
  have hagree {q : Documents} {documents : List Document}
      (h : ((source (some Sample.session) (Sample.personModel "Person")).prepare
        (.find (some (.dict [(.text "active", .bool true)]))) activePage).outcome = .ok q)
      (hall : q.all = .ok documents) :
      q.first = .ok documents.head? ∧ (q.exec .null).outcome = .ok (some (.list documents)) ∧
        q.items.2 = .ok (documents.map some) ∧
        (q.exec (.callback 1 true)).calls
          = [.executed, .answered 1 none (some (.list documents))] := by
    obtain ⟨hfirst, outcome, hexec, ⟨rfl, hitems⟩, hcalls⟩ := executions_agree h
    rw [hexec, hitems, hcalls, hall]
    exact ⟨hfirst hlimit documents hall, rfl, rfl, rfl⟩
  exact ⟨_, _, rfl, rfl, rfl, hagree rfl rfl⟩

/-- There is no document, but whoever goes through the query is given something. -/
theorem nobody_goneThrough :
    ∃ q, ((source (some Sample.session) (Sample.personModel "Person")).prepare
        (.findOne (.dict [(.text "name", .text "Nobody")])) []).outcome = .ok q ∧
      q.first = .ok none ∧ q.items.2 = .ok [none] ∧
      q.items.2 ≠ q.first.map fun document => document.toList.map some := by
  have hdiffer : (.ok [none] : Except Fault (List (Option Document))) ≠ .ok [] := by
    intro h
    cases h
  exact ⟨_, rfl, rfl, rfl, hdiffer⟩

end Documents
end Store
end QueryOptions
