import QueryOptions.Proofs.GivenOptions
import QueryOptions.Proofs.Membership

/-!
# QueryOptions.Proofs.KeptOptions

Regular expressions in criteria. The database is handed a text, and of the options of an expression
only that on case goes with it. So it looks for what the source means without any other option
(`Regex.kept?`). Where no other option was given, or where the source brings all of them itself,
that is the expression: a row is selected just if its cell is a text in which the expression is
found. Otherwise it is another expression, or none, and then the database fails at the first cell
that is not null.

* `compile_patternOf_iff`: what the database makes of the text;
* `Regex.kept?_of_carried`, `Regex.eq_of_kept?`: when it is the expression;
* `Documents.execute_found_kept`, `Documents.execute_found_lost`: queries for an expression in a
  column.
-/

namespace QueryOptions
namespace Regex

/-- What the source of an expression means if it is read with no option but the one on case. -/
def kept? (r : Regex) : Option Regex :=
  (compile r.source { ignoreCase := r.flags.ignoreCase }).toOption

/-- Options of which nothing is lost: only that on case, and the alphabet that holds anyway. -/
def Flags.IsCarried (f : Flags) : Prop :=
  f = { ignoreCase := f.ignoreCase, unicode := f.unicode }

variable {source : String} {given : Flags} {r kept : Regex}

theorem kept?_eq_some_iff :
    r.kept? = some kept ↔
      compile r.source { ignoreCase := r.flags.ignoreCase } = .ok kept := by
  unfold kept?
  cases compile r.source { ignoreCase := r.flags.ignoreCase } <;> simp [Except.toOption]

theorem source_of_compile (h : compile source given = .ok r) : r.source = source :=
  (compile_ok_iff.mp h).1

theorem settled_union {final settled g : Flags} (h : final.settled = .ok settled)
    (hg : final.union g = final) : settled.union g = settled := by
  have hsettle : settled = final ∨ settled = { final with unicode := true } := by
    unfold Flags.settled at h
    split at h
    · exact .inr (Except.ok.inj h).symm
    · split at h
      · cases h
      · exact .inl (Except.ok.inj h).symm
  rcases hsettle with rfl | rfl
  · exact hg
  · obtain ⟨ignoreCase, multiline, dotAll, verbose, ascii, unicode, template⟩ := final
    simp only [Flags.union, Flags.mk.injEq] at hg ⊢
    obtain ⟨hi, hm, hs, hx, ha, -, ht⟩ := hg
    exact ⟨hi, hm, hs, hx, ha, Bool.true_or _, ht⟩

/-- The options that are given hold of the expression. -/
theorem given_hold (h : compile source given = .ok r) : r.flags.union given = r.flags := by
  obtain ⟨rfl, -, pieces, q, hpieces, -, hq⟩ := compile_ok_iff.mp h
  have hgiven : given.union q.flags = q.flags :=
    Reader.options_hold (p := startOf r.source given) rfl hpieces
  rw [Flags.union_comm] at hgiven
  exact settled_union hq.settled hgiven

/-- An expression is read with the option on case as it is without. -/
theorem compile_withCase (h : compile source given = .ok r) :
    compile source (Flags.union { given with unicode := false }
      { ignoreCase := r.flags.ignoreCase }) = .ok r := by
  have hcase : r.flags.union { ignoreCase := r.flags.ignoreCase } = r.flags := by
    simp [Flags.union]
  exact compile_brought (compile_alphabet h) hcase rfl

/-- If the source brings all options that the expression has, it means the expression. -/
theorem eq_of_kept? (h : compile source given = .ok r) (hkept : r.kept? = some kept)
    (hflags : kept.flags = r.flags) : kept = r := by
  obtain rfl := source_of_compile h
  have hgiven : kept.flags.union { given with unicode := false } = kept.flags := by
    rw [hflags]
    exact given_hold (compile_alphabet h)
  have hsame := compile_brought (kept?_eq_some_iff.mp hkept) hgiven rfl
  rw [Flags.union_comm, compile_withCase h] at hsame
  exact (Except.ok.inj hsame).symm

/-- If nothing is lost of the options that were given, the source means the expression. -/
theorem kept?_of_carried (h : compile source given = .ok r) (hgiven : given.IsCarried) :
    r.kept? = some r := by
  have hall := compile_withCase h
  have hcase : (r.flags.ignoreCase || given.ignoreCase) = r.flags.ignoreCase :=
    congrArg Flags.ignoreCase (given_hold h)
  have hunion : Flags.union { given with unicode := false } { ignoreCase := r.flags.ignoreCase }
      = { ignoreCase := r.flags.ignoreCase } := by
    rw [hgiven]
    simp only [Flags.union, Bool.or_false, Bool.or_comm given.ignoreCase, hcase]
  rw [hunion] at hall
  rw [kept?_eq_some_iff, source_of_compile h]
  exact hall

theorem with_source (h : compile source given = .ok r) : { r with source } = r := by
  rw [← source_of_compile h]

/-- What the database makes of the text that it is handed. -/
theorem compile_patternOf_iff {m : Regex} :
    compile (Store.patternOf r) {} = .ok m ↔
      ∃ kept, r.kept? = some kept ∧ m = { kept with source := Store.patternOf r } := by
  simp only [kept?_eq_some_iff]
  unfold Store.patternOf
  cases r.flags.ignoreCase with
  | false =>
    simp only [Bool.false_eq_true, if_false]
    constructor
    · intro h
      exact ⟨m, h, (with_source h).symm⟩
    · rintro ⟨kept, hkept, rfl⟩
      rw [with_source hkept]
      exact hkept
  | true =>
    simp only [if_true]
    constructor
    · intro h
      have hm := with_source h
      rw [← hm] at h
      exact ⟨_, compile_caseless_iff.mp h, hm.symm⟩
    · rintro ⟨kept, hkept, rfl⟩
      rw [← with_source hkept] at hkept
      exact compile_caseless_iff.mpr hkept

end Regex

namespace Store

/-- Whether an expression is found in a cell: in null and in numbers there is nothing to find. -/
def Cell.hasMatch (r : Regex) : Cell → Bool
  | .text s => r.search s
  | _ => false

namespace Condition

variable {r kept : Regex} {row : Row} {c : Column}

/-- The database looks for what the source means, and null is unknown to it. -/
theorem search?_of_kept? {cell : Cell} (hkept : r.kept? = some kept)
    (hcell : ∀ n, cell ≠ .integer n) :
    search? (patternOf r) cell =
      some (if cell.isNull then none else some (cell.hasMatch kept)) := by
  have hcompile := Regex.compile_patternOf_iff.mpr ⟨kept, hkept, rfl⟩
  cases cell with
  | null => rfl
  | integer n => exact absurd rfl (hcell n)
  | text s =>
    unfold search?
    rw [hcompile]
    rfl

theorem search?_of_not_kept? {cell : Cell} (hkept : r.kept? = none) (hcell : cell ≠ .null) :
    search? (patternOf r) cell = none := by
  cases cell with
  | null => exact absurd rfl hcell
  | integer n => rfl
  | text s =>
    unfold search?
    cases hcompile : Regex.compile (patternOf r) {} with
    | error e => rfl
    | ok m =>
      obtain ⟨kept, hsome, -⟩ := Regex.compile_patternOf_iff.mp hcompile
      rw [hkept] at hsome
      cases hsome

theorem selects_found (hkept : r.kept? = some kept) (hcell : ∀ n, row.cell c.name ≠ .integer n) :
    (found c (patternOf r)).selects row = (row.cell c.name).hasMatch kept := by
  show Truth.settle false ((search? (patternOf r) (row.cell c.name)).getD none) = _
  rw [search?_of_kept? hkept hcell]
  cases row.cell c.name <;> rfl

theorem fails_found (hkept : r.kept? = some kept) (hcell : ∀ n, row.cell c.name ≠ .integer n) :
    (found c (patternOf r)).fails row false = false := by
  show (search? (patternOf r) (row.cell c.name)).isNone = false
  rw [search?_of_kept? hkept hcell]
  rfl

end Condition

namespace Documents

variable {awaited : Bool} {session : Session} {model : Model} {key : String} {c : Column}
  {r kept : Regex}

/-- The documents of the rows in which an expression is found, in the order of the table. -/
def matching (q : Documents) (c : Column) (r : Regex) (db : Database) : Result :=
  .list (((db.rowsOf q.model.shape.table).filter fun row => (row.cell c.name).hasMatch r).map
    (q.document db))

theorem find_regex (hkey : Connective.ofKey? (.text key) = none)
    (hcolumn : model.shape.resolve? key = some c) :
    findWhere session model key (.regex r)
      = .ok (whole session model (.dict [(.text key, .regex r)]) (.found c (patternOf r))) :=
  find_single hkey hcolumn rfl

theorem execute_found_kept {criteria : Value} (hkept : r.kept? = some kept)
    (hcells : ∀ row ∈ session.database.rowsOf model.shape.table,
      ∀ n, row.cell c.name ≠ .integer n) :
    ((whole session model criteria (.found c (patternOf r))).execute awaited).2
      = .ok ((whole session model criteria (.found c (patternOf r))).matching c kept
          session.database) := by
  have hsound : (Condition.found c (patternOf r)).IsSound
      (session.database.rowsOf model.shape.table) := by
    refine ⟨rfl, fun v hv => ?_, fun row hrow => Condition.fails_found hkept (hcells row hrow)⟩
    obtain rfl := List.mem_singleton.mp hv
    exact ⟨_, rfl⟩
  rw [execute_whole hsound]
  unfold selected matching
  have hrows : (session.database.rowsOf model.shape.table).filter
        (fun row => (Condition.found c (patternOf r)).selects row)
      = (session.database.rowsOf model.shape.table).filter
        fun row => (row.cell c.name).hasMatch kept :=
    List.filter_congr fun row hrow => Condition.selects_found hkept (hcells row hrow)
  dsimp only [whole]
  rw [hrows]

theorem execute_found_lost {criteria : Value} (hkept : r.kept? = none)
    (hcells : ∃ row ∈ session.database.rowsOf model.shape.table, row.cell c.name ≠ .null) :
    ((whole session model criteria (.found c (patternOf r))).execute awaited).2
      = .error .databaseFailed := by
  obtain ⟨row, hrow, hcell⟩ := hcells
  have hfails : (Condition.found c (patternOf r)).fails row false = true := by
    show (Condition.search? (patternOf r) (row.cell c.name)).isNone = true
    rw [Condition.search?_of_not_kept? hkept hcell]
    rfl
  have hfilter : (Condition.found c (patternOf r)).filterRows
      (session.database.rowsOf model.shape.table) = .error .databaseFailed :=
    if_pos (List.any_eq_true.mpr ⟨row, hrow, hfails⟩)
  have hrows : (whole session model criteria (.found c (patternOf r))).rows {} session.database
      = .error .databaseFailed := by
    unfold Documents.rows
    dsimp only [whole]
    rw [hfilter]
    rfl
  have hslice : (whole session model criteria (.found c (patternOf r))).slice = .ok {} := rfl
  rw [execute_snd, run_list rfl rfl hslice, hrows]
  rfl

/-- A query for an expression in a column of texts. If the options of the expression other than that
on case are the source's own, the query gives the rows in which the expression is found, and none in
which the column is null. In any case it gives the rows in which the source is found without other
options than that on case; if they leave it without a meaning, it fails. -/
theorem find_expression {source : String} {given : Regex.Flags}
    (hr : Regex.compile source given = .ok r) (hkey : Connective.ofKey? (.text key) = none)
    (hcolumn : model.shape.resolve? key = some c)
    (hcells : ∀ row ∈ session.database.rowsOf model.shape.table,
      ∀ n, row.cell c.name ≠ .integer n) :
    ∃ q, findWhere session model key (.regex r) = .ok q ∧
      (given.IsCarried ∨ (∃ kept, r.kept? = some kept ∧ kept.flags = r.flags) →
        (q.execute awaited).2 = .ok (q.matching c r session.database)) ∧
      (∀ kept, r.kept? = some kept →
        (q.execute awaited).2 = .ok (q.matching c kept session.database)) ∧
      (r.kept? = none →
        (∃ row ∈ session.database.rowsOf model.shape.table, row.cell c.name ≠ .null) →
        (q.execute awaited).2 = .error .databaseFailed) := by
  refine ⟨_, find_regex hkey hcolumn, fun hall => ?_, fun kept hkept => ?_, fun hlost hcell => ?_⟩
  · have hkept : r.kept? = some r := by
      rcases hall with hgiven | ⟨kept, hkept, hflags⟩
      · exact Regex.kept?_of_carried hr hgiven
      · rw [Regex.eq_of_kept? hr hkept hflags] at hkept
        exact hkept
    exact execute_found_kept hkept hcells
  · exact execute_found_kept hkept hcells
  · exact execute_found_lost hlost hcell

def rowsOfNumbers (numbers : List Nat) : List Row :=
  numbers.map fun i => (Sample.persons.map Sample.Person.row)[i]!

/-- The rows of persons in whose name an expression is found. -/
def namedRows (r : Regex) : List Row :=
  (Sample.database.rowsOf "persons").filter fun row => (row.cell "name").hasMatch r

theorem matching_ofNumbers {q : Documents} {numbers : List Nat}
    (htable : q.model.shape.table = "persons") (h : namedRows r = rowsOfNumbers numbers) :
    q.matching ⟨"name", .text⟩ r Sample.database = q.ofNumbers numbers := by
  unfold namedRows at h
  unfold matching ofNumbers
  rw [htable, h]
  unfold rowsOfNumbers
  rw [List.map_map]
  rfl

/-- The names of persons are texts. -/
theorem names_textual :
    ∀ row ∈ Sample.session.database.rowsOf (Sample.personModel "Person").shape.table,
      ∀ n, row.cell "name" ≠ .integer n := by
  intro row hrow n
  obtain ⟨p, -, rfl⟩ := List.mem_map.mp hrow
  exact nofun

theorem exists_named {source : String} {given : Regex.Flags} {rows : List Row}
    (h : (Regex.compile source given).toOption.map namedRows = some rows) :
    ∃ r, Regex.compile source given = .ok r ∧ namedRows r = rows := by
  cases hr : Regex.compile source given with
  | error e =>
    rw [hr] at h
    cases h
  | ok r =>
    rw [hr] at h
    exact ⟨r, rfl, Option.some.inj h⟩

/-- Persons with a name of which a line begins so, in capitals or not. The source brings the option
on lines. -/
theorem adminOrBreak_found :
    ∃ r q, Regex.compile "(?m)^ADMIN|^BREAK" { ignoreCase := true } = .ok r ∧
      Connective.ofKey? (.text "name") = none ∧
      (Sample.personShape "Person").resolve? "name" = some ⟨"name", .text⟩ ∧
      ofPersons "name" (.regex r) = .ok q ∧
      (q.execute false).2 = .ok (q.ofNumbers [0, 1, 11, 13]) := by
  obtain ⟨r, hr, hrows⟩ : ∃ r, Regex.compile "(?m)^ADMIN|^BREAK" { ignoreCase := true } = .ok r ∧
      namedRows r = rowsOfNumbers [0, 1, 11, 13] := exists_named (by decide +kernel)
  obtain ⟨q, hq, hfound, -, -⟩ :=
    @find_expression false Sample.session (Sample.personModel "Person") "name" ⟨"name", .text⟩ r _ _
      hr rfl rfl names_textual
  refine ⟨r, q, hr, rfl, rfl, hq, (hfound (.inl rfl)).trans (congrArg _ ?_)⟩
  obtain rfl := Except.ok.inj (hq.symm.trans (find_regex rfl rfl))
  exact matching_ofNumbers rfl hrows

theorem exists_lost {source : String} {given : Regex.Flags} {text : String} {found : Bool}
    {numbers : List Nat}
    (h : ((Regex.compile source given).toOption.bind fun r =>
        r.kept?.map fun kept => (r.search text, namedRows kept))
      = some (found, rowsOfNumbers numbers)) :
    ∃ r q, Regex.compile source given = .ok r ∧ ofPersons "name" (.regex r) = .ok q ∧
      r.search text = found ∧ (q.execute false).2 = .ok (q.ofNumbers numbers) := by
  obtain ⟨r, hr, h⟩ := Option.bind_eq_some_iff.mp h
  obtain ⟨kept, hkept, h⟩ := Option.map_eq_some_iff.mp h
  obtain ⟨hfound, hrows⟩ := Prod.mk.inj h
  have hcompile : Regex.compile source given = .ok r := by
    cases hr' : Regex.compile source given <;> rw [hr'] at hr <;> cases hr
    rfl
  refine ⟨r, _, hcompile, find_regex rfl rfl, hfound, ?_⟩
  rw [execute_found_kept hkept names_textual]
  exact congrArg _ (matching_ofNumbers rfl hrows)

/-- Options that are given with an expression, and not by its source, are lost: persons are not
selected whose name has the expression in it, or are selected though theirs has not. -/
theorem givenOptions_lost :
    (∃ r q, Regex.compile "^break" { multiline := true } = .ok r ∧
      ofPersons "name" (.regex r) = .ok q ∧ r.search "line\nbreak" = true ∧
      (q.execute false).2 = .ok (q.ofNumbers [])) ∧
    (∃ r q, Regex.compile "line.break" { dotAll := true } = .ok r ∧
      ofPersons "name" (.regex r) = .ok q ∧ r.search "line\nbreak" = true ∧
      (q.execute false).2 = .ok (q.ofNumbers [])) ∧
    (∃ r q, Regex.compile "A d m i n $" { verbose := true } = .ok r ∧
      ofPersons "name" (.regex r) = .ok q ∧ r.search "Admin" = true ∧
      (q.execute false).2 = .ok (q.ofNumbers [])) ∧
    ∃ r q, Regex.compile "^\\w+$" { ascii := true } = .ok r ∧
      ofPersons "name" (.regex r) = .ok q ∧ r.search "\u00c9lodie" = false ∧
      (q.execute false).2 = .ok (q.ofNumbers [0, 1, 2, 3, 4, 5, 6, 7, 8, 9, 13]) := by
  refine ⟨exists_lost ?_, exists_lost ?_, exists_lost ?_, exists_lost ?_⟩
  all_goals decide +kernel

end Documents
end Store
end QueryOptions
