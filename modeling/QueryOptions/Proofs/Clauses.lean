import Mathlib.Data.List.Forall2
import QueryOptions.Proofs.ColumnCriteria
import QueryOptions.Proofs.Entries
import QueryOptions.Section.Filters

/-!
# QueryOptions.Proofs.Clauses

Clauses as tests of single rows. A clause compares one column with values of its own type
(`Clause.isPlain`), and a row passes it or not (`Clause.holds`), without any criteria in between.

Each clause adds one entry to the criteria (`Clause.Gives`). Clauses are `Scannable` if none of them
replaces the entry of another one.

* `readClauses_plain`: clauses are read as they stand;
* `contribute_of_nodup`: the criteria have one entry for each clause, in the order of the clauses;
* `Scannable.nodup_slots`: the keys of these entries differ.
-/

namespace QueryOptions
namespace Store

/-! ## Clauses and rows -/

/-- A clause with a built-in operator. -/
structure Clause where
  key : String
  operator : Operator
  value : Value

/-- Whether a cell that is not null suits an operator and its value. -/
def Cell.suits (kind : ColumnKind) (a : Cell) (o : Operator) (v : Value) : Bool :=
  let is (comparison : Comparison) (w : Value) : Bool := (kind.cell? w).any (a.compares comparison)
  let isListed : Bool := a.isAmong kind (v.array?.getD [])
  match o, v.array? with
  | .equal, _ => is .equal v
  | .unequal, _ => !is .equal v
  | .less, _ => is .less v
  | .atMost, _ => is .atMost v
  | .greater, _ => is .greater v
  | .atLeast, _ => is .atLeast v
  | .within, _ => isListed
  | .without, _ => !isListed
  | .between, some [low, high] => is .atLeast low && is .atMost high
  | .outside, some [low, high] => is .less low || is .greater high
  | _, _ => false

def isOwn (kind : ColumnKind) (o : Operator) (v : Value) : Bool :=
  if o.takesArray || o.takesRange then
    v.array?.any fun items => items.all fun item => (kind.cell? item).isSome
  else (kind.cell? v).isSome

namespace Clause

/-- The clause that a mapping gives. -/
def ofValue? : Value → Option Clause
  | .dict entries =>
    match Dict.get? entries (.text "key"), Dict.get? entries (.text "operator") with
    | some (.text key), some (.text token) =>
      (Operator.ofToken? token).map fun o => ⟨key, o, Dict.get entries "value"⟩
    | _, _ => none
  | _ => none

def toValue (e : Clause) : Value :=
  .dict [(.text "key", .text e.key), (.text "operator", .text e.operator.token),
    (.text "value", e.value)]

/-- Whether a clause looks for no pattern and compares a column with values of its own type. -/
def isPlain (shape : Shape) (e : Clause) : Bool :=
  !e.operator.takesPattern && (Connective.ofKey? (.text e.key)).isNone &&
    (shape.resolve? e.key).any fun c => isOwn c.kind e.operator e.value

/-- Whether a row passes a clause. Null passes no clause but those that ask for a column not to be a
value, or not to be among several. -/
def holds (shape : Shape) (row : Row) (e : Clause) : Bool :=
  match shape.resolve? e.key with
  | some c =>
    if (row.cell c.name).isNull then e.operator == .unequal || e.operator == .without
    else (row.cell c.name).suits c.kind e.operator e.value
  | none => false

def expression (e : Clause) : Expression :=
  if e.operator = .outside then .disjunction (.text e.key) e.value
  else .field (.text e.key) e.operator e.value

def slot (e : Clause) : String := if e.operator = .outside then "$or" else e.key

/-- The entry that a clause adds to the criteria. -/
inductive Gives (e : Clause) : Value × Value → Prop where
  | field {v : Value} :
      e.operator ≠ .outside → e.operator.criterion e.value = .ok v → Gives e (.text e.key, v)
  | choice {low high : Value} :
      e.operator = .outside → e.value.array? = some [low, high] →
      Gives e (.text "$or", .list
        [.dict [(.text e.key, single "$lt" low)], .dict [(.text e.key, single "$gt" high)]])

end Clause

/-- Clauses none of which replaces the criteria of another one: keys differ, but for those of
choices, of which there is one at most. -/
structure Scannable (shape : Shape) (clauses : List Clause) : Prop where
  plain : ∀ e ∈ clauses, e.isPlain shape = true
  keys : ((clauses.filter fun e => e.operator != .outside).map Clause.key).Nodup
  choices : clauses.countP (fun e => e.operator == .outside) ≤ 1

/-! ## Reading -/

theorem Clause.ofValue?_toValue (e : Clause) : ofValue? e.toValue = some e := by
  obtain ⟨key, o, v⟩ := e
  cases o <;> rfl

theorem Clause.map_ofValue?_toValue (clauses : List Clause) :
    (clauses.map toValue).map ofValue? = clauses.map some := by
  rw [List.map_map]
  exact List.map_congr_left fun e _ => e.ofValue?_toValue

theorem get?_operators {operators : Dict} {token : String} {o : Operator}
    (hs : Filters.shadowed operators = []) (ho : Operator.ofToken? token = some o) :
    Dict.get? operators (.text token) = none := by
  refine Dict.get?_eq_none fun k hk he => ?_
  have hm : token ∈ Filters.shadowed operators := by
    refine List.mem_filter.mpr ⟨List.mem_filterMap.mpr ⟨k, hk, ?_⟩, ?_⟩
    · rw [he]; rfl
    · rw [ho]; rfl
  rw [hs] at hm
  cases hm

theorem read_plain {library : Library} {operators : Dict} {key token : String} {o : Operator}
    {v : Value} {x : Expression} (hs : Filters.shadowed operators = [])
    (ho : Operator.ofToken? token = some o) (hp : o.takesPattern = false)
    (h : Expression.read library operators (.text key) (.text token) v = .ok x) :
    x = Clause.expression ⟨key, o, v⟩ := by
  unfold Expression.read at h
  simp only [Value.isKey, Bool.not_true, Bool.false_eq_true, if_false, get?_operators hs ho,
    Value.text?, Option.bind_some, ho] at h
  split at h
  · cases h
  · unfold Clause.expression
    split at h
    · rename_i ho
      cases h
      rw [if_pos ho]
    · rename_i ho
      rw [hp] at h
      cases h
      rw [if_neg ho]

theorem readClause_plain {settings : FilterSettings} {v : Value} {e : Clause} {x : Expression}
    (hs : Filters.shadowed settings.operators = []) (he : Clause.ofValue? v = some e)
    (hp : e.operator.takesPattern = false) (h : Filters.readClause settings v = .ok x) :
    x = e.expression := by
  unfold Clause.ofValue? at he
  unfold Filters.readClause at h
  split at he
  · rename_i entries
    split at he
    · rename_i key token hk ht
      obtain ⟨o, ho, rfl⟩ := Option.map_eq_some_iff.mp he
      simp only [hk, ht] at h
      exact read_plain hs ho hp h
    · cases he
  · cases he

theorem readClauses_plain {settings : FilterSettings} {values : List Value} {clauses : List Clause}
    {es : List Expression} (hs : Filters.shadowed settings.operators = [])
    (hv : values.map Clause.ofValue? = clauses.map some)
    (hp : ∀ e ∈ clauses, e.operator.takesPattern = false)
    (h : Filters.readClauses settings values = .ok es) : es = clauses.map Clause.expression := by
  induction values generalizing clauses es with
  | nil =>
    cases clauses with
    | nil => cases h; rfl
    | cons e rest => cases hv
  | cons v values ih =>
    cases clauses with
    | nil => cases hv
    | cons e clauses =>
      simp only [List.map_cons, List.cons.injEq] at hv
      simp only [Filters.readClauses] at h
      split at h
      · cases h
      · rename_i x hx
        split at h
        · cases h
        · rename_i more hm
          cases h
          rw [List.map_cons, readClause_plain hs hv.1 (hp e (by simp)) hx,
            ih hv.2 (fun e he => hp e (List.mem_cons_of_mem _ he)) hm]

/-! ## Criteria -/

namespace Clause

theorem Gives.key {e : Clause} {entry : Value × Value} (h : e.Gives entry) :
    entry.1 = .text e.slot := by
  unfold slot
  cases h with
  | field ho _ => rw [if_neg ho]
  | choice ho _ => rw [if_pos ho]

theorem gives_of_criteria {library : Library} {e : Clause} {more : Dict}
    (h : e.expression.criteria library = .ok more) : ∃ entry, more = [entry] ∧ e.Gives entry := by
  unfold expression at h
  by_cases ho : e.operator = .outside
  · rw [if_pos ho] at h
    simp only [Expression.criteria] at h
    split at h
    · rename_i low high ha
      cases h
      exact ⟨_, rfl, .choice ho ha⟩
    · cases h
  · rw [if_neg ho] at h
    simp only [Expression.criteria] at h
    split at h
    · cases h
    · rename_i v hv
      cases h
      exact ⟨_, rfl, .field ho hv⟩

end Clause

theorem put_of_absent {entries : Dict} {s : String} (h : ∀ k ∈ entries.keys, k ≠ .text s)
    (v : Value) : Dict.put entries (.text s) v = entries ++ [(.text s, v)] := by
  induction entries with
  | nil => rfl
  | cons entry rest ih =>
    obtain ⟨k, w⟩ := entry
    have hk : k.same (.text s) = false := Value.same_text_eq_false (h k (by simp [Dict.keys]))
    rw [Dict.put, if_neg (by simp [hk]), ih fun k hm => h k (List.mem_cons_of_mem _ hm)]
    rfl

/-- Clauses whose keys in the criteria differ add their entries one after the other. -/
theorem contribute_of_nodup {library : Library} {clauses : List Clause} {acc criteria : Dict}
    (hn : (clauses.map Clause.slot).Nodup)
    (hacc : ∀ k ∈ acc.keys, ∀ e ∈ clauses, k ≠ .text e.slot)
    (h : Filters.contribute library acc (clauses.map Clause.expression) = .ok criteria) :
    ∃ entries, List.Forall₂ Clause.Gives clauses entries ∧ criteria = acc ++ entries := by
  induction clauses generalizing acc with
  | nil =>
    cases h
    exact ⟨[], .nil, (List.append_nil _).symm⟩
  | cons e rest ih =>
    simp only [List.map_cons, Filters.contribute] at h
    split at h
    · cases h
    · rename_i more hm
      obtain ⟨entry, rfl, hg⟩ := Clause.gives_of_criteria hm
      obtain ⟨hslot, hrest⟩ := List.nodup_cons.mp hn
      have hput : Dict.merge acc [entry] = acc ++ [entry] := by
        have hk : ∀ k ∈ acc.keys, k ≠ .text e.slot := fun k hk => hacc k hk e (by simp)
        show Dict.put acc entry.1 entry.2 = acc ++ [entry]
        rw [hg.key, put_of_absent hk, ← hg.key]
      have hfresh : ∀ k ∈ Dict.keys (acc ++ [entry]), ∀ f ∈ rest, k ≠ .text f.slot := by
        intro k hk f hf
        rw [Dict.keys, List.map_append, List.mem_append] at hk
        rcases hk with hk | hk
        · exact hacc k hk f (List.mem_cons_of_mem _ hf)
        · rw [List.mem_singleton.mp hk, hg.key]
          intro heq
          injection heq with heq
          exact hslot (heq ▸ List.mem_map_of_mem hf)
      rw [hput] at h
      obtain ⟨entries, hf, rfl⟩ := ih hrest hfresh h
      exact ⟨entry :: entries, .cons hg hf, by simp⟩

theorem Clause.key_ne_or {shape : Shape} {e : Clause} (h : e.isPlain shape = true) :
    e.key ≠ "$or" := by
  intro he
  simp [isPlain, he, Connective.ofKey?, Connective.token] at h

theorem Scannable.tail {shape : Shape} {e : Clause} {rest : List Clause}
    (h : Scannable shape (e :: rest)) : Scannable shape rest := by
  refine ⟨fun f hf => h.plain f (List.mem_cons_of_mem _ hf), ?_, ?_⟩
  · have hk := h.keys
    rw [List.filter_cons] at hk
    split at hk
    · exact (List.nodup_cons.mp hk).2
    · exact hk
  · have hc := h.choices
    rw [List.countP_cons] at hc
    omega

theorem Scannable.nodup_slots {shape : Shape} {clauses : List Clause}
    (h : Scannable shape clauses) : (clauses.map Clause.slot).Nodup := by
  induction clauses with
  | nil => exact List.nodup_nil
  | cons e rest ih =>
    refine List.nodup_cons.mpr ⟨fun hm => ?_, ih h.tail⟩
    obtain ⟨f, hf, hs⟩ := List.mem_map.mp hm
    unfold Clause.slot at hs
    split at hs
    · rename_i hfo
      split at hs
      · -- two choices would share their key
        rename_i heo
        have hc := h.choices
        have : 0 < rest.countP (fun e => e.operator == .outside) :=
          List.countP_pos_iff.mpr ⟨f, hf, by simp [hfo]⟩
        rw [List.countP_cons, if_pos (by simp [heo])] at hc
        omega
      · exact Clause.key_ne_or (h.plain e (by simp)) hs.symm
    · rename_i hfo
      split at hs
      · exact Clause.key_ne_or (h.plain f (List.mem_cons_of_mem _ hf)) hs
      · rename_i heo
        have hk := h.keys
        rw [List.filter_cons, if_pos (by simpa using heo)] at hk
        refine (List.nodup_cons.mp hk).1 (List.mem_map.mpr ⟨f, ?_, hs⟩)
        exact List.mem_filter.mpr ⟨hf, by simpa using hfo⟩

end Store
end QueryOptions
