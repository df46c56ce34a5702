import QueryOptions.Proofs.Contraries
import QueryOptions.Proofs.Contributions

/-!
# QueryOptions.Proofs.AddedOperators

Operators that settings add to the built-in ones. They are looked up first and their values are not
checked, but none of them goes by the name of a built-in operator. So clauses that are accepted
without them are read as before and come to the same criteria, or fail in the same way; and an
operator is unsupported only if it is neither built in nor among those that were added
(`new_conservative`).

* `Expression.read_of_absent`: an operator that was not added;
* `readClauses_extended`: clauses that are read without added operators;
* `readClause_unsupported_iff`, `give_unsupported`: the clauses whose operator is unsupported.
-/

namespace QueryOptions

namespace Expression

variable {library other : Library} {operators : Dict} {key operator v : Value} {e : Expression}

/-- Only the operator of a clause is looked up among the added ones. -/
theorem read_of_absent (h : operators.get? operator = none) :
    read library operators key operator v = read library [] key operator v := by
  unfold read
  rw [h]
  rfl

theorem read_extended (hs : Filters.shadowed operators = [])
    (h : read other [] key operator v = .ok e) : read library operators key operator v = .ok e := by
  obtain ⟨-, o, ho, -, -⟩ := read_ok h
  obtain rfl := Filters.token_of_ofToken? ho
  rw [read_of_absent (Store.get?_operators hs o.ofToken?_token), read_library library other]
  exact h

end Expression

namespace Filters

variable {library other : Library} {settings : FilterSettings} {v : Value}

/-! ## Clauses without added operators -/

theorem readClause_extended {e : Expression} (hs : shadowed settings.operators = [])
    (h : readClause ⟨other, []⟩ v = .ok e) : readClause settings v = .ok e := by
  unfold readClause at h ⊢
  split at h
  · split at h
    · exact Expression.read_extended hs h
    · cases h
  · cases h

theorem readClauses_extended {values : List Value} {es : List Expression}
    (hs : shadowed settings.operators = []) (h : readClauses ⟨other, []⟩ values = .ok es) :
    readClauses settings values = .ok es := by
  induction values generalizing es with
  | nil => exact h
  | cons v rest ih =>
    simp only [readClauses] at h ⊢
    split at h
    · cases h
    · rename_i e he
      split at h
      · cases h
      · rename_i more hmore
        rw [readClause_extended hs he, ih hmore]
        exact h

theorem read_extended {es : List Expression} (hs : shadowed settings.operators = [])
    (h : read ⟨other, []⟩ v = .ok es) : read settings v = .ok es := by
  unfold read at h ⊢
  split
  · rename_i hfalsy
    rwa [if_pos hfalsy] at h
  · rename_i hfalsy
    rw [if_neg hfalsy] at h
    split at h
    · cases h
    · exact readClauses_extended hs h

/-- Without added operators the library is not asked. -/
theorem contribute_of_read_plain {es : List Expression} (h : read ⟨other, []⟩ v = .ok es)
    (library : Library) (acc : Dict) : contribute library acc es = contribute other acc es := by
  refine contribute_library fun e he => ?_
  obtain ⟨clause, hclause⟩ := mem_read h e he
  obtain ⟨key, operator, w, hread⟩ := read_of_readClause hclause
  exact Expression.criteria_library hread library

/-! ## Unsupported operators -/

/-- A clause asks for an operator that is neither added nor built in. -/
structure IsUnsupported (added : Dict) (key operator : Value) (clause : Dict) : Prop where
  hasKey : clause.get? (.text "key") = some key
  hasOperator : clause.get? (.text "operator") = some operator
  notAdded : added.get? operator = none
  notBuiltIn : ∀ o : Operator, operator ≠ .text o.token

theorem ofToken?_eq_none_iff {operator : Value} :
    operator.text?.bind Operator.ofToken? = none ↔ ∀ o : Operator, operator ≠ .text o.token := by
  constructor
  · rintro h o rfl
    rw [Value.text?, Option.bind_some, o.ofToken?_token] at h
    cases h
  · intro h
    cases ho : operator.text?.bind Operator.ofToken? with
    | none => rfl
    | some o => exact absurd (token_of_ofToken? ho) (h o)

/-- Patterns that cannot be compiled have nothing to do with operators. -/
theorem compilePattern_supported {source : String} {given operator key : Value} :
    compilePattern source given ≠ .error (.unsupportedOperator operator key) := by
  unfold compilePattern
  split <;> nofun

theorem criteria_supported {o : Operator} {key w operator k : Value} (ho : o.takesPattern = true) :
    (Expression.field key o w).criteria library ≠ .error (.unsupportedOperator operator k) := by
  intro h
  simp only [Expression.criteria] at h
  split at h
  · rename_i f hf
    cases h
    cases hw : w.text? with
    | none =>
      rw [Operator.criterion_other ho hw] at hf
      cases hf
    | some pattern =>
      obtain rfl : w = .text pattern := by
        cases w <;> cases hw
        rfl
      rw [Operator.criterion_text ho] at hf
      exact compilePattern_supported hf
  · cases Expression.keyed_error h

theorem check_supported {o : Operator} {key w operator k : Value} :
    o.check key w ≠ .error (.unsupportedOperator operator k) := by
  intro h
  unfold Operator.check at h
  split at h
  · split at h <;> cases h
  · split at h
    · split at h <;> cases h
    · split at h
      · split at h <;> cases h
      · cases h

theorem read_unsupported_iff {operators : Dict} {key operator w op k : Value} :
    Expression.read library operators key operator w = .error (.unsupportedOperator op k) ↔
      op = operator ∧ k = key ∧ operator.isKey = true ∧ operators.get? operator = none ∧
        ∀ o : Operator, operator ≠ .text o.token := by
  unfold Expression.read
  cases hkey : operator.isKey with
  | false => simp
  | true =>
    simp only [Bool.not_true, Bool.false_eq_true, if_false]
    cases hadded : operators.get? operator with
    | some function => simp
    | none =>
      cases ho : operator.text?.bind Operator.ofToken? with
      | none => simp [ofToken?_eq_none_iff.mp ho, eq_comm]
      | some o =>
        have hbuiltIn := token_of_ofToken? ho
        refine iff_of_false (fun h => ?_) fun h => h.2.2.2.2 o hbuiltIn
        dsimp only at h
        split at h
        · rename_i f hf
          cases h
          exact check_supported hf
        · split at h
          · cases h
          · split at h
            · rename_i hpattern
              cases hc : (Expression.field key o w).criteria library with
              | error f =>
                rw [hc] at h
                cases h
                exact criteria_supported hpattern hc
              | ok d =>
                rw [hc] at h
                cases h
            · cases h

theorem readClause_unsupported_iff {key operator : Value} :
    readClause settings v = .error (.unsupportedOperator operator key) ↔
      operator.isKey = true ∧
        ∃ clause, v = .dict clause ∧ IsUnsupported settings.operators key operator clause := by
  unfold readClause
  split
  · rename_i clause
    split
    · rename_i k op hk hop
      rw [read_unsupported_iff]
      constructor
      · rintro ⟨rfl, rfl, hkey, hadded, hbuiltIn⟩
        exact ⟨hkey, clause, rfl, hk, hop, hadded, hbuiltIn⟩
      · rintro ⟨hkey, _, heq, h⟩
        cases heq
        cases hk.symm.trans h.hasKey
        cases hop.symm.trans h.hasOperator
        exact ⟨rfl, rfl, hkey, h.notAdded, h.notBuiltIn⟩
    · rename_i hparts
      refine iff_of_false (fun h => by cases h) ?_
      rintro ⟨-, _, heq, h⟩
      cases heq
      exact hparts key operator h.hasKey h.hasOperator
  · rename_i hshape
    refine iff_of_false (fun h => by cases h) ?_
    rintro ⟨-, clause, rfl, -⟩
    exact hshape clause rfl

theorem readClauses_error {values : List Value} {f : Fault}
    (h : readClauses settings values = .error f) :
    ∃ clause ∈ values, readClause settings clause = .error f := by
  induction values with
  | nil => cases h
  | cons v rest ih =>
    simp only [readClauses] at h
    split at h
    · rename_i g hg
      cases h
      exact ⟨v, List.mem_cons_self, hg⟩
    · split at h
      · rename_i g hg
        cases h
        obtain ⟨clause, hclause, hf⟩ := ih hg
        exact ⟨clause, List.mem_cons_of_mem v hclause, hf⟩
      · cases h

/-! ## Inputs -/

theorem mapping_of_new {operators : Value} {s : Filters} (h : new library operators = .ok s) :
    Dict.ofValue (operators.orElse (.dict [])) = .ok s.settings.operators := by
  unfold new at h
  split at h
  · cases h
  · rename_i entries hentries
    split at h
    · cases h
      exact hentries
    · cases h

/-- A section that has not been given anything refuses an operator only for a clause with it. -/
theorem give_unsupported {s : Filters} {key operator : Value} (hs : s.received = none)
    (h : (s.give v).2 = .error (.unsupportedOperator operator key)) :
    ∃ clause, .dict clause ∈ clausesOf v ∧
      IsUnsupported s.settings.operators key operator clause := by
  have hread : read s.settings v = .error (.unsupportedOperator operator key) := by
    rw [give, Section.receive_outcome hs] at h
    cases hr : read s.settings v with
    | ok es =>
      rw [hr] at h
      cases h
    | error f =>
      rw [hr] at h
      cases h
      rfl
  unfold read at hread
  split at hread
  · cases hread
  · split at hread
    · cases hread
    · rename_i clauses harray
      obtain ⟨_, hmem, hclause⟩ := readClauses_error hread
      obtain ⟨-, clause, rfl, hunsupported⟩ := readClause_unsupported_iff.mp hclause
      refine ⟨clause, ?_, hunsupported⟩
      rw [clausesOf, harray]
      exact hmem

/-- Whatever operators are added, clauses that are accepted without them are accepted, and come to
the same criteria or fail in the same way. A clause is refused for its operator only if the operator
is neither among the added ones nor built in. -/
theorem new_conservative {operators : Value} {s plain : Filters}
    (hs : new library operators = .ok s) (hplain : new other .null = .ok plain) :
    (∀ v, (plain.give v).2 = .ok () →
      (s.give v).2 = .ok () ∧ (s.give v).1.expressions = (plain.give v).1.expressions ∧
        (s.give v).1.compile = (plain.give v).1.compile) ∧
    ∃ added, Dict.ofValue (operators.orElse (.dict [])) = .ok added ∧
      ∀ v key operator, (s.give v).2 = .error (.unsupportedOperator operator key) →
        ∃ clause, .dict clause ∈ clausesOf v ∧ IsUnsupported added key operator clause := by
  obtain ⟨rfl, hnew⟩ := parts_of_new hs
  cases hplain
  refine ⟨fun v hgiven => ?_, _, mapping_of_new hs, fun v key operator => give_unsupported hnew⟩
  obtain ⟨es, hread, hstate⟩ := Section.receive_ofExcept_ok hgiven
  have hextended := read_extended (Query.shadowed_of_newFilters hs) hread
  have hs' : s.give v = (s.filled v (some es), .ok ()) := by
    rw [give, Section.receive_ofExcept hnew, hextended]
  have hplain' : (give v { settings := ⟨other, []⟩ }).1
      = Section.filled { settings := ⟨other, []⟩ } v (some es) := hstate
  rw [hs', hplain']
  exact ⟨rfl, rfl, contribute_of_read_plain hread _ []⟩

/-- Clauses with a pattern, a choice and a number as a key. -/
def builtInClauses : List Value :=
  [clauseOf "name" "!~" "^a", clauseOf "age" "not between" (.tuple [.int 3, .int 5]),
    clauseOf (.int 1) "in" (.list [.null])]

/-- A clause with an added operator stands before one with an unsupported operator. -/
def unsupportedClauses : List Value :=
  [clauseOf "name" "raw" (.int 3), clauseOf "age" "like" "a"]

theorem rawFilters_conservative :
    new Sample.library (.dict [("raw", .function "raw")]) = .ok rawFilters ∧
    ∃ plain, new Sample.library .null = .ok plain ∧
      (plain.give (.list builtInClauses)).2 = .ok () ∧
      (rawFilters.give (.list builtInClauses)).2 = .ok () ∧
      (rawFilters.give (.list builtInClauses)).1.compile
        = (plain.give (.list builtInClauses)).1.compile ∧
      (rawFilters.give (.list unsupportedClauses)).2 = .error (.unsupportedOperator "like" "age") ∧
      ∃ clause, .dict clause ∈ unsupportedClauses ∧
        IsUnsupported [("raw", .function "raw")] "age" "like" clause := by
  have hraw : new Sample.library (.dict [("raw", .function "raw")]) = .ok rawFilters := rfl
  have hplain : new Sample.library .null = .ok { settings := ⟨Sample.library, []⟩ } := rfl
  obtain ⟨hextended, added, hadded, hunsupported⟩ := new_conservative hraw hplain
  cases hadded
  obtain ⟨⟨⟩, hgiven⟩ : ∃ u : Unit,
      (give (.list builtInClauses) { settings := ⟨Sample.library, []⟩ }).2 = .ok u :=
    exists_ok_iff.mpr (by decide +kernel)
  have hrefused : (rawFilters.give (.list unsupportedClauses)).2
      = .error (.unsupportedOperator "like" "age") := rfl
  obtain ⟨hok, -, hcompile⟩ := hextended _ hgiven
  exact ⟨hraw, _, hplain, hgiven, hok, hcompile, hrefused, hunsupported _ _ _ hrefused⟩

end Filters
end QueryOptions
