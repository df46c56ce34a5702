import QueryOptions.Proofs.Contributions
import QueryOptions.Proofs.FirstFaults
import QueryOptions.Proofs.PatternFaults

/-!
# QueryOptions.Proofs.ClauseGrammar

Which inputs of the `filters` section are accepted, and what the others are refused with. A clause
is well-formed if it is a mapping with a key and an operator, and the operator is one of the
settings, or a built-in one that the value fits (`Fits`). Otherwise it has one fault (`HasFault`),
and the first clause that has one decides what the whole input is refused with (`give_settles`).

Keys and operators are texts here: others may be no keys of mappings.
-/

namespace QueryOptions

open Regex.Reader (caseless)

/-! ## The grammar -/

namespace Operator

/-- A value fits a built-in operator. Patterns have to be accepted where the operator puts them. -/
def Fits (o : Operator) (v : Value) : Prop :=
  match o with
  | .within | .without => ∃ items, v.array? = some items
  | .between | .outside => ∃ low high, v.array? = some [low, high]
  | .found | .unfound =>
    ∃ pattern r, v = .text pattern ∧ Regex.compile (o.sourceOf pattern) caseless = .ok r
  | _ => True

/-- What a value that does not fit a built-in operator is refused with. -/
def HasFault (o : Operator) (key v : Value) (f : Fault) : Prop :=
  match o with
  | .within | .without => v.array? = none ∧ f = .input (.needsArray o.token key)
  | .between | .outside =>
    (∀ low high, v.array? ≠ some [low, high]) ∧ f = .input (.needsRange o.token key)
  | .found | .unfound =>
    (v.text? = none ∧ f = .invalidPattern v .notText) ∨
      ∃ pattern problem, v = .text pattern ∧
        Regex.compile (o.sourceOf pattern) caseless = .error problem ∧
        f = Filters.faultOf pattern (o.sourceOf pattern) problem
  | _ => False

end Operator

namespace Filters

/-- A clause that is accepted. -/
inductive IsWellFormed (settings : FilterSettings) : Value → Prop where
  | custom {key token function : Value} {clause : Dict} :
      clause.get? (.text "key") = some key → clause.get? (.text "operator") = some token →
      settings.operators.get? token = some function → IsWellFormed settings (.dict clause)
  | builtIn {key v : Value} {o : Operator} {clause : Dict} :
      IsClause key o v clause → o.Fits v → IsWellFormed settings (.dict clause)

/-- A mapping with a key and an operator. -/
def HasParts (v : Value) : Prop :=
  ∃ (clause : Dict) (key token : Value), v = .dict clause ∧ clause.get? (.text "key") = some key ∧
    clause.get? (.text "operator") = some token

/-- What a clause is refused with. -/
inductive HasFault (settings : FilterSettings) : Value → Fault → Prop where
  | shape {v : Value} : ¬HasParts v → HasFault settings v (.input .clauseShape)
  | unknown {key : Value} {token : String} {clause : Dict} :
      clause.get? (.text "key") = some key → clause.get? (.text "operator") = some (.text token) →
      settings.operators.get? (.text token) = none → Operator.ofToken? token = none →
      HasFault settings (.dict clause) (.unsupportedOperator (.text token) key)
  | unfit {key v : Value} {o : Operator} {clause : Dict} {f : Fault} :
      IsClause key o v clause → o.HasFault key v f → HasFault settings (.dict clause) f

/-- A clause has no key and no operator but texts. -/
def IsNamed (v : Value) : Prop :=
  ∀ clause : Dict, v = .dict clause →
    (∀ key, clause.get? (.text "key") = some key → ∃ s, key = .text s) ∧
      ∀ token, clause.get? (.text "operator") = some token → ∃ s, token = .text s

end Filters

/-! ## One clause -/

theorem IsClause.unique {key key' v v' : Value} {o other : Operator} {clause : Dict}
    (h : IsClause key o v clause) (h' : IsClause key' other v' clause) :
    key' = key ∧ other = o ∧ v' = v := by
  have htoken : other.token = o.token := by
    simpa using h'.operator.symm.trans h.operator
  refine ⟨Option.some.inj (h'.key.symm.trans h.key), ?_, h'.value.symm.trans h.value⟩
  have hread := other.ofToken?_token
  rw [htoken, o.ofToken?_token] at hread
  exact (Option.some.inj hread).symm

namespace Operator

variable {o : Operator} {key v : Value}

theorem check_settles (hp : o.takesPattern = false) :
    Settles (o.check key v) (o.Fits v) (o.HasFault key v) := by
  cases o with
  | within | without =>
    simp only [check, takesArray, if_true]
    split
    · rename_i items hitems
      exact .of_ok ⟨items, hitems⟩ fun f h => by simp [HasFault, hitems] at h
    · rename_i hnone
      exact .of_error (by simp [Fits, hnone]) ⟨hnone, rfl⟩ fun f h => h.2
  | between | outside =>
    simp only [check, takesArray, takesRange, if_true, Bool.false_eq_true, if_false]
    split
    · rename_i low high hrange
      exact .of_ok ⟨low, high, hrange⟩ fun f h => h.1 low high hrange
    · rename_i hrange
      refine .of_error ?_ ⟨hrange, rfl⟩ fun f h => h.2
      rintro ⟨low, high, h⟩
      exact hrange low high h
  | found | unfound => cases hp
  | _ => exact .of_ok trivial fun _ h => h

theorem fits_of_takesPattern (hp : o.takesPattern = true) :
    o.Fits v ↔ ∃ pattern r, v = .text pattern ∧
      Regex.compile (o.sourceOf pattern) caseless = .ok r := by
  rcases eq_of_takesPattern hp with rfl | rfl <;> exact Iff.rfl

theorem hasFault_of_takesPattern (hp : o.takesPattern = true) (f : Fault) :
    o.HasFault key v f ↔ (v.text? = none ∧ f = .invalidPattern v .notText) ∨
      ∃ pattern problem, v = .text pattern ∧
        Regex.compile (o.sourceOf pattern) caseless = .error problem ∧
        f = Filters.faultOf pattern (o.sourceOf pattern) problem := by
  rcases eq_of_takesPattern hp with rfl | rfl <;> exact Iff.rfl

end Operator

namespace Filters

variable {settings : FilterSettings} {key v : Value} {o : Operator} {clause : Dict}

/-- A clause with a built-in operator that takes no pattern is read if its value is checked. -/
theorem readClause_builtIn (hs : shadowed settings.operators = []) (hp : o.takesPattern = false)
    (hclause : IsClause key o v clause) :
    readClause settings (.dict clause)
      = (o.check key v).map fun _ =>
          if o = .outside then .disjunction key v else .field key o v := by
  simp only [readClause, hclause.key, hclause.operator, hclause.value, Expression.read,
    Value.isKey, Bool.not_true, Bool.false_eq_true, if_false,
    Store.get?_operators hs o.ofToken?_token, Value.text?, Option.bind_some, o.ofToken?_token, hp]
  cases o.check key v with
  | error f => rfl
  | ok _ =>
    dsimp only
    split <;> rfl

theorem pattern_settles (hs : shadowed settings.operators = []) (hkey : key.isKey = true)
    (hp : o.takesPattern = true) (hclause : IsClause key o v clause) :
    Settles (readClause settings (.dict clause)) (o.Fits v) (o.HasFault key v) := by
  refine Settles.congr ?_ (Operator.fits_of_takesPattern hp).symm
    fun f => (Operator.hasFault_of_takesPattern hp f).symm
  cases htext : v.text? with
  | none =>
    rw [readClause_pattern hs hp hclause, Operator.criterion_other hp htext]
    refine .of_error ?_ (.inl ⟨rfl, rfl⟩) fun f => ?_
    · rintro ⟨pattern, r, rfl, -⟩
      cases htext
    · rintro (⟨-, hf⟩ | ⟨pattern, problem, rfl, -⟩)
      · exact hf
      · cases htext
  | some pattern =>
    obtain rfl : v = .text pattern := by
      cases v <;> cases htext
      rfl
    cases hcompile : Regex.compile (o.sourceOf pattern) caseless with
    | ok r =>
      obtain ⟨e, he⟩ := (readClause_ok_iff hs hp hclause).mpr ⟨hkey, r, hcompile⟩
      rw [he]
      refine .of_ok ⟨pattern, r, rfl, hcompile⟩ fun f => ?_
      rintro (⟨h, -⟩ | ⟨pattern', problem, heq, h, -⟩)
      · cases h
      · cases heq
        rw [hcompile] at h
        cases h
    | error problem =>
      rw [readClause_of_problem hs hp hclause hcompile]
      refine .of_error ?_ (.inr ⟨pattern, problem, rfl, hcompile, rfl⟩) fun f => ?_
      · rintro ⟨pattern', r, heq, h⟩
        cases heq
        rw [hcompile] at h
        cases h
      · rintro (⟨h, -⟩ | ⟨pattern', problem', heq, h, rfl⟩)
        · cases h
        · cases heq
          cases hcompile.symm.trans h
          rfl

theorem builtIn_settles (hs : shadowed settings.operators = []) (hkey : key.isKey = true)
    (hclause : IsClause key o v clause) :
    Settles (readClause settings (.dict clause)) (o.Fits v) (o.HasFault key v) := by
  cases hp : o.takesPattern with
  | true => exact pattern_settles hs hkey hp hclause
  | false =>
    rw [readClause_builtIn hs hp hclause]
    exact (Operator.check_settles hp).map _

/-- A clause without a key or an operator is refused for its shape. -/
theorem shape_settles (hparts : ¬HasParts v) :
    Settles (readClause settings v) (IsWellFormed settings v) (HasFault settings v) := by
  have hread : readClause settings v = .error (.input .clauseShape) := by
    unfold readClause
    split
    · rename_i clause
      split
      · rename_i key token hkey htoken
        exact absurd ⟨clause, key, token, rfl, hkey, htoken⟩ hparts
      · rfl
    · rfl
  rw [hread]
  refine .of_error (fun h => hparts ?_) (.shape hparts) fun f h => ?_
  · cases h with
    | custom hkey htoken _ => exact ⟨_, _, _, rfl, hkey, htoken⟩
    | builtIn hclause _ => exact ⟨_, _, _, rfl, hclause.key, hclause.operator⟩
  · cases h with
    | shape _ => rfl
    | unknown hkey htoken _ _ => exact absurd ⟨_, _, _, rfl, hkey, htoken⟩ hparts
    | unfit hclause _ => exact absurd ⟨_, _, _, rfl, hclause.key, hclause.operator⟩ hparts

/-- A clause with an operator of the settings is read as it is. -/
theorem custom_settles (hs : shadowed settings.operators = []) {token : String}
    {function : Value} (hkey : Dict.get? clause (.text "key") = some key)
    (htoken : Dict.get? clause (.text "operator") = some (.text token))
    (hfunction : settings.operators.get? (.text token) = some function) :
    Settles (readClause settings (.dict clause)) (IsWellFormed settings (.dict clause))
      (HasFault settings (.dict clause)) := by
  have hread : readClause settings (.dict clause)
      = .ok (.custom key (.text token) function (Dict.get clause "value")) := by
    simp only [readClause, hkey, htoken, Expression.read, Value.isKey, Bool.not_true,
      Bool.false_eq_true, if_false, hfunction]
  rw [hread]
  refine .of_ok (.custom hkey htoken hfunction) fun f h => ?_
  cases h with
  | shape hparts => exact hparts ⟨_, _, _, rfl, hkey, htoken⟩
  | unknown _ htoken' hnone _ =>
    cases htoken.symm.trans htoken'
    cases hfunction.symm.trans hnone
  | unfit hclause _ =>
    cases htoken.symm.trans hclause.operator
    cases hfunction.symm.trans (Store.get?_operators hs (Operator.ofToken?_token _))

/-- An operator that is neither of the settings nor built in is refused together with the key. -/
theorem unknown_settles {token : String} (hkey : Dict.get? clause (.text "key") = some key)
    (htoken : Dict.get? clause (.text "operator") = some (.text token))
    (hnone : settings.operators.get? (.text token) = none) (ho : Operator.ofToken? token = none) :
    Settles (readClause settings (.dict clause)) (IsWellFormed settings (.dict clause))
      (HasFault settings (.dict clause)) := by
  have hread : readClause settings (.dict clause)
      = .error (.unsupportedOperator (.text token) key) := by
    simp only [readClause, hkey, htoken, Expression.read, Value.isKey, Bool.not_true,
      Bool.false_eq_true, if_false, hnone, Value.text?, Option.bind_some, ho]
  have hbuiltIn {o : Operator} {key' v' : Value} (hclause : IsClause key' o v' clause) : False := by
    cases htoken.symm.trans hclause.operator
    cases ho.symm.trans o.ofToken?_token
  rw [hread]
  refine .of_error (fun h => ?_) (.unknown hkey htoken hnone ho) fun f h => ?_
  · cases h with
    | custom _ htoken' hfunction =>
      cases htoken.symm.trans htoken'
      cases hnone.symm.trans hfunction
    | builtIn hclause _ => exact hbuiltIn hclause
  · cases h with
    | shape hparts => exact absurd ⟨_, _, _, rfl, hkey, htoken⟩ hparts
    | unknown hkey' htoken' _ _ =>
      cases hkey.symm.trans hkey'
      cases htoken.symm.trans htoken'
      rfl
    | unfit hclause _ => exact (hbuiltIn hclause).elim

theorem readClause_settles (hs : shadowed settings.operators = []) (hv : IsNamed v) :
    Settles (readClause settings v) (IsWellFormed settings v) (HasFault settings v) := by
  by_cases hparts : HasParts v
  · obtain ⟨clause, key, token, rfl, hkey, htoken⟩ := hparts
    obtain ⟨name, rfl⟩ := (hv clause rfl).1 key hkey
    obtain ⟨token, rfl⟩ := (hv clause rfl).2 token htoken
    cases hfunction : settings.operators.get? (.text token) with
    | some function => exact custom_settles hs hkey htoken hfunction
    | none =>
      cases ho : Operator.ofToken? token with
      | none => exact unknown_settles hkey htoken hfunction ho
      | some o =>
        obtain rfl : o.token = token := by simpa using List.find?_some ho
        have hclause : IsClause (.text name) o (Dict.get clause "value") clause :=
          ⟨hkey, htoken, rfl⟩
        refine (builtIn_settles hs rfl hclause).congr ⟨.builtIn hclause, fun h => ?_⟩
          fun f => ⟨.unfit hclause, fun h => ?_⟩
        · cases h with
          | custom _ htoken' hfunction' =>
            cases htoken.symm.trans htoken'
            cases hfunction.symm.trans hfunction'
          | builtIn hclause' hfits =>
            obtain ⟨-, rfl, rfl⟩ := hclause.unique hclause'
            exact hfits
        · cases h with
          | shape hnone => exact absurd ⟨_, _, _, rfl, hkey, htoken⟩ hnone
          | unknown _ htoken' _ ho' =>
            cases htoken.symm.trans htoken'
            cases ho.symm.trans ho'
          | unfit hclause' hfault =>
            obtain ⟨rfl, rfl, rfl⟩ := hclause.unique hclause'
            exact hfault
  · exact shape_settles hparts

theorem readClauses_cons (v : Value) (rest : List Value) :
    readClauses settings (v :: rest)
      = (readClause settings v).bind fun e => (readClauses settings rest).map (e :: ·) := by
  simp only [readClauses]
  cases readClause settings v with
  | error f => rfl
  | ok e => cases readClauses settings rest <;> rfl

theorem readClauses_settles (hs : shadowed settings.operators = []) {values : List Value}
    (hv : ∀ v ∈ values, IsNamed v) :
    Settles (readClauses settings values) (∀ v ∈ values, IsWellFormed settings v)
      (FirstFault (IsWellFormed settings) (HasFault settings) values) := by
  induction values with
  | nil => exact .nil
  | cons v rest ih =>
    obtain ⟨hfirst, hrest⟩ := List.forall_mem_cons.mp hv
    rw [readClauses_cons]
    exact .cons (readClause_settles hs hfirst) (ih hrest) _

/-! ## Inputs -/

/-- What an input is refused with. -/
inductive IsRefusedWith (settings : FilterSettings) : Value → Fault → Prop where
  | container {v : Value} :
      v.isFalsy = false → v.array? = none →
      IsRefusedWith settings v (.input (.notArray SectionName.filters.text v.kind))
  /-- The first clause with a fault decides. -/
  | clause {v : Value} {clauses : List Value} {f : Fault} :
      v.array? = some clauses →
      FirstFault (IsWellFormed settings) (HasFault settings) clauses f →
      IsRefusedWith settings v f

theorem read_settles (hs : shadowed settings.operators = [])
    (hv : ∀ clause ∈ clausesOf v, IsNamed clause) :
    Settles (read settings v)
      (v.isFalsy = true ∨ ∃ clauses, v.array? = some clauses ∧
        ∀ clause ∈ clauses, IsWellFormed settings clause)
      (IsRefusedWith settings v) := by
  cases harray : v.array? with
  | some clauses =>
    rw [clausesOf, harray] at hv
    rw [read_of_array harray]
    refine (readClauses_settles hs hv).congr ⟨fun h => ?_, fun h => ?_⟩
      fun f => ⟨.clause harray, fun h => ?_⟩
    · exact .inr ⟨clauses, rfl, h⟩
    · rcases h with hfalsy | ⟨clauses', heq, h⟩
      · rw [Value.isFalsy_of_array? harray, List.isEmpty_iff] at hfalsy
        simp [hfalsy]
      · cases heq
        exact h
    · cases h with
      | container _ hnone => cases harray.symm.trans hnone
      | clause harray' h =>
        cases harray.symm.trans harray'
        exact h
  | none =>
    cases hfalsy : v.isFalsy with
    | true =>
      have hread : read settings v = .ok [] := if_pos hfalsy
      rw [hread]
      refine .of_ok (.inl rfl) fun f h => ?_
      cases h with
      | container hfalsy' _ => cases hfalsy.symm.trans hfalsy'
      | clause harray' _ => cases harray.symm.trans harray'
    | false =>
      have hread : read settings v
          = .error (.input (.notArray SectionName.filters.text v.kind)) := by
        unfold read
        rw [hfalsy, harray]
        rfl
      rw [hread]
      refine .of_error (by simp) (.container hfalsy harray) fun f h => ?_
      cases h with
      | container _ _ => rfl
      | clause harray' _ => cases harray.symm.trans harray'

/-- An input is accepted if it is absent or an array of well-formed clauses; otherwise it is refused
for what it is, or with the fault of the first clause that has one. -/
theorem give_settles {library : Library} {operators : Value} {s : Filters}
    (hs : new library operators = .ok s)
    (hv : ∀ clause ∈ clausesOf v, IsNamed clause) :
    ((s.give v).2 = .ok () ↔ v.isFalsy = true ∨ ∃ clauses, v.array? = some clauses ∧
        ∀ clause ∈ clauses, IsWellFormed s.settings clause) ∧
      ∀ f, (s.give v).2 = .error f ↔ IsRefusedWith s.settings v f := by
  obtain ⟨-, hnew⟩ := parts_of_new hs
  have hgive : (s.give v).2 = (read s.settings v).map fun _ => () :=
    Section.receive_outcome hnew v
  have hsettles := (read_settles (Query.shadowed_of_newFilters hs) hv).map fun _ => ()
  rw [← hgive] at hsettles
  refine ⟨Iff.trans ⟨fun h => ⟨(), h⟩, fun h => ?_⟩ hsettles.ok, hsettles.error⟩
  obtain ⟨_, h⟩ := h
  exact h

theorem isNamed_clauseOf (key token : String) (v : Value) : IsNamed (clauseOf key token v) := by
  intro clause h
  cases h
  refine ⟨fun k hk => ⟨key, (Option.some.inj hk).symm⟩, fun t ht => ⟨token, ?_⟩⟩
  exact (Option.some.inj ht).symm

/-- Clauses with an operator of the settings, a range and a pattern. -/
def rangedClauses : List Value :=
  [clauseOf "name" "raw" (.dict []), clauseOf "age" "between" (.tuple [.int 3, .int 5]),
    clauseOf "name" "!~" "^a"]

/-- A clause that lacks an array stands before one with an unknown operator. -/
def arraylessClauses : List Value :=
  [clauseOf "name" "raw" .null, clauseOf "age" "in" (.int 3), clauseOf "age" "like" .null]

theorem rangedAndArrayless_give :
    new Sample.library (.dict [("raw", .function "raw")]) = .ok rawFilters ∧
    (rawFilters.give (.tuple rangedClauses)).2 = .ok () ∧
    (rawFilters.give (.list arraylessClauses)).2 = .error (.input (.needsArray "in" "age")) := by
  have hnew : new Sample.library (.dict [("raw", .function "raw")]) = .ok rawFilters := rfl
  have hranged : ∀ clause ∈ clausesOf (.tuple rangedClauses), IsNamed clause := by
    simp [clausesOf, Value.array?, rangedClauses, isNamed_clauseOf]
  have harrayless : ∀ clause ∈ clausesOf (.list arraylessClauses), IsNamed clause := by
    simp [clausesOf, Value.array?, arraylessClauses, isNamed_clauseOf]
  have hpattern : ∃ r, Regex.compile (Operator.unfound.sourceOf "^a") caseless = .ok r :=
    exists_ok_iff.mpr (by decide +kernel)
  refine ⟨hnew, (give_settles hnew hranged).1.mpr (.inr ⟨_, rfl, ?_⟩),
    ((give_settles hnew harrayless).2 _).mpr (.clause rfl ?_)⟩
  · simp only [rangedClauses, List.forall_mem_cons, List.not_mem_nil, false_imp_iff, forall_const,
      and_true]
    obtain ⟨r, hr⟩ := hpattern
    exact ⟨.custom rfl rfl rfl, .builtIn (o := .between) ⟨rfl, rfl, rfl⟩ ⟨_, _, rfl⟩,
      .builtIn (o := .unfound) ⟨rfl, rfl, rfl⟩ ⟨_, r, rfl, hr⟩⟩
  · exact .later (.custom rfl rfl rfl)
      (.here (.unfit (o := .within) ⟨rfl, rfl, rfl⟩ ⟨rfl, rfl⟩))

end Filters
end QueryOptions
