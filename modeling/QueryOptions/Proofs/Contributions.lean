import QueryOptions.Proofs.LastWins
import QueryOptions.Proofs.PatternClauses
import QueryOptions.Proofs.Standalone
import QueryOptions.Sample.Operators

/-!
# QueryOptions.Proofs.Contributions

The criteria of clauses as a whole. A clause contributes entries (`Contributes`): one for its field,
one for a choice, or all those that a function of the settings gives. Each key of the criteria
stands where it is contributed first, with the value that is contributed last (`compile_lastWins`).
-/

namespace QueryOptions
namespace Filters

variable {library : Library} {settings : FilterSettings}

/-- The entries that a clause contributes to the criteria. -/
inductive Contributes (settings : FilterSettings) : Value → Dict → Prop where
  /-- A field is asked something. -/
  | field {key v c : Value} {o : Operator} {clause : Dict} :
      IsClause key o v clause → o ≠ .outside → o.criterion v = .ok c →
      Contributes settings (.dict clause) [(key, c)]
  /-- A choice of two criteria. -/
  | choice {key v low high : Value} {clause : Dict} :
      IsClause key .outside v clause → v.array? = some [low, high] →
      Contributes settings (.dict clause)
        [("$or", .list [.dict [(key, single "$lt" low)], .dict [(key, single "$gt" high)]])]
  /-- A function of the settings gives criteria, which may have any number of keys. -/
  | custom {key token function result : Value} {clause entries : Dict} :
      clause.get? (.text "key") = some key → clause.get? (.text "operator") = some token →
      settings.operators.get? token = some function →
      callFunction settings.library function key (clause.get "value") = .ok result →
      Dict.ofValue result = .ok entries → Contributes settings (.dict clause) entries

/-- What is read of a clause, as far as its criteria need it. -/
inductive Reads (settings : FilterSettings) : Value → Expression → Prop where
  | field {key v : Value} {o : Operator} {clause : Dict} :
      IsClause key o v clause → o ≠ .outside → Reads settings (.dict clause) (.field key o v)
  | choice {key v : Value} {clause : Dict} :
      IsClause key .outside v clause → Reads settings (.dict clause) (.disjunction key v)
  | custom {key token function : Value} {clause : Dict} :
      clause.get? (.text "key") = some key → clause.get? (.text "operator") = some token →
      settings.operators.get? token = some function →
      Reads settings (.dict clause) (.custom key token function (clause.get "value"))

/-! ## One clause -/

theorem token_of_ofToken? {v : Value} {o : Operator}
    (h : v.text?.bind Operator.ofToken? = some o) : v = .text o.token := by
  obtain ⟨token, htext, ho⟩ := Option.bind_eq_some_iff.mp h
  have htoken : o.token = token := by simpa using List.find?_some ho
  cases v <;> cases htext
  rw [htoken]

theorem reads_of_readClause {v : Value} {e : Expression} (h : readClause settings v = .ok e) :
    Reads settings v e := by
  unfold readClause at h
  split at h
  · rename_i clause
    split at h
    · rename_i key operator hkey hoperator
      unfold Expression.read at h
      split at h
      · cases h
      · split at h
        · rename_i function hfunction
          cases h
          exact .custom hkey hoperator hfunction
        · split at h
          · cases h
          · rename_i o ho
            have hclause : IsClause key o (Dict.get clause "value") clause :=
              ⟨hkey, token_of_ofToken? ho ▸ hoperator, rfl⟩
            split at h
            · cases h
            · split at h
              · rename_i hout
                cases h
                exact .choice (hout ▸ hclause)
              · rename_i hout
                dsimp only at h
                split at h
                · obtain ⟨_, -, rfl⟩ := map_eq_ok_iff.mp h
                  exact .field hclause hout
                · cases h
                  exact .field hclause hout
    · cases h
  · cases h

/-- A clause that was read contributes the criteria of what was read. -/
theorem contributes_of_reads {v : Value} {e : Expression} {d : Dict} (h : Reads settings v e)
    (hd : e.criteria settings.library = .ok d) : Contributes settings v d := by
  cases h with
  | field hclause hout =>
    have hk := Expression.isKey_of_criteria hd
    simp only [Expression.criteria] at hd
    split at hd
    · cases hd
    · rename_i c hc
      rw [keyed_ok hk] at hd
      cases hd
      exact .field hclause hout hc
  | choice hclause =>
    have hk := Expression.isKey_of_choice hd
    simp only [Expression.criteria] at hd
    split at hd
    · rename_i low high harray
      rw [keyed_ok hk, keyed_ok hk] at hd
      cases hd
      exact .choice hclause harray
    · cases hd
  | custom hkey htoken hfunction =>
    simp only [Expression.criteria] at hd
    split at hd
    · cases hd
    · rename_i result hresult
      exact .custom hkey htoken hfunction hresult hd

/-! ## All clauses -/

/-- Clauses one after the other put their contributions one after the other. -/
theorem contribute_of_read {values : List Value} {es : List Expression}
    (hread : readClauses settings values = .ok es)
    (hes : ∀ e ∈ es, ∃ d, e.criteria settings.library = .ok d) :
    ∃ contributions, List.Forall₂ (Contributes settings) values contributions ∧
      ∀ acc, contribute settings.library acc es = .ok (putAll acc contributions.flatten) := by
  induction values generalizing es with
  | nil =>
    cases hread
    exact ⟨[], .nil, fun acc => rfl⟩
  | cons v rest ih =>
    simp only [readClauses] at hread
    split at hread
    · cases hread
    · rename_i e he
      split at hread
      · cases hread
      · rename_i more hmore
        cases hread
        obtain ⟨d, hd⟩ := hes e (List.mem_cons_self ..)
        obtain ⟨contributions, hall, hput⟩ := ih hmore fun f hf => hes f (List.mem_cons_of_mem e hf)
        refine ⟨d :: contributions, .cons (contributes_of_reads (reads_of_readClause he) hd) hall,
          fun acc => ?_⟩
        rw [contribute, hd]
        dsimp only
        rw [hput, Dict.merge_eq_putAll, List.flatten_cons, putAll_append]

theorem readClauses_append {values others : List Value} {es fs : List Expression}
    (h : readClauses settings values = .ok es) (h' : readClauses settings others = .ok fs) :
    readClauses settings (values ++ others) = .ok (es ++ fs) := by
  induction values generalizing es with
  | nil =>
    cases h
    exact h'
  | cons v rest ih =>
    simp only [readClauses, List.cons_append] at h ⊢
    split at h
    · cases h
    · rename_i e he
      split at h
      · cases h
      · rename_i more hmore
        cases h
        rw [ih hmore]
        rfl

theorem contribute_append (acc : Dict) (es fs : List Expression) :
    contribute library acc (es ++ fs)
      = (contribute library acc es).bind fun criteria => contribute library criteria fs := by
  induction es generalizing acc with
  | nil => rfl
  | cons e rest ih =>
    simp only [contribute, List.cons_append]
    split
    · rfl
    · exact ih _

/-! ## Inputs -/

/-- The clauses of an input; an absent one has none. -/
def clausesOf (v : Value) : List Value := v.array?.getD []

theorem readClauses_of_read {v : Value} {es : List Expression} (h : read settings v = .ok es) :
    readClauses settings (clausesOf v) = .ok es := by
  unfold read at h
  split at h
  · rename_i hfalsy
    cases h
    have hnone : clausesOf v = [] := by
      cases v <;> first | rfl | exact List.isEmpty_iff.mp hfalsy
    rw [hnone]
    rfl
  · split at h
    · cases h
    · rename_i clauses harray
      rw [clausesOf, harray]
      exact h

theorem read_of_array {v : Value} {clauses : List Value} (hv : v.array? = some clauses) :
    read settings v = readClauses settings clauses := by
  unfold read
  rw [Value.isFalsy_of_array? hv, hv]
  cases clauses <;> rfl

/-- A section that has accepted an input has read its clauses. -/
theorem accepted {s given : Filters} {v : Value} (h : s.give v = (given, .ok ())) :
    given.settings = s.settings ∧
      readClauses s.settings (clausesOf v) = .ok given.expressions := by
  obtain ⟨es, hread, hgiven⟩ := Section.receive_ofExcept_ok (congrArg Prod.snd h)
  obtain rfl : given = s.filled v (some es) := (congrArg Prod.fst h).symm.trans hgiven
  exact ⟨rfl, readClauses_of_read hread⟩

theorem give_of_array {s : Filters} (hs : s.received = none) {v : Value} {clauses : List Value}
    {es : List Expression} (hv : v.array? = some clauses)
    (h : readClauses s.settings clauses = .ok es) :
    s.give v = (s.filled v (some es), .ok ()) := by
  rw [give, Section.receive_ofExcept hs, read_of_array hv, h]

theorem parts_of_new {operators : Value} {s : Filters} (h : new library operators = .ok s) :
    s.settings.library = library ∧ s.received = none := by
  unfold new at h
  split at h
  · cases h
  · split at h
    · cases h
      exact ⟨rfl, rfl⟩
    · cases h

/-- A section with an operator that takes its criteria as they are. -/
def rawFilters : Filters := { settings := ⟨Sample.library, [("raw", .function "raw")]⟩ }

def clauseOf (key : Value) (token : String) (v : Value) : Value :=
  .dict [("key", key), ("operator", token), ("value", v)]

/-- A number as a key, and a choice. -/
def numberedClauses : List Value :=
  [clauseOf (.int 1) "==" "one", clauseOf "age" "not between" (.list [.int 3, .int 5])]

/-- A boolean as a key, and a function that gives a choice. -/
def flaggedClauses : List Value :=
  [clauseOf (.bool true) "!=" .null, clauseOf "age" "raw" (.dict [("$or", .list [])])]

end Filters
end QueryOptions
