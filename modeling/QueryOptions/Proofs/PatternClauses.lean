import QueryOptions.Proofs.Clauses
import QueryOptions.Proofs.GivenOptions

/-!
# QueryOptions.Proofs.PatternClauses

Clauses that look for a pattern, as they are read. The pattern is compiled when the clause is read,
so that a clause with a key is read just if it asks something of its field
(`readClause_pattern`, `readClause_ok_iff`).

* `IsClause`: a mapping with a key, a built-in operator and a value;
* `Operator.sourceOf`: the source of the expression that is compiled.
-/

namespace QueryOptions

/-- A mapping with a key, a built-in operator and a value, and perhaps more. -/
structure IsClause (key : Value) (o : Operator) (v : Value) (clause : Dict) : Prop where
  key : Dict.get? clause (.text "key") = some key
  operator : Dict.get? clause (.text "operator") = some (.text o.token)
  value : Dict.get clause "value" = v

theorem Operator.ofToken?_token (o : Operator) : Operator.ofToken? o.token = some o := by
  cases o <;> rfl

/-- The source of the expression that an operator makes of a pattern. -/
def Operator.sourceOf (o : Operator) (pattern : String) : String :=
  if o = .unfound then unfoundSource pattern else pattern

namespace Operator

variable {o : Operator}

theorem eq_of_takesPattern (h : o.takesPattern = true) : o = .found ∨ o = .unfound := by
  cases o <;> first | exact .inl rfl | exact .inr rfl | cases h

theorem criterion_text (h : o.takesPattern = true) (pattern : String) :
    o.criterion (.text pattern) = compilePattern (o.sourceOf pattern) (.text pattern) := by
  rcases eq_of_takesPattern h with rfl | rfl <;> rfl

theorem criterion_other (h : o.takesPattern = true) {v : Value} (hv : v.text? = none) :
    o.criterion v = .error (.invalidPattern v .notText) := by
  rcases eq_of_takesPattern h with rfl | rfl <;> cases v <;> first | rfl | cases hv

theorem check_text (h : o.takesPattern = true) (key : Value) (pattern : String) :
    o.check key (.text pattern) = .ok () := by
  rcases eq_of_takesPattern h with rfl | rfl <;> rfl

theorem check_other (h : o.takesPattern = true) (key : Value) {v : Value} (hv : v.text? = none) :
    o.check key v = .error (.invalidPattern v .notText) := by
  rcases eq_of_takesPattern h with rfl | rfl <;> cases v <;> first | rfl | cases hv

end Operator

namespace Filters

variable {settings : FilterSettings} {key v : Value} {o : Operator} {clause : Dict}

/-- A clause with a pattern is read if something can be asked of its field. -/
theorem readClause_pattern (hs : shadowed settings.operators = []) (ho : o.takesPattern = true)
    (hclause : IsClause key o v clause) :
    readClause settings (.dict clause)
      = match o.criterion v with
        | .error f => .error f
        | .ok c => (keyed key c).map fun _ => .field key o v := by
  have hread : readClause settings (.dict clause)
      = Expression.read settings.library settings.operators key (.text o.token) v := by
    simp only [readClause, hclause.key, hclause.operator, hclause.value]
  have hout : o ≠ .outside := by
    rintro rfl
    cases ho
  rw [hread]
  simp only [Expression.read, Value.isKey, Bool.not_true, Bool.false_eq_true, if_false,
    Store.get?_operators hs o.ofToken?_token, Value.text?, Option.bind_some, o.ofToken?_token, hout,
    ho, if_true]
  cases hv : v.text? with
  | none =>
    rw [Operator.check_other ho key hv, Operator.criterion_other ho hv]
  | some pattern =>
    obtain rfl : v = .text pattern := by
      cases v <;> cases hv
      rfl
    rw [Operator.check_text ho]
    simp only [Expression.criteria]
    cases o.criterion (.text pattern) <;> rfl

theorem readClause_ok_iff (hs : shadowed settings.operators = []) (ho : o.takesPattern = true)
    {pattern : String} (hclause : IsClause key o (.text pattern) clause) :
    (∃ e, readClause settings (.dict clause) = .ok e) ↔
      key.isKey = true ∧ ∃ r, Regex.compile (o.sourceOf pattern) Regex.Reader.caseless = .ok r := by
  rw [readClause_pattern hs ho hclause, Operator.criterion_text ho, compilePattern]
  unfold keyed
  cases Regex.compile (o.sourceOf pattern) Regex.Reader.caseless with
  | error problem => cases problem <;> simp
  | ok r => cases hkey : key.isKey <;> simp [Except.map]

end Filters
end QueryOptions
