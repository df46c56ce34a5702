import QueryOptions.Value.Key

/-!
# QueryOptions.Proofs.Entries

Entries of mappings under keys that are texts. Such a key equals no other value than the same text,
so giving one key a value, or removing it, leaves the values of all other keys as they are.

* `Dict.get?_put_of_ne`, `Dict.keys_put`: a mapping in which a key was given a value;
* `Dict.get?_without`, `Dict.keys_erase`: a mapping without the entries of some keys;
* `lookup_replaced`: a list of entries by name, in which a name was given a value.
-/

namespace QueryOptions

namespace Value

theorem isNull_iff {v : Value} : v.isNull = true ↔ v = .null := by
  cases v <;> simp [isNull]

theorem same_text {k : Value} {s : String} : k.same (.text s) = true ↔ k = .text s := by
  cases k <;> simp [same, compareNumbers, int?]

theorem same_text_eq_false {k : Value} {s : String} (h : k ≠ .text s) :
    k.same (.text s) = false :=
  Bool.eq_false_iff.mpr fun e => h (same_text.mp e)

end Value

namespace Dict

theorem get?_eq_none {entries : Dict} {s : String} (h : ∀ k ∈ entries.keys, k ≠ .text s) :
    get? entries (.text s) = none := by
  induction entries with
  | nil => rfl
  | cons entry rest ih =>
    obtain ⟨k, v⟩ := entry
    have hk : k.same (.text s) = false := Value.same_text_eq_false (h k (by simp [keys]))
    rw [get?, if_neg (by simp [hk])]
    exact ih fun k hm => h k (List.mem_cons_of_mem _ hm)

/-! ## Giving a key a value -/

theorem get?_put_self (s : String) (v : Value) (entries : Dict) :
    (entries.put (.text s) v).get? (.text s) = some v :=
  get?_put_of_same (Value.same_text.mpr rfl) entries

/-- A key that is given a value leaves the values of the other keys as they are. -/
theorem get?_put_of_ne {s t : String} (h : s ≠ t) (v : Value) (entries : Dict) :
    (entries.put (.text s) v).get? (.text t) = entries.get? (.text t) := by
  have hst : (Value.text s).same (.text t) = false :=
    Value.same_text_eq_false fun he => h (Value.text.inj he)
  induction entries with
  | nil => simp [put, get?, hst]
  | cons e rest ih =>
    obtain ⟨k, w⟩ := e
    unfold put
    split
    · rename_i hk
      obtain rfl := Value.same_text.mp hk
      simp [get?, hst]
    · simp only [get?, ih]

theorem keys_put (s : String) (v : Value) (entries : Dict) :
    (entries.put (.text s) v).keys = entries.keys ∨
      (entries.put (.text s) v).keys = entries.keys ++ [.text s] := by
  induction entries with
  | nil => exact .inr rfl
  | cons e rest ih =>
    obtain ⟨k, w⟩ := e
    unfold put
    split
    · exact .inl rfl
    · exact ih.imp (congrArg (k :: ·)) (congrArg (k :: ·))

/-! ## Removing keys -/

/-- The entries of other keys than the given ones. -/
def without (names : List String) (entries : Dict) : Dict := names.foldl erase entries

theorem get?_erase (s t : String) (entries : Dict) :
    (entries.erase s).get? (.text t) = if s = t then none else entries.get? (.text t) := by
  induction entries with
  | nil => simp [erase, get?]
  | cons e rest ih =>
    obtain ⟨k, v⟩ := e
    have hcons : erase ((k, v) :: rest) s
        = if k.same (.text s) = true then erase rest s else (k, v) :: erase rest s := by
      cases hk : k.same (.text s) <;> simp [erase, hk]
    rw [hcons]
    by_cases hs : k.same (.text s) = true
    · obtain rfl := Value.same_text.mp hs
      rw [if_pos hs, ih]
      by_cases hst : s = t
      · simp [hst]
      · have hne : (Value.text s).same (.text t) = false :=
          Value.same_text_eq_false fun he => hst (Value.text.inj he)
        simp [get?, hst, hne]
    · rw [if_neg hs]
      by_cases hst : s = t
      · subst hst
        simpa [get?, hs] using ih
      · simp [get?, hst, ih]

theorem get?_without (names : List String) (t : String) (entries : Dict) :
    (entries.without names).get? (.text t)
      = if t ∈ names then none else entries.get? (.text t) := by
  induction names generalizing entries with
  | nil => simp [without]
  | cons s rest ih =>
    have hstep : entries.without (s :: rest) = (entries.erase s).without rest := rfl
    rw [hstep, ih, get?_erase]
    by_cases hst : s = t
    · simp [hst]
    · have hts : ¬t = s := fun he => hst he.symm
      simp [hst, hts]

theorem keys_erase (s : String) (entries : Dict) :
    (entries.erase s).keys = entries.keys.filter fun k => !k.same (.text s) := by
  unfold keys erase
  rw [List.filter_map]
  rfl

end Dict

/-- A mapping without the entries of some keys. What is no mapping has none to lose. -/
def Value.without (names : List String) : Value → Value
  | .dict entries => .dict (Dict.without names entries)
  | v => v

/-! ## Entries by name -/

theorem lookup_filter_ne {α : Type} {name other : String} (h : name ≠ other)
    (entries : List (String × α)) :
    List.lookup other (entries.filter fun e => e.1 != name) = entries.lookup other := by
  induction entries with
  | nil => rfl
  | cons e rest ih =>
    obtain ⟨key, v⟩ := e
    by_cases hkey : key = name
    · subst hkey
      have hne : (other == key) = false := beq_eq_false_iff_ne.mpr (Ne.symm h)
      simpa [List.lookup_cons, hne] using ih
    · rw [List.filter_cons_of_pos (by simpa using hkey), List.lookup_cons, List.lookup_cons, ih]

theorem lookup_replaced {α : Type} (entries : List (String × α)) (name other : String) (v : α) :
    List.lookup other ((name, v) :: entries.filter fun e => e.1 != name)
      = if name = other then some v else entries.lookup other := by
  by_cases h : name = other
  · subst h
    simp
  · have hne : (other == name) = false := beq_eq_false_iff_ne.mpr (Ne.symm h)
    rw [List.lookup_cons, hne, if_neg h]
    exact lookup_filter_ne h entries

end QueryOptions
