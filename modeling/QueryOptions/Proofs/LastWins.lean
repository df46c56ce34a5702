import QueryOptions.Proofs.KeyEquality
import QueryOptions.Call

/-!
# QueryOptions.Proofs.LastWins

Entries that are put into a mapping one after the other. Each key stands where it was put first,
with the value that was put last (`lastWins`). So nothing changes if several entries are put into a
mapping of their own first, and that one is put afterwards (`putAll_lastWins`), provided that
equality is symmetric and transitive on the keys.

* `Dict.merge_eq_putAll`, `SortSpec.put_eq_putEntry`: mappings and specs are made so;
* `putAll_nil`: what is put into an empty mapping.
-/

namespace QueryOptions

section

variable {ν : Type}

/-- Gives a key a value: in the place of the old one, or at the end. -/
def putEntry : List (Value × ν) → Value → ν → List (Value × ν)
  | [], key, value => [(key, value)]
  | (k, v) :: rest, key, value =>
    if k.same key then (k, value) :: rest else (k, v) :: putEntry rest key value

def putAll (entries more : List (Value × ν)) : List (Value × ν) :=
  more.foldl (fun all e => putEntry all e.1 e.2) entries

/-- The value that a key has in the end if it has the given one before some entries. -/
def lastValue (key : Value) (value : ν) : List (Value × ν) → ν
  | [] => value
  | (k, v) :: rest => lastValue key (if key.same k then v else value) rest

def apartFrom (key : Value) (entries : List (Value × ν)) : List (Value × ν) :=
  entries.filter fun e => !key.same e.1

/-- Each key once, where it stands first, with the value that it has last. -/
def lastWins : List (Value × ν) → List (Value × ν)
  | [] => []
  | (key, value) :: rest => (key, lastValue key value rest) :: lastWins (apartFrom key rest)
termination_by entries => entries.length
decreasing_by exact Nat.lt_succ_of_le (List.length_filter_le _ rest)

theorem putAll_cons (entries : List (Value × ν)) (e : Value × ν) (more : List (Value × ν)) :
    putAll entries (e :: more) = putAll (putEntry entries e.1 e.2) more := rfl

theorem putAll_append (entries more others : List (Value × ν)) :
    putAll entries (more ++ others) = putAll (putAll entries more) others :=
  List.foldl_append

theorem apartFrom_cons_of_same {key : Value} {e : Value × ν} (h : key.same e.1 = true)
    (rest : List (Value × ν)) : apartFrom key (e :: rest) = apartFrom key rest := by
  simp [apartFrom, h]

theorem apartFrom_cons_of_not_same {key : Value} {e : Value × ν} (h : ¬key.same e.1 = true)
    (rest : List (Value × ν)) : apartFrom key (e :: rest) = e :: apartFrom key rest := by
  simp [apartFrom, h]

/-- The first entry takes up all values of its key; the others do not touch it. -/
theorem putAll_first (key : Value) (value : ν) (entries more : List (Value × ν)) :
    putAll ((key, value) :: entries) more
      = (key, lastValue key value more) :: putAll entries (apartFrom key more) := by
  induction more generalizing value entries with
  | nil => rfl
  | cons e rest ih =>
    rw [putAll_cons, putEntry, lastValue]
    by_cases he : key.same e.1 = true
    · rw [if_pos he, if_pos he, apartFrom_cons_of_same he, ih]
    · rw [if_neg he, if_neg he, apartFrom_cons_of_not_same he, ih, putAll_cons]

theorem putAll_nil (entries : List (Value × ν)) : putAll [] entries = lastWins entries := by
  induction entries using lastWins.induct with
  | case1 => simp [putAll, lastWins]
  | case2 key value rest ih => rw [lastWins, ← ih, putAll_cons, putEntry, putAll_first]

/-! ## Putting the outcome instead of the entries -/

def AreKeyed (entries : List (Value × ν)) : Prop := ∀ e ∈ entries, e.1.isKey = true

theorem AreKeyed.tail {e : Value × ν} {rest : List (Value × ν)} (h : AreKeyed (e :: rest)) :
    AreKeyed rest := fun f hf => h f (List.mem_cons_of_mem e hf)

theorem AreKeyed.apartFrom {entries : List (Value × ν)} (h : AreKeyed entries) (key : Value) :
    AreKeyed (apartFrom key entries) := fun e he => h e (List.mem_filter.mp he).1

theorem AreKeyed.putEntry {entries : List (Value × ν)} {key : Value} (h : AreKeyed entries)
    (hk : key.isKey = true) (value : ν) : AreKeyed (putEntry entries key value) := by
  induction entries with
  | nil => exact List.forall_mem_singleton.mpr hk
  | cons e rest ih =>
    obtain ⟨k, v⟩ := e
    have hfirst := h (k, v) (List.mem_cons_self ..)
    unfold QueryOptions.putEntry
    split
    · exact List.forall_mem_cons.mpr ⟨hfirst, h.tail⟩
    · exact List.forall_mem_cons.mpr ⟨hfirst, ih h.tail⟩

theorem AreKeyed.of_lastWins {entries : List (Value × ν)} (h : AreKeyed (lastWins entries)) :
    AreKeyed entries := by
  induction entries using lastWins.induct with
  | case1 => exact fun e he => by cases he
  | case2 key value rest ih =>
    rw [lastWins] at h
    have hk : key.isKey = true := h _ (List.mem_cons_self ..)
    refine List.forall_mem_cons.mpr ⟨hk, fun e he => ?_⟩
    by_cases hsame : key.same e.1 = true
    · exact Value.isKey_of_same hk hsame
    · exact ih h.tail e (List.mem_filter.mpr ⟨he, by simpa using hsame⟩)

theorem lastValue_congr {key other : Value} {entries : List (Value × ν)}
    (h : ∀ e ∈ entries, key.same e.1 = other.same e.1) (value : ν) :
    lastValue key value entries = lastValue other value entries := by
  induction entries generalizing value with
  | nil => rfl
  | cons e rest ih =>
    rw [lastValue, lastValue, h e (List.mem_cons_self ..),
      ih fun f hf => h f (List.mem_cons_of_mem e hf)]

theorem apartFrom_congr {key other : Value} {entries : List (Value × ν)}
    (h : ∀ e ∈ entries, key.same e.1 = other.same e.1) :
    apartFrom key entries = apartFrom other entries :=
  List.filter_congr fun e he => by rw [h e he]

theorem apartFrom_comm (key other : Value) (entries : List (Value × ν)) :
    apartFrom key (apartFrom other entries) = apartFrom other (apartFrom key entries) := by
  simp only [apartFrom, List.filter_filter, Bool.and_comm]

/-- Entries that do not have a key leave its value alone. -/
theorem lastValue_apartFrom {key other : Value} {entries : List (Value × ν)}
    (h : ∀ e ∈ entries, key.same e.1 = true → ¬other.same e.1 = true) (value : ν) :
    lastValue key value (apartFrom other entries) = lastValue key value entries := by
  induction entries generalizing value with
  | nil => rfl
  | cons e rest ih =>
    have ih := ih fun f hf => h f (List.mem_cons_of_mem e hf)
    by_cases he : other.same e.1 = true
    · have hk : ¬key.same e.1 = true := fun hk => h e (List.mem_cons_self ..) hk he
      rw [apartFrom_cons_of_same he, ih, lastValue, if_neg hk]
    · rw [apartFrom_cons_of_not_same he, lastValue, lastValue, ih]

theorem lastValue_apartFrom_self (key : Value) (value : ν) (entries : List (Value × ν)) :
    lastValue key value (apartFrom key entries) = value := by
  induction entries with
  | nil => rfl
  | cons e rest ih =>
    by_cases he : key.same e.1 = true
    · rw [apartFrom_cons_of_same he, ih]
    · rw [apartFrom_cons_of_not_same he, lastValue, if_neg he, ih]

theorem apartFrom_self (key : Value) (entries : List (Value × ν)) :
    apartFrom key (apartFrom key entries) = apartFrom key entries := by
  simp only [apartFrom, List.filter_filter, Bool.and_self]

/-- A key can be put with its last value right away. -/
theorem putAll_putEntry {entries more : List (Value × ν)} {key : Value}
    (he : AreKeyed entries) (hk : key.isKey = true) (value : ν) :
    putAll (putEntry entries key value) more
      = putAll (putEntry entries key (lastValue key value more)) (apartFrom key more) := by
  induction entries generalizing more with
  | nil =>
    rw [putEntry, putEntry, putAll_first, putAll_first, lastValue_apartFrom_self, apartFrom_self]
  | cons e rest ih =>
    obtain ⟨k, v⟩ := e
    have hfirst : k.isKey = true := he (k, v) (List.mem_cons_self ..)
    unfold putEntry
    by_cases hsame : k.same key = true
    · -- the two keys are one
      have hone (e) (hmem : e ∈ more) : k.same e.1 = key.same e.1 := by
        refine Bool.eq_iff_iff.mpr ⟨fun h => ?_, fun h => ?_⟩
        · exact Value.same_trans hk (Value.same_symm hfirst hsame) h
        · exact Value.same_trans hfirst hsame h
      rw [if_pos hsame, if_pos hsame, putAll_first, putAll_first, ← apartFrom_congr hone,
        lastValue_apartFrom_self, apartFrom_self, lastValue_congr hone]
    · have hapart (e) (hmem : e ∈ more) : k.same e.1 = true → ¬key.same e.1 = true := by
        intro h h'
        exact hsame (Value.same_trans hfirst h (Value.same_symm hk h'))
      rw [if_neg hsame, if_neg hsame, putAll_first, putAll_first, lastValue_apartFrom hapart,
        apartFrom_comm, ← lastValue_apartFrom (fun e hmem h h' => hapart e hmem h' h) value,
        ih he.tail]

/-- `putAll` of entries is `putAll` of what is left of them when the last value of each key wins. -/
theorem putAll_lastWins {entries more : List (Value × ν)} (he : AreKeyed entries)
    (hm : AreKeyed more) : putAll entries (lastWins more) = putAll entries more := by
  induction more using lastWins.induct generalizing entries with
  | case1 => simp [lastWins]
  | case2 key value rest ih =>
    have hk : key.isKey = true := hm (key, value) (List.mem_cons_self ..)
    rw [lastWins, putAll_cons, putAll_cons, ih (he.putEntry hk _) (hm.tail.apartFrom key),
      ← putAll_putEntry he hk]

/-! ## Entries that are apart -/

/-- No key stands before one that is equal to it. -/
def AreApart (entries : List (Value × ν)) : Prop :=
  entries.Pairwise fun e f => ¬e.1.same f.1 = true

theorem areApart_iff_keys {entries : List (Value × ν)} :
    AreApart entries ↔ (entries.map Prod.fst).Pairwise fun k l => ¬k.same l = true := by
  rw [AreApart, List.pairwise_map]

theorem exists_of_mem_lastWins {entries : List (Value × ν)} {e : Value × ν}
    (h : e ∈ lastWins entries) : ∃ f ∈ entries, f.1 = e.1 := by
  induction entries using lastWins.induct with
  | case1 => simp [lastWins] at h
  | case2 key value rest ih =>
    rw [lastWins] at h
    rcases List.mem_cons.mp h with rfl | h
    · exact ⟨(key, value), List.mem_cons_self, rfl⟩
    · obtain ⟨f, hf, he⟩ := ih h
      exact ⟨f, List.mem_cons_of_mem _ (List.mem_filter.mp hf).1, he⟩

theorem areApart_lastWins (entries : List (Value × ν)) : AreApart (lastWins entries) := by
  induction entries using lastWins.induct with
  | case1 =>
    rw [lastWins]
    exact .nil
  | case2 key value rest ih =>
    rw [lastWins]
    refine .cons (fun e he => ?_) ih
    obtain ⟨f, hf, hkey⟩ := exists_of_mem_lastWins he
    have happart := (List.mem_filter.mp hf).2
    rw [hkey] at happart
    simpa using happart

/-- A double is one key with itself, also one that is no number. -/
example (x : Float) (v w : ν) : lastWins [(.float x, v), (.float x, w)] = [(.float x, w)] := by
  have hsame : (Value.float x).same (.float x) = true := Value.same_refl rfl
  simp [lastWins, lastValue, apartFrom, hsame]

theorem lastWins_cons_of_apart {key : Value} {rest : List (Value × ν)}
    (h : ∀ e ∈ rest, ¬key.same e.1 = true) (value : ν) :
    lastWins ((key, value) :: rest) = (key, value) :: lastWins rest := by
  have hrest : apartFrom key rest = rest :=
    List.filter_eq_self.mpr fun e he => by simpa using h e he
  have hvalue : lastValue key value rest = value := by
    rw [← hrest, lastValue_apartFrom_self]
  rw [lastWins, hrest, hvalue]

theorem lastWins_of_areApart {entries : List (Value × ν)} (h : AreApart entries) :
    lastWins entries = entries := by
  induction entries with
  | nil => rw [lastWins]
  | cons e rest ih =>
    obtain ⟨he, hrest⟩ := List.pairwise_cons.mp h
    rw [lastWins_cons_of_apart he, ih hrest]

theorem length_lastWins_le (entries : List (Value × ν)) :
    (lastWins entries).length ≤ entries.length := by
  induction entries using lastWins.induct with
  | case1 => simp [lastWins]
  | case2 key value rest ih =>
    rw [lastWins]
    exact Nat.succ_le_succ (ih.trans (List.length_filter_le _ rest))

/-- If no entry is lost, none is touched. -/
theorem lastWins_of_length {entries : List (Value × ν)}
    (h : (lastWins entries).length = entries.length) : lastWins entries = entries := by
  induction entries with
  | nil => rw [lastWins]
  | cons e rest ih =>
    obtain ⟨key, value⟩ := e
    have hle := length_lastWins_le (apartFrom key rest)
    have hfilter : (apartFrom key rest).length ≤ rest.length := List.length_filter_le _ rest
    rw [lastWins, List.length_cons, List.length_cons] at h
    have hall : (apartFrom key rest).length = rest.length := by omega
    have happart : ∀ e ∈ rest, ¬key.same e.1 = true := by
      intro e he
      simpa using List.length_filter_eq_length_iff.mp hall e he
    have hrest : apartFrom key rest = rest :=
      List.filter_eq_self.mpr fun e he => by simpa using happart e he
    rw [hrest] at h
    rw [lastWins_cons_of_apart happart, ih (Nat.succ.inj h)]

end

/-! ## Mappings and specs -/

theorem Dict.put_eq_putEntry (entries : Dict) (key value : Value) :
    entries.put key value = putEntry entries key value := by
  induction entries with
  | nil => rfl
  | cons e rest ih => rw [Dict.put, putEntry, ih]

theorem Dict.merge_eq_putAll (entries more : Dict) : entries.merge more = putAll entries more := by
  simp only [Dict.merge, putAll, Dict.put_eq_putEntry]

theorem SortSpec.put_eq_putEntry (spec : SortSpec) (field : Value) (direction : Int) :
    spec.put field direction = putEntry spec field direction := by
  induction spec with
  | nil => rfl
  | cons e rest ih => rw [SortSpec.put, putEntry, ih]

end QueryOptions
