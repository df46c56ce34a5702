import QueryOptions.Memory

/-!
# QueryOptions.Proofs.Copies

Copies of queries. A copy is what a new query with the same contents is: it has sections of its own
(`Memory.copy_eq`). As long as no section belongs to two queries (`Memory.Separate`), a use of one
query leaves all others as they are, and making, copying and using queries keeps them separate.

* `Memory.read_eq_some_iff`: a query is in a place if its object and its sections are there;
* `Memory.read_make_self`, `Memory.read_make_of_read`: a new query, and those that were there
  before;
* `Memory.read_write_self`, `Memory.read_write_of_ne`: a query that is used, and the others.
-/

namespace QueryOptions

theorem SectionName.mem_all (part : SectionName) : part ∈ all := by
  cases part <;> decide

namespace Memory

variable {m : Memory} {i j : Nat} {q p : Query}

/-- A query is in a place if its object is there and refers to its sections. -/
theorem read_eq_some_iff :
    m.read i = some q ↔
      ∃ sections, m.queries[i]? = some (.ofQuery q sections) ∧
        ∀ part, m.sections[sections part]? = some (q.part part) := by
  unfold read
  constructor
  · intro h
    split at h
    · cases h
    · rename_i o ho
      split at h
      · rename_i hfields hembed hsort hfilters hpagination
        cases h
        refine ⟨o.sections, ho, fun part => ?_⟩
        cases part <;> assumption
      · cases h
  · rintro ⟨sections, ho, hsections⟩
    rw [ho]
    simp only [QueryObject.ofQuery, hsections, Query.part]

theorem lt_of_read (h : m.read i = some q) : i < m.queries.length := by
  obtain ⟨_, ho, -⟩ := read_eq_some_iff.mp h
  exact (List.getElem?_eq_some_iff.mp ho).1

/-- What is in a list is in the same place of a longer one. -/
theorem getElem?_longer {α : Type} {cells : List α} {x : α} (h : cells[i]? = some x)
    (more : List α) : (cells ++ more)[i]? = some x :=
  (List.getElem?_append_left (List.getElem?_eq_some_iff.mp h).1).trans h

theorem eq_or_of_getElem?_concat {α : Type} {cells : List α} {x y : α}
    (h : (cells ++ [y])[i]? = some x) :
    cells[i]? = some x ∨ i = cells.length ∧ x = y := by
  rcases Nat.lt_trichotomy i cells.length with hi | rfl | hi
  · rw [List.getElem?_append_left hi] at h
    exact .inl h
  · rw [List.getElem?_concat_length] at h
    exact .inr ⟨rfl, (Option.some.inj h).symm⟩
  · have hlength := (List.getElem?_eq_some_iff.mp h).1
    rw [List.length_append, List.length_singleton] at hlength
    omega

/-! ## New queries -/

theorem read_make_self (q : Query) (m : Memory) :
    (m.make q).1.read m.queries.length = some q := by
  refine read_eq_some_iff.mpr ⟨_, List.getElem?_concat_length, fun part => ?_⟩
  rw [make, List.getElem?_append_right (Nat.le_add_right _ _), Nat.add_sub_cancel_left]
  cases part <;> rfl

theorem read_make_of_read (h : m.read i = some q) (p : Query) :
    (m.make p).1.read i = some q := by
  obtain ⟨sections, ho, hsections⟩ := read_eq_some_iff.mp h
  exact read_eq_some_iff.mpr
    ⟨sections, getElem?_longer ho _, fun part => getElem?_longer (hsections part) _⟩

/-! ## Copies -/

/-- The object of a copy, some of whose sections have been copied so far. -/
def partlyCopied (o : QueryObject) (first : Nat) (copied : List SectionName) : QueryObject :=
  { o with
    sections := fun part =>
      if part ∈ copied then first + copied.idxOf part else o.sections part }

/-- The memory in which some sections of the latest query have been copied so far. -/
def whileCopying (m : Memory) (o : QueryObject) (q : Query) (copied : List SectionName) :
    Memory where
  queries := m.queries ++ [partlyCopied o m.sections.length copied]
  sections := m.sections ++ copied.map q.part

theorem partlyCopied_append (o : QueryObject) (first : Nat) {copied : List SectionName}
    {part : SectionName} (hpart : part ∉ copied) :
    { partlyCopied o first copied with
      sections := fun other =>
        if other = part then first + copied.length
        else (partlyCopied o first copied).sections other }
      = partlyCopied o first (copied ++ [part]) := by
  refine congrArg (fun sections => { o with sections }) (funext fun other => ?_)
  by_cases h : other = part
  · subst h
    simp [List.idxOf_append, hpart]
  · have hin : other ∈ copied ++ [part] ↔ other ∈ copied := by simp [h]
    simp only [if_neg h, partlyCopied, hin]
    by_cases hc : other ∈ copied
    · rw [if_pos hc, if_pos hc, List.idxOf_append, if_pos hc]
    · rw [if_neg hc, if_neg hc]

section

variable {o : QueryObject} (hsections : ∀ part, m.sections[o.sections part]? = some (q.part part))
include hsections

theorem copySection_whileCopying {copied : List SectionName} {part : SectionName}
    (hpart : part ∉ copied) :
    copySection m.queries.length (whileCopying m o q copied) part
      = whileCopying m o q (copied ++ [part]) := by
  have hobject : (whileCopying m o q copied).queries[m.queries.length]?
      = some (partlyCopied o m.sections.length copied) := List.getElem?_concat_length
  have hplace : (partlyCopied o m.sections.length copied).sections part = o.sections part :=
    if_neg hpart
  have hcell : (whileCopying m o q copied).sections[o.sections part]? = some (q.part part) :=
    getElem?_longer (hsections part) _
  unfold copySection
  rw [hobject]
  dsimp only
  rw [hplace, hcell]
  have hlength : (whileCopying m o q copied).sections.length
      = m.sections.length + copied.length := by
    simp [whileCopying]
  dsimp only
  rw [hlength, partlyCopied_append o _ hpart]
  simp [whileCopying]

theorem foldl_copySection (copied rest : List SectionName) (hnodup : (copied ++ rest).Nodup) :
    rest.foldl (copySection m.queries.length) (whileCopying m o q copied)
      = whileCopying m o q (copied ++ rest) := by
  induction rest generalizing copied with
  | nil => rw [List.append_nil, List.foldl_nil]
  | cons part rest ih =>
    have hpart : part ∉ copied := by
      intro hmem
      exact (List.nodup_append.mp hnodup).2.2 part hmem part List.mem_cons_self rfl
    rw [List.append_cons] at hnodup ⊢
    rw [List.foldl_cons, copySection_whileCopying hsections hpart, ih _ hnodup]

end

/-- A copy of a query is what a new query with the same contents is. -/
theorem copy_eq (h : m.read i = some q) : m.copy i = m.make q := by
  obtain ⟨sections, ho, hsections⟩ := read_eq_some_iff.mp h
  have hshallow : { m with queries := m.queries ++ m.queries[i]?.toList }
      = whileCopying m (.ofQuery q sections) q [] := by
    rw [ho]
    simp [whileCopying, partlyCopied]
  have hall : (partlyCopied (.ofQuery q sections) m.sections.length SectionName.all)
      = .ofQuery q fun part => m.sections.length + SectionName.all.idxOf part := by
    simp [partlyCopied, SectionName.mem_all, QueryObject.ofQuery]
  unfold copy
  dsimp only
  rw [hshallow, foldl_copySection hsections [] SectionName.all (by decide), List.nil_append]
  unfold whileCopying make
  rw [hall]

/-! ## Separate queries -/

/-- No section belongs to two queries, and none is two sections of one query. -/
structure Separate (m : Memory) : Prop where
  bounded : ∀ {i : Nat} {o : QueryObject}, m.queries[i]? = some o →
    ∀ part, o.sections part < m.sections.length
  apart : ∀ {i j : Nat} {o p : QueryObject} {part other : SectionName},
    m.queries[i]? = some o → m.queries[j]? = some p →
      o.sections part = p.sections other → i = j ∧ part = other

theorem separate_empty : Separate {} where
  bounded h := by cases h
  apart h := by cases h

theorem separate_make (hm : m.Separate) (q : Query) : (m.make q).1.Separate := by
  have hlength : (m.make q).1.sections.length = m.sections.length + SectionName.all.length := by
    simp [make]
  constructor
  · intro i o ho part
    rw [hlength]
    rcases eq_or_of_getElem?_concat ho with ho | ⟨-, rfl⟩
    · exact Nat.lt_add_right _ (hm.bounded ho part)
    · exact Nat.add_lt_add_left (List.idxOf_lt_length_of_mem (SectionName.mem_all part)) _
  · intro i j o p part other ho hp hplace
    rcases eq_or_of_getElem?_concat ho with ho | ⟨hi, rfl⟩ <;>
      rcases eq_or_of_getElem?_concat hp with hp | ⟨hj, rfl⟩
    · exact hm.apart ho hp hplace
    · have hbound := hm.bounded ho part
      rw [hplace] at hbound
      exact absurd hbound (Nat.not_lt.mpr (Nat.le_add_right _ _))
    · have hbound := hm.bounded hp other
      rw [← hplace] at hbound
      exact absurd hbound (Nat.not_lt.mpr (Nat.le_add_right _ _))
    · refine ⟨hi.trans hj.symm, ?_⟩
      have hindex : SectionName.all.idxOf part = SectionName.all.idxOf other :=
        Nat.add_left_cancel hplace
      revert hindex
      cases part <;> cases other <;> decide

/-! ## Uses -/

section

variable {α : Type} (place : SectionName → Nat) (contents : SectionName → α)

theorem length_foldl_set (parts : List SectionName) (cells : List α) :
    (parts.foldl (fun cells part => cells.set (place part) (contents part)) cells).length
      = cells.length := by
  induction parts generalizing cells with
  | nil => rfl
  | cons part rest ih => rw [List.foldl_cons, ih, List.length_set]

theorem getElem?_foldl_set_of_ne {k : Nat} {parts : List SectionName}
    (h : ∀ part ∈ parts, place part ≠ k) (cells : List α) :
    (parts.foldl (fun cells part => cells.set (place part) (contents part)) cells)[k]?
      = cells[k]? := by
  induction parts generalizing cells with
  | nil => rfl
  | cons part rest ih =>
    rw [List.foldl_cons, ih fun other ho => h other (List.mem_cons_of_mem part ho),
      List.getElem?_set_ne (h part List.mem_cons_self)]

theorem getElem?_foldl_set_self (hplace : ∀ {part other}, place part = place other → part = other)
    {part : SectionName} {parts : List SectionName} (hpart : part ∈ parts) {cells : List α}
    (hbound : place part < cells.length) :
    (parts.foldl (fun cells part => cells.set (place part) (contents part)) cells)[place part]?
      = some (contents part) := by
  induction parts generalizing cells with
  | nil => cases hpart
  | cons first rest ih =>
    rw [List.foldl_cons]
    by_cases hrest : part ∈ rest
    · exact ih hrest (by rwa [List.length_set])
    · obtain rfl : part = first := (List.mem_cons.mp hpart).resolve_right hrest
      have hothers : ∀ other ∈ rest, place other ≠ place part :=
        fun other ho he => hrest (hplace he ▸ ho)
      rw [getElem?_foldl_set_of_ne place contents hothers, List.getElem?_set_self hbound]

end

theorem write_eq {o : QueryObject} (ho : m.queries[i]? = some o) (q : Query) :
    m.write i q =
      { queries := m.queries.set i (.ofQuery q o.sections)
        sections :=
          SectionName.all.foldl (fun cells part => cells.set (o.sections part) (q.part part))
            m.sections } := by
  unfold write
  rw [ho]

theorem read_write_self (hm : m.Separate) (h : m.read i = some p) (q : Query) :
    (m.write i q).read i = some q := by
  obtain ⟨sections, ho, -⟩ := read_eq_some_iff.mp h
  rw [write_eq ho]
  refine read_eq_some_iff.mpr
    ⟨sections, List.getElem?_set_self (lt_of_read h), fun part => ?_⟩
  exact getElem?_foldl_set_self _ _ (fun he => (hm.apart ho ho he).2) part.mem_all
    (hm.bounded ho part)

/-- A use of one query leaves the others as they are. -/
theorem read_write_of_ne (hm : m.Separate) (hne : i ≠ j) (h : m.read j = some p) (q : Query) :
    (m.write i q).read j = some p := by
  obtain ⟨sections, hp, hsections⟩ := read_eq_some_iff.mp h
  cases ho : m.queries[i]? with
  | none =>
    unfold write
    rw [ho]
    exact h
  | some o =>
    rw [write_eq ho]
    refine read_eq_some_iff.mpr
      ⟨sections, (List.getElem?_set_ne hne).trans hp, fun part => ?_⟩
    exact (getElem?_foldl_set_of_ne _ _ (fun other _ he => hne (hm.apart ho hp he).1) _).trans
      (hsections part)

/-- An object that refers to the sections of another one is changed with it. -/
example (q p : Query) :
    let m := (make q {}).1
    (({ m with queries := m.queries ++ m.queries }.write 0 p).read 1).map Query.fields
      = some p.fields := rfl

theorem separate_write (hm : m.Separate) (i : Nat) (q : Query) : (m.write i q).Separate := by
  cases ho : m.queries[i]? with
  | none =>
    unfold write
    rwa [ho]
  | some o =>
    -- every object has its sections where it had them before
    have hobjects : ∀ {k : Nat} {o' : QueryObject}, (m.write i q).queries[k]? = some o' →
        ∃ p, m.queries[k]? = some p ∧ o'.sections = p.sections := by
      intro k o' hk
      rw [write_eq ho, List.getElem?_set] at hk
      split at hk
      · rename_i he
        subst he
        split at hk
        · cases hk
          exact ⟨o, ho, rfl⟩
        · cases hk
      · exact ⟨o', hk, rfl⟩
    constructor
    · intro k o' hk part
      obtain ⟨p, hp, he⟩ := hobjects hk
      rw [he, write_eq ho, length_foldl_set]
      exact hm.bounded hp part
    · intro k l o' p' part other hk hl hplace
      obtain ⟨p, hp, he⟩ := hobjects hk
      obtain ⟨p₂, hp₂, he₂⟩ := hobjects hl
      rw [he, he₂] at hplace
      exact hm.apart hp hp₂ hplace

theorem use_of_read {E α : Type} (h : m.read i = some q) (action : Query → Act E Query α) :
    m.use i action
      = ⟨(action q).events, m.write i (action q).state, (action q).outcome⟩ := by
  unfold use
  rw [h]

end Memory
end QueryOptions
