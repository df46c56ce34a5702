import QueryOptions.Text.Blank

/-!
# QueryOptions.Proofs.Words

The words of a text, and texts that are written as names with blanks between them. `Splits` tells
which runs of characters a text falls into. It is met by exactly one list of runs, the one that is
read (`runsOf_eq_iff`). Two texts with a blank between them fall into the runs of both
(`Splits.append`), so what is read of names written one after the other is the words of each name,
in order.

* `words_unwords`: what comes back of names that are written and read again;
* `words_unwords_words`: words come back as they were;
* `flatMap_words_eq_iff`: the names that come back as they were are words.
-/

namespace QueryOptions
namespace Text

/-- Some characters, none of them blank. -/
def IsRun (cs : List Char) : Prop := cs ≠ [] ∧ ∀ c ∈ cs, isBlank c = false

/-- Characters fall into runs. A run stands at the end, or a blank comes after it. -/
inductive Splits : List Char → List (List Char) → Prop where
  | nil : Splits [] []
  | blank {b : Char} {rest : List Char} {runs : List (List Char)} :
      isBlank b = true → Splits rest runs → Splits (b :: rest) runs
  | last {run : List Char} : IsRun run → Splits run [run]
  | next {run rest : List Char} {b : Char} {runs : List (List Char)} :
      IsRun run → isBlank b = true → Splits (b :: rest) runs →
      Splits (run ++ b :: rest) (run :: runs)

/-- A word is not empty, and has no blanks. -/
def IsWord (s : String) : Prop := IsRun s.toList

instance (cs : List Char) : Decidable (IsRun cs) := inferInstanceAs (Decidable (_ ∧ _))

instance (s : String) : Decidable (IsWord s) := inferInstanceAs (Decidable (IsRun _))

/-! ## Runs -/

theorem isRun_singleton {c : Char} (hc : isBlank c = false) : IsRun [c] :=
  ⟨List.cons_ne_nil c [], List.forall_mem_singleton.mpr hc⟩

theorem IsRun.cons {c : Char} (hc : isBlank c = false) {run : List Char} (h : IsRun run) :
    IsRun (c :: run) := ⟨List.cons_ne_nil c run, List.forall_mem_cons.mpr ⟨hc, h.2⟩⟩

theorem runsOf_singleton {c : Char} (hc : isBlank c = false) : runsOf [c] = [[c]] := by
  simp [runsOf, hc]

theorem runsOf_cons_before_blank {c b : Char} (hc : isBlank c = false) (hb : isBlank b = true)
    (rest : List Char) : runsOf (c :: b :: rest) = [c] :: runsOf (b :: rest) := by
  rw [runsOf.eq_def]
  simp [hc, hb]

/-- A character in front of another one joins its run, if neither of them is blank. -/
theorem runsOf_cons_cons {c d : Char} (hc : isBlank c = false) (hd : isBlank d = false)
    {rest run : List Char} {runs : List (List Char)} (h : runsOf (d :: rest) = run :: runs) :
    runsOf (c :: d :: rest) = (c :: run) :: runs := by
  rw [runsOf.eq_def]
  simp [hc, hd, h]

theorem runsOf_of_isRun {run : List Char} (h : IsRun run) : runsOf run = [run] := by
  induction run with
  | nil => exact absurd rfl h.1
  | cons c rest ih =>
    obtain ⟨hc, hrest⟩ := List.forall_mem_cons.mp h.2
    cases rest with
    | nil => exact runsOf_singleton hc
    | cons d rest =>
      have hd : isBlank d = false := hrest d (List.mem_cons_self ..)
      exact runsOf_cons_cons hc hd (ih ⟨List.cons_ne_nil d rest, hrest⟩)

theorem runsOf_isRun_append {run : List Char} (h : IsRun run) {b : Char} (hb : isBlank b = true)
    (rest : List Char) : runsOf (run ++ b :: rest) = run :: runsOf (b :: rest) := by
  induction run with
  | nil => exact absurd rfl h.1
  | cons c more ih =>
    obtain ⟨hc, hmore⟩ := List.forall_mem_cons.mp h.2
    cases more with
    | nil => exact runsOf_cons_before_blank hc hb rest
    | cons d more =>
      have hd : isBlank d = false := hmore d (List.mem_cons_self ..)
      exact runsOf_cons_cons hc hd (ih ⟨List.cons_ne_nil d more, hmore⟩)

/-! ## What characters fall into -/

namespace Splits

variable {cs left right : List Char} {runs others : List (List Char)}

/-- A character joins the first run of characters that do not begin with a blank. -/
theorem cons_run {c d : Char} (hc : isBlank c = false) (hd : isBlank d = false)
    (h : Splits (d :: cs) runs) :
    ∃ run more, runs = run :: more ∧ Splits (c :: d :: cs) ((c :: run) :: more) := by
  generalize he : d :: cs = text at h
  cases h with
  | nil => cases he
  | blank hb _ =>
    obtain ⟨rfl, -⟩ := List.cons.inj he
    rw [hd] at hb
    cases hb
  | last hrun => exact ⟨_, [], rfl, .last (hrun.cons hc)⟩
  | next hrun hb hrest => exact ⟨_, _, rfl, .next (hrun.cons hc) hb hrest⟩

theorem append {b : Char} (hb : isBlank b = true) (hleft : Splits left runs)
    (hright : Splits right others) : Splits (left ++ b :: right) (runs ++ others) := by
  induction hleft with
  | nil => exact .blank hb hright
  | blank hb' _ ih => exact .blank hb' ih
  | last hrun => exact .next hrun hb (.blank hb hright)
  | @next run rest b' more hrun hb' _ ih =>
    rw [List.append_assoc]
    exact .next hrun hb' ih

theorem isRun (h : Splits cs runs) : ∀ run ∈ runs, IsRun run := by
  induction h with
  | nil => exact nofun
  | blank _ _ ih => exact ih
  | last hrun => exact List.forall_mem_singleton.mpr hrun
  | next hrun _ _ ih => exact List.forall_mem_cons.mpr ⟨hrun, ih⟩

end Splits

theorem runsOf_of_splits {cs : List Char} {runs : List (List Char)} (h : Splits cs runs) :
    runsOf cs = runs := by
  induction h with
  | nil => rfl
  | blank hb _ ih => rw [runsOf_cons_blank hb, ih]
  | last hrun => exact runsOf_of_isRun hrun
  | next hrun hb _ ih => rw [runsOf_isRun_append hrun hb, ih]

theorem splits_runsOf (cs : List Char) : Splits cs (runsOf cs) := by
  induction cs with
  | nil => exact .nil
  | cons c rest ih =>
    cases hc : isBlank c with
    | true =>
      rw [runsOf_cons_blank hc]
      exact .blank hc ih
    | false =>
      cases rest with
      | nil =>
        rw [runsOf_singleton hc]
        exact .last (isRun_singleton hc)
      | cons d rest =>
        cases hd : isBlank d with
        | true =>
          rw [runsOf_cons_before_blank hc hd]
          exact .next (isRun_singleton hc) hd ih
        | false =>
          obtain ⟨run, more, hruns, hsplits⟩ := ih.cons_run hc hd
          rw [runsOf_cons_cons hc hd hruns]
          exact hsplits

/-- Characters fall into the runs that are read, and into no others. -/
theorem runsOf_eq_iff {cs : List Char} {runs : List (List Char)} :
    runsOf cs = runs ↔ Splits cs runs := by
  constructor
  · rintro rfl
    exact splits_runsOf cs
  · exact runsOf_of_splits

/-! ## Words -/

theorem words_eq_iff {s : String} {names : List String} :
    words s = names ↔ Splits s.toList (names.map String.toList) := by
  rw [← runsOf_eq_iff]
  unfold words
  constructor
  · rintro rfl
    simp
  · intro h
    rw [h]
    simp

theorem isWord_of_mem_words {s name : String} (h : name ∈ words s) : IsWord name := by
  obtain ⟨run, hrun, rfl⟩ := List.mem_map.mp h
  unfold IsWord
  rw [String.toList_ofList]
  exact (splits_runsOf s.toList).isRun run hrun

theorem words_of_isWord {s : String} (h : IsWord s) : words s = [s] :=
  words_eq_iff.mpr (.last h)

theorem words_empty : words "" = [] := rfl

/-- A space between two texts splits them. -/
theorem words_append_space (s t : String) : words (s ++ " " ++ t) = words s ++ words t := by
  have hs : Splits s.toList ((words s).map String.toList) := words_eq_iff.mp rfl
  have ht : Splits t.toList ((words t).map String.toList) := words_eq_iff.mp rfl
  have hspace : isBlank ' ' = true := by decide
  have htext : (s ++ " " ++ t).toList = s.toList ++ ' ' :: t.toList := by simp
  rw [words_eq_iff, htext, List.map_append]
  exact hs.append hspace ht

/-- Names that are written with blanks between them are read as their words. -/
theorem words_unwords (names : List String) : words (unwords names) = names.flatMap words := by
  induction names with
  | nil => exact words_empty
  | cons name rest ih =>
    cases rest with
    | nil => simp [unwords, joinWith_singleton]
    | cons other rest =>
      show words (name ++ " " ++ unwords (other :: rest)) = _
      rw [words_append_space, ih]
      rfl

/-- The names that are read as they were written are words. -/
theorem flatMap_words_eq_iff {names : List String} :
    names.flatMap words = names ↔ ∀ name ∈ names, IsWord name := by
  constructor
  · intro h name hname
    rw [← h] at hname
    obtain ⟨source, -, hmem⟩ := List.mem_flatMap.mp hname
    exact isWord_of_mem_words hmem
  · intro h
    induction names with
    | nil => rfl
    | cons name rest ih =>
      obtain ⟨hname, hrest⟩ := List.forall_mem_cons.mp h
      rw [List.flatMap_cons, words_of_isWord hname, ih hrest, List.singleton_append]

theorem words_unwords_words (s : String) : words (unwords (words s)) = words s := by
  rw [words_unwords]
  exact flatMap_words_eq_iff.mpr fun _ => isWord_of_mem_words

end Text
end QueryOptions
