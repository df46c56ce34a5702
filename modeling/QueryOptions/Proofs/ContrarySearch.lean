import QueryOptions.Proofs.Contraries
import QueryOptions.Proofs.ContraryWays

/-!
# QueryOptions.Proofs.ContrarySearch

What the contrary of a pattern finds, whatever groups the pattern refers to by name: the texts of
one line at no character of which the pattern matches.

This is so of the ways in which expressions are documented to match, for every pattern
(`occursIn_of_isContrary`). The matcher tries the pattern inside of the repetition of the contrary,
where a failed attempt leaves no marks of groups; so what counts for the matcher is where the
pattern matches inside of a repetition (`Node.matchesWithin`). There it matches where it is
documented to, unless it repeats more than one character possessively
(`Node.matchesWithin_eq_meets`). On its own it may come upon the marks of an alternative that has
failed, but not without references (`Node.matchesWithin_eq`).

* `linkage_within`: the marks of a pattern are those of its contrary but for the first group;
* `search_of_isContrary`: what the matcher finds with the contrary;
* `Filters.readClause_unfound`: the clause for the contrary, and what its expression finds.
-/

namespace QueryOptions
namespace Regex

/-! ## Marks of one more group -/

/-- The second trail has the marks of one more group, and these come first. -/
def Trail.Within (t t' : Trail) : Prop := t.place = t'.place ∧ t'.marks.drop 2 = t.marks

namespace Trail

variable {t t' : Trail}

theorem Within.mark (h : t.Within t') (entry position : Nat) :
    (t.mark entry position).Within (t'.mark (entry + 2) position) := by
  obtain ⟨hplace, hmarks⟩ := h
  have hlength : t.marks.length = t'.marks.length - 2 := by rw [← hmarks, List.length_drop]
  refine ⟨by rw [place_mark, place_mark, hplace], ?_⟩
  unfold Trail.mark
  by_cases hlt : entry < t.marks.length
  · have hlt' : entry + 2 < t'.marks.length := by omega
    rw [if_pos hlt, if_pos hlt']
    dsimp only
    rw [List.drop_set, if_neg (by omega), hmarks, Nat.add_sub_cancel]
  · have hge : ¬entry + 2 < t'.marks.length := by omega
    have hrest : entry + 2 - t'.marks.length - (2 - t'.marks.length) = entry - t.marks.length := by
      omega
    have hpast : 2 - (t'.marks.length + (entry + 2 - t'.marks.length)) = 0 := by omega
    rw [if_neg hlt, if_neg hge]
    dsimp only
    rw [List.drop_append, List.drop_append, hmarks, List.drop_replicate, hrest, List.length_append,
      List.length_replicate, hpast]
    rfl

theorem Within.group? (h : t.Within t') {index : Nat} (hindex : 0 < index) :
    t'.group? (index + 1) = t.group? index := by
  have hstart : 2 * (index + 1) - 2 = 2 + (2 * index - 2) := by omega
  have hstop : 2 * (index + 1) - 1 = 2 + (2 * index - 1) := by omega
  unfold Trail.group?
  rw [← h.2, hstart, hstop, List.getElem?_drop, List.getElem?_drop]

end Trail

/-- Everything that happens to trails goes on behind the marks of the first group. -/
theorem linkage_within :
    Linkage Trail.Within (· = ·) (· + 1) (· + 1) (0 < ·) (0 < ·) where
  place h := h.1
  visit p h := ⟨rfl, h.2⟩
  enter {t t' index} p hindex h := by
    have hentry : 2 * (index + 1) - 2 = 2 * index - 2 + 2 := by omega
    unfold Trail.enter
    rw [hentry]
    exact h.mark _ _
  leave {t t' index} p hindex h := by
    have hentry : 2 * (index + 1) - 1 = 2 * index - 1 + 2 := by omega
    unfold Trail.leave
    rw [hentry]
    exact h.mark _ _
  group hindex h := h.group? hindex
  restore {t t' u u' repeating _} hmode h hu := by
    subst hmode
    refine ⟨hu.1, ?_⟩
    cases repeating with
    | true => exact h.2
    | false =>
      simp only [Trail.restore, Bool.false_eq_true, if_false]
      rw [List.drop_take, hu.2, ← h.2, List.length_drop]
  repeating := rfl

/-- Whether an expression matches at a place inside of a repetition, where failed attempts leave no
marks. -/
def Node.matchesWithin (root : Node) (p : Place) : Bool :=
  (root.run true none p ⟨[], p⟩ Outcome.stop).isMatched

theorem Node.matchesWithin_eq {root : Node} (h : root.refers = false) (p : Place) :
    root.matchesWithin p = root.matchesAt p := by
  have hon := runsAlike_enclosed h false true none p ⟨[], p⟩ ⟨[], p⟩ _ _ rfl .stop
  have hwithin := runsAlike_enclosed h true true none p ⟨[], p⟩ ⟨[], p⟩ _ _ rfl .stop
  rw [matchesWithin, matchesAt_eq]
  generalize root.run true none _ _ _ = o at hwithin
  generalize root.run false none _ _ _ = o' at hon
  generalize root.enclosed.run true none _ _ _ = o'' at hon hwithin
  cases hon <;> cases hwithin <;> rfl

/-- Inside of a repetition, an expression matches where it is documented to. -/
theorem Node.matchesWithin_eq_meets {root : Node} (h : root.isPlain = true) (p : Place) :
    root.matchesWithin p = root.meets p := by
  have hruns : RunsThrough (root.run true none) root.ways := fun p t k after hk =>
    matched?_run h hk (beginsWith_none after) p t
  have hfirst := matched?_stop hruns p ⟨[], p⟩
  have hways : (Trail.visit ⟨[], p⟩ p) = ⟨[], p⟩ := rfl
  rw [hways] at hfirst
  rw [matchesWithin, meets]
  cases hrun : root.run true none p ⟨[], p⟩ Outcome.stop <;> rw [hrun] at hfirst
  · obtain ⟨others, hothers⟩ := List.head?_eq_some_iff.mp hfirst.symm
    rw [hothers]
    rfl
  · rw [List.head?_eq_none_iff.mp hfirst.symm]
    rfl

/-- On its own, an expression that asks about a group that it is in the middle of may come upon the
end of that group in an alternative that has failed. -/
example : (compile "(?P<a>(?P<b>x)(?:y|(?(a)q|yz)))w" Reader.caseless).toOption.map
    (fun r : Regex => (r.root.meets (placeIn "xyzw" 0), r.root.matchesWithin (placeIn "xyzw" 0),
      r.root.matchesAt (placeIn "xyzw" 0))) = some (true, true, false) := by
  decide +kernel

/-- What is behind one more group matches in the ways that it does on its own. -/
theorem ways_shifted {pieces body : List Piece} (h : ShiftTo pieces body) {t : Trail}
    (ht : t.IsOuter) :
    (nodeOfPieces body).ways t = [] ↔ (nodeOfPieces pieces).meets t.place = false := by
  have hlinked : Trail.Within ⟨[], t.place⟩ t := ⟨rfl, List.drop_eq_nil_of_le ht⟩
  have hways := Node.ways_linked linkage_within h.node.2 hlinked
  rw [h.node.1, Node.meets, Bool.not_eq_false', List.isEmpty_iff, ← List.length_eq_zero_iff,
    ← List.length_eq_zero_iff, hways.length_eq]

/-- What is behind one more group meets what matches inside of a repetition. -/
theorem meets_shifted {pieces body : List Piece} (h : ShiftTo pieces body) (p : Place) {t : Trail}
    (ht : t.IsOuter) :
    ((nodeOfPieces body).run true none p (t.visit p) Outcome.stop).isMatched
      = (nodeOfPieces pieces).matchesWithin p := by
  have hlinked : Trail.Within ⟨[], p⟩ (t.visit p) := ⟨rfl, List.drop_eq_nil_of_le ht⟩
  have hmode : true = true := rfl
  have hbody := Node.runsLinked linkage_within h.node.2 hmode none p ⟨[], p⟩ (t.visit p) _ _ hlinked
    linkage_within.stop
  rw [h.node.1, Node.matchesWithin]
  generalize (nodeOfPieces pieces).run _ _ _ _ _ = o at hbody
  generalize Node.run _ _ _ _ _ _ = o' at hbody
  cases hbody <;> rfl

/-! ## Searching -/

/-- Where a line ends that is all of a text: at the end, or before a line end that is its last
character. -/
def IsEnd (text : String) (stop : Nat) : Prop :=
  stop = text.length ∨ (text.toList.getLast? = some '\n' ∧ stop + 1 = text.length)

theorem clearFrom_iff_end {meets : Place → Bool} {text : String} :
    ClearFrom meets (.start text.toList) ↔
      ∃ stop, IsEnd text stop ∧ '\n' ∉ text.toList.take stop ∧
        ∀ i < stop, meets (placeIn text i) = false := by
  have hlength : text.toList.length = text.length := String.length_toList
  constructor
  · rintro ⟨line, hline, hone, hclear⟩
    have hline : text.toList = line ∨ text.toList = line ++ ['\n'] := hline
    refine ⟨line.length, ?_, ?_, hclear⟩
    · rw [IsEnd, ← hlength]
      refine hline.imp (fun h => by rw [h]) fun h => ?_
      rw [h]
      exact ⟨List.getLast?_concat, by simp⟩
    · rcases hline with h | h <;> rw [h]
      · rwa [List.take_length]
      · rwa [List.take_left]
  · rintro ⟨stop, hend, hone, hclear⟩
    have hle : stop ≤ text.toList.length := by
      rw [hlength]
      rcases hend with h | ⟨-, h⟩ <;> omega
    refine ⟨text.toList.take stop, ?_, hone, fun i hi => hclear i ?_⟩
    · have hwhole : text.toList.take stop ++ text.toList.drop stop = text.toList :=
        List.take_append_drop stop _
      change text.toList = _ ∨ text.toList = _
      rcases hend with h | ⟨hlast, h⟩
      · rw [h, ← hlength, List.take_length]
        exact .inl rfl
      · refine .inr ?_
        have hlast' : text.toList.drop stop = ['\n'] := by
          have hone : (text.toList.drop stop).length = 1 := by
            rw [List.length_drop, hlength]
            omega
          obtain ⟨c, hc⟩ := List.length_eq_one_iff.mp hone
          rw [← hwhole, hc, List.getLast?_concat] at hlast
          rw [hc, Option.some.inj hlast]
        rw [← hlast', hwhole]
    · rwa [List.length_take, Nat.min_eq_left hle] at hi

/-- The contrary of a pattern is documented to find the texts of one line at no character of which
the pattern is documented to match. -/
theorem occursIn_of_isContrary {r n : Regex} (h : IsContrary r n) (text : String) :
    OccursIn n text ↔
      ∃ stop, IsEnd text stop ∧ '\n' ∉ text.toList.take stop ∧
        ∀ i < stop, r.root.meets (placeIn text i) = false := by
  obtain ⟨⟨pieces, body, hshift, hroot, hcontrary⟩, -⟩ := h
  rw [← clearFrom_iff_end, hroot]
  exact occursIn_unfoundRoot (fun t ht => ways_shifted hshift ht) hcontrary text

/-- The contrary of a pattern finds what the pattern is not met in, up to the end of the line. -/
theorem search_of_isContrary {r n : Regex} (h : IsContrary r n) (text : String) :
    search n text = true ↔
      ∃ stop, IsEnd text stop ∧ '\n' ∉ text.toList.take stop ∧
        ∀ i < stop, r.root.matchesWithin (placeIn text i) = false := by
  obtain ⟨⟨pieces, body, hshift, hroot, hcontrary⟩, groups, hleast⟩ := h
  have hzero : n.least = 0 := by rw [hleast, hcontrary, least_width_unfoundRoot]
  rw [← clearFrom_iff_end, hroot]
  exact search_unfoundRoot (fun p t ht => meets_shifted hshift p ht) hcontrary hzero text

end Regex

namespace Filters

open Regex

/-- The clause for the contrary of a pattern is read, if the pattern is a regular expression without
options and numbers. It is documented to find the texts of one line at no character of which the
pattern matches, and the matcher finds those at no character of which the pattern matches inside of
a repetition. This is where the pattern is documented to match if it repeats nothing but single
characters possessively, and where it matches on its own if it does not refer to its groups. -/
theorem readClause_unfound {library : Library} {operators : Value} {s : Filters}
    (hs : new library operators = .ok s) {key : Value} (hkey : key.isKey = true) {pattern : String}
    {r : Regex} (hr : Regex.compile pattern Reader.caseless = .ok r)
    (hoptions : intrusion? pattern ≠ some .options) (hnumber : intrusion? pattern ≠ some .number)
    {clause : Dict} (hclause : IsClause key .unfound (.text pattern) clause) :
    ∃ e n, readClause s.settings (.dict clause) = .ok e ∧
      e.criteria s.settings.library = .ok [(key, .regex n)] ∧
      (∀ text : String, OccursIn n text ↔
        ∃ stop, IsEnd text stop ∧ '\n' ∉ text.toList.take stop ∧
          ∀ i < stop, r.root.meets (placeIn text i) = false) ∧
      (∀ text : String, search n text = true ↔
        ∃ stop, IsEnd text stop ∧ '\n' ∉ text.toList.take stop ∧
          ∀ i < stop, r.root.matchesWithin (placeIn text i) = false) ∧
      (r.root.isPlain = true → ∀ p, r.root.matchesWithin p = r.root.meets p) ∧
      (r.root.refers = false → ∀ p, r.root.matchesWithin p = r.root.matchesAt p) := by
  have houtcome (i : Intrusion) (h : intrusion? pattern ≠ some i) :
      outcomeOf pattern ≠ .error i := by
    intro herror
    unfold intrusion? at h
    unfold outcomeOf at herror
    rw [herror] at h
    exact h rfl
  obtain ⟨-, n, hn, hcontrary⟩ :=
    contrary_of_compile (houtcome _ hoptions) (houtcome _ hnumber) hr
  have hcriterion : Operator.unfound.criterion (.text pattern) = .ok (.regex n) :=
    unfound_criterion_iff.mpr hn
  have hkeyed : keyed key (.regex n) = .ok [(key, .regex n)] := if_pos hkey
  refine ⟨.field key .unfound (.text pattern), n, ?_, ?_, occursIn_of_isContrary hcontrary,
    search_of_isContrary hcontrary, Node.matchesWithin_eq_meets, Node.matchesWithin_eq⟩
  · rw [readClause_pattern (Query.shadowed_of_newFilters hs) rfl hclause, hcriterion]
    dsimp only
    rw [hkeyed]
    rfl
  · simp only [Expression.criteria, hcriterion, hkeyed]

/-- A letter that comes twice. -/
theorem doubledLetter_unfound :
    ∃ r e n, Regex.compile "(?P<x>.)(?P=x)" Reader.caseless = .ok r ∧
      intrusion? "(?P<x>.)(?P=x)" = none ∧
      readClause plain.settings (.dict (patternClause .unfound "(?P<x>.)(?P=x)")) = .ok e ∧
      e.criteria plain.settings.library = .ok [(.text "name", .regex n)] ∧
      OccursIn n "world\n" ∧ ¬OccursIn n "hello\n" ∧
      search n "world\n" = true ∧ search n "hello\n" = false := by
  have hr : Regex.compile "(?P<x>.)(?P=x)" Reader.caseless
      = .ok ⟨"(?P<x>.)(?P=x)", { ignoreCase := true, unicode := true },
        .seq (.capture 1 (.one .notLineEnd)) (.back 1 .unicode), 2⟩ := by
    decide +kernel
  have hnone : intrusion? "(?P<x>.)(?P=x)" = none := by decide +kernel
  have hnew : new (fun _ _ _ => .error .mismatch) .null = .ok plain := rfl
  obtain ⟨e, n, he, hcriteria, hoccurs, hfound, hsame, -⟩ := readClause_unfound hnew rfl hr
    (by rw [hnone]; nofun) (by rw [hnone]; nofun) (patternClause_isClause .unfound _)
  have hboth (text : String) : OccursIn n text ↔ search n text = true := by
    rw [hoccurs, hfound]
    simp only [hsame (by decide)]
  have hworld : OccursIn n "world\n" :=
    (hoccurs _).mpr ⟨5, .inr ⟨by decide, by decide⟩, by decide, by decide +kernel⟩
  have hhello : ¬OccursIn n "hello\n" := by
    rw [hoccurs]
    rintro ⟨stop, rfl | ⟨-, hstop⟩, hone, hmeets⟩
    · exact hone (by decide)
    · have hlength : "hello\n".length = 6 := by decide
      have hdouble := hmeets 2 (by omega)
      revert hdouble
      decide +kernel
  exact ⟨_, e, n, hr, hnone, he, hcriteria, hworld, hhello, (hboth _).mp hworld,
    Bool.not_eq_true _ ▸ mt (hboth _).mpr hhello⟩

end Filters
end QueryOptions
