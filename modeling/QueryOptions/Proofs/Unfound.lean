import QueryOptions.Proofs.MatchWidths
import QueryOptions.Proofs.NegatedPatterns

/-!
# QueryOptions.Proofs.Unfound

What the contrary of a pattern finds. It reads the text character by character as long as the
pattern does not match, and has to get to the end, or to a line end that is the last character. A
text of two lines is therefore never found, and nothing is asked for at the end of the text.

* `ClearFrom`: one line of text, and nothing that is met at any of its characters;
* `isMatched_greedyLoop`, `matchesAt_unfoundRoot`: the repeated group gets to the end of such a
  line;
* `search_contrary`: what a pattern and its contrary find, and where each finds something just if
  the other does not.
-/

namespace QueryOptions
namespace Regex

/-! ## Lines without a match -/

section Lines

variable (meets : Place → Bool)

/-- Whether a character of the line comes next at a place where nothing is met. -/
def passes (p : Place) : Bool :=
  !meets p &&
    match p.after with
    | [] => false
    | c :: _ => c != '\n'

/-- From a place on the text is one line, perhaps with its line end, and nothing is met at any
character of the line. -/
def ClearFrom (p : Place) : Prop :=
  ∃ line, (p.after = line ∨ p.after = line ++ ['\n']) ∧ '\n' ∉ line ∧
    ∀ i < line.length, meets (p.forwardBy i) = false

theorem clearFrom_iff (p : Place) :
    ClearFrom meets p ↔
      Anchor.beforeFinal.holds p = true ∨ (passes meets p = true ∧ ClearFrom meets p.forward) := by
  have hfinal : Anchor.beforeFinal.holds p = true ↔ p.after = [] ∨ p.after = ['\n'] := by
    simp [Anchor.holds]
  rw [hfinal]
  constructor
  · rintro ⟨line, hline, hone, hclear⟩
    cases line with
    | nil => exact .inl hline
    | cons c line =>
      obtain ⟨rest, hrest, htail⟩ :
          ∃ rest, p.after = c :: rest ∧ (rest = line ∨ rest = line ++ ['\n']) :=
        hline.elim (fun h => ⟨line, h, .inl rfl⟩) fun h => ⟨line ++ ['\n'], h, .inr rfl⟩
      rw [List.mem_cons, not_or] at hone
      refine .inr ⟨?_, line, ?_, hone.2, fun i hi => hclear (i + 1) (Nat.succ_lt_succ hi)⟩
      · have hhere : meets p = false := hclear 0 (Nat.succ_pos _)
        simp [passes, hrest, hhere, Ne.symm hone.1]
      · rw [Place.after_forward hrest]
        exact htail
  · rintro (hline | ⟨hpasses, line, hline, hone, hclear⟩)
    · exact ⟨[], hline, nofun, nofun⟩
    · unfold passes at hpasses
      cases hafter : p.after with
      | nil => simp [hafter] at hpasses
      | cons c rest =>
        rw [hafter] at hpasses
        simp only [Bool.and_eq_true, Bool.not_eq_true', bne_iff_ne] at hpasses
        rw [Place.after_forward hafter] at hline
        refine ⟨c :: line, ?_, ?_, ?_⟩
        · exact hline.imp (fun h => by rw [hafter, h]) fun h => by rw [hafter, h]; rfl
        · rw [List.mem_cons, not_or]
          exact ⟨Ne.symm hpasses.2, hone⟩
        · intro i hi
          cases i with
          | zero => exact hpasses.1
          | succ i => exact hclear i (Nat.lt_of_succ_lt_succ hi)

end Lines

/-! ## The repeated group -/

/-- At most the first group has marks. -/
def Trail.IsOuter (t : Trail) : Prop := t.marks.length ≤ 2

namespace Trail.IsOuter

variable {t : Trail}

theorem mark (h : t.IsOuter) {entry : Nat} (hentry : entry < 2) (position : Nat) :
    (t.mark entry position).IsOuter := by
  unfold IsOuter at h ⊢
  by_cases hlt : entry < t.marks.length
  · rw [Trail.length_mark_of_lt position hlt]
    exact h
  · rw [Trail.length_mark_of_le position (Nat.le_of_not_lt hlt)]
    exact hentry

theorem enter (h : t.IsOuter) (p : Place) : (t.enter 1 p).IsOuter := h.mark (by decide) p.position

theorem leave (h : t.IsOuter) (p : Place) : (t.leave 1 p).IsOuter := h.mark (by decide) p.position

end Trail.IsOuter

/-- Rounds that read one character of the line each get to its end just if nothing is met there. -/
theorem isMatched_greedyLoop {meets : Place → Bool}
    {each : Place → Trail → Continuation → Outcome} {k : Continuation}
    (hreads : ∀ p t k, t.IsOuter → passes meets p = true →
      ∃ u : Trail, u.IsOuter ∧ each p t k = k p.forward u)
    (hfails : ∀ p t k, t.IsOuter → passes meets p = false → (each p t k).isMatched = false)
    (hk : ∀ p t, (k p t).isMatched = Anchor.beforeFinal.holds p) {fuel count : Nat}
    {last : Option Nat} {p : Place} {t : Trail} (ht : t.IsOuter) (hfuel : p.after.length < fuel)
    (hlast : last ≠ some p.position) :
    (greedyLoop each 0 none k fuel count last p t).isMatched = true ↔ ClearFrom meets p := by
  -- Each round that goes on reads one character, so that no round is the same as the last one and
  -- the fuel lasts.
  induction fuel generalizing count last p t with
  | zero => omega
  | succ fuel ih =>
    have hmay : mayRepeat none count last p = true := by simp [mayRepeat, hlast]
    have hend (u : Trail) : ((k p u).failingAt p).isMatched = Anchor.beforeFinal.holds p := by
      rw [← hk p u]
      cases k p u <;> rfl
    have horElse (o : Outcome) (f : Trail → Outcome) (b : Bool) (hf : ∀ u, (f u).isMatched = b) :
        (o.orElse f).isMatched = (o.isMatched || b) := by
      cases o with
      | matched u => rfl
      | failed u => exact hf u
    unfold greedyLoop
    rw [if_neg (Nat.not_lt_zero count), if_pos hmay]
    dsimp only
    rw [horElse _ _ _ fun u => hend _, Bool.or_eq_true, clearFrom_iff, or_comm]
    refine or_congr Iff.rfl ?_
    cases hpasses : passes meets p with
    | false => simp [hfails p (t.visit p) _ ht hpasses]
    | true =>
      obtain ⟨u, hu, hround⟩ := hreads p (t.visit p)
        (greedyLoop each 0 none k fuel (count + 1) (some p.position)) ht hpasses
      rw [hround]
      unfold passes at hpasses
      cases hafter : p.after with
      | nil => simp [hafter] at hpasses
      | cons c rest =>
        simp only [true_and]
        refine ih hu ?_ ?_
        · rw [Place.after_forward hafter]
          rw [hafter, List.length_cons] at hfuel
          omega
        · rw [Place.position_forward hafter]
          simp

section Contrary

variable {body : List Piece} {meets : Place → Bool}
  (hmeets : ∀ p (t : Trail), t.IsOuter →
    ((nodeOfPieces body).run true none p (t.visit p) Outcome.stop).isMatched = meets p)
include hmeets

theorem run_notAhead {p : Place} {t : Trail} (ht : t.IsOuter) (next : Option CharTest)
    (k : Continuation) :
    (meets p = false → ∃ u : Trail, u.IsOuter ∧ (notAhead body).run true next p t k = k p u) ∧
      (meets p = true → ((notAhead body).run true next p t k).isMatched = false) := by
  have hbody := hmeets p t ht
  cases body with
  | nil =>
    have hmatch : meets p = true := hbody.symm
    exact ⟨fun hnone => absurd (hmatch.symm.trans hnone) (by decide), fun _ => rfl⟩
  | cons piece rest =>
    rw [← hbody]
    simp only [notAhead, List.isEmpty_cons, Bool.false_eq_true, if_false, Node.run]
    generalize (nodeOfPieces (piece :: rest)).run _ _ _ _ _ = o
    cases o with
    | matched u => exact ⟨fun hnone => (by cases hnone), fun _ => rfl⟩
    | failed u => exact ⟨fun _ => ⟨u.restore true t.marks, ht, rfl⟩, fun hsome => (by cases hsome)⟩

/-- A round of the repeated group reads one character of the line where nothing is met. -/
theorem run_round {p : Place} {t : Trail} (ht : t.IsOuter) (k : Continuation) :
    (passes meets p = true → ∃ u : Trail, u.IsOuter ∧
      (Node.capture 1 (.seq (notAhead body) (.one .notLineEnd))).run true none p t k
        = k p.forward u) ∧
    (passes meets p = false →
      ((Node.capture 1 (.seq (notAhead body) (.one .notLineEnd))).run true none p t k).isMatched
        = false) := by
  obtain ⟨hpass, hmet⟩ := run_notAhead hmeets (p := p) (ht.enter p)
    ((Node.one .notLineEnd).firstTest? none) fun q u => (Node.one .notLineEnd).run true none q u
      fun q u => k q (u.leave 1 q)
  have haccepts (c : Char) : CharTest.notLineEnd.accepts c = (c != '\n') := rfl
  simp only [Node.run, haccepts] at hpass hmet ⊢
  unfold passes
  cases hmeet : meets p with
  | true => exact ⟨fun hpasses => (by cases hpasses), fun _ => hmet hmeet⟩
  | false =>
    obtain ⟨u, hu, hrun⟩ := hpass hmeet
    rw [hrun]
    cases p.after with
    | nil => exact ⟨fun hpasses => (by cases hpasses), fun _ => rfl⟩
    | cons c rest =>
      cases hc : c != '\n' with
      | true => exact ⟨fun _ => ⟨_, hu.leave p.forward, by simp [hc]⟩, by simp [hc]⟩
      | false => exact ⟨by simp [hc], fun _ => by simp [hc, Outcome.isMatched]⟩

theorem matchesAt_unfoundRoot (p : Place) :
    (unfoundRoot body).matchesAt p = true ↔ p.before = [] ∧ ClearFrom meets p := by
  rw [Node.matchesAt_eq, unfoundRoot]
  simp only [Node.run]
  cases hstart : Anchor.textStart.holds p with
  | false =>
    have hbefore : p.before ≠ [] := by simpa [Anchor.holds] using hstart
    simp [Outcome.isMatched, hbefore]
  | true =>
    have hbefore : p.before = [] := by simpa [Anchor.holds] using hstart
    simp only [if_true, hbefore, true_and]
    refine isMatched_greedyLoop (fun p t k ht => (run_round hmeets ht k).1)
      (fun p t k ht => (run_round hmeets ht k).2) (fun p t => ?_) (Nat.zero_le 2) ?_ (by simp)
    · cases Anchor.beforeFinal.holds p <;> rfl
    · unfold roundsFrom
      omega

omit hmeets in
theorem eq_zero_of_before {text : String} {i : Nat} (hi : i ≤ text.length)
    (hbefore : (placeIn text i).before = []) : i = 0 := by
  rw [← position_placeIn hi, Place.position_eq, hbefore]
  rfl

theorem search_unfoundRoot {n : Regex} (hroot : n.root = unfoundRoot body) (hleast : n.least = 0)
    (text : String) : search n text = true ↔ ClearFrom meets (.start text.toList) := by
  have hstarts : furtherStarts? n.root n.least text.length = some text.length := by
    simp [furtherStarts?, hleast]
  unfold search
  rw [hstarts]
  dsimp only
  rw [Node.searchFrom_iff, hroot]
  constructor
  · rintro ⟨i, hi, hmatch⟩
    obtain ⟨hbefore, hclear⟩ := (matchesAt_unfoundRoot hmeets _).mp hmatch
    obtain rfl := eq_zero_of_before hi hbefore
    exact hclear
  · intro hclear
    exact ⟨0, Nat.zero_le _, (matchesAt_unfoundRoot hmeets _).mpr ⟨rfl, hclear⟩⟩

end Contrary

/-- Without references, what is enclosed meets what matches on its own. -/
theorem meets_enclosed {pieces body : List Piece} (h : EnclosedAs pieces body)
    (hfree : (nodeOfPieces pieces).refers = false) (p : Place) (t : Trail) :
    ((nodeOfPieces body).run true none p (t.visit p) Outcome.stop).isMatched
      = (nodeOfPieces pieces).matchesAt p := by
  have hbody := Node.runsAlike_enclosed hfree false true none p ⟨[], p⟩ (t.visit p) _ _ rfl .stop
  rw [← h.node hfree] at hbody
  rw [Node.matchesAt_eq]
  generalize (nodeOfPieces pieces).run _ _ _ _ _ = o at hbody
  generalize (nodeOfPieces body).run _ _ _ _ _ = o' at hbody
  cases hbody <;> rfl

/-! ## Searching for the contrary -/

theorem least_width_unfoundRoot (body : List Piece) (groups : Nat → Width) :
    ((unfoundRoot body).width groups).least = 0 := by
  have hnothing (w : Width) : (Width.plus ⟨0, 0⟩ ((w.times 0 none).plus ⟨0, 0⟩)).least ≤ 0 :=
    calc (Width.plus ⟨0, 0⟩ ((w.times 0 none).plus ⟨0, 0⟩)).least
        ≤ 0 + ((w.times 0 none).plus ⟨0, 0⟩).least := Width.least_plus_le _ _
      _ ≤ 0 + ((w.times 0 none).least + 0) := Nat.add_le_add_left (Width.least_plus_le _ _) 0
      _ ≤ 0 + (w.least * 0 + 0) := Nat.add_le_add_left (Width.least_times_le w 0 none) 0
  exact Nat.le_zero.mp (hnothing _)

theorem compilePattern_eq_ok_iff {source : String} {given : Value} {r : Regex} :
    compilePattern source given = .ok (.regex r) ↔ compile source Reader.caseless = .ok r := by
  unfold compilePattern
  cases compile source Reader.caseless with
  | ok r' => simp
  | error problem => cases problem <;> simp

theorem found_criterion_iff {pattern : String} {r : Regex} :
    Operator.found.criterion (.text pattern) = .ok (.regex r) ↔
      compile pattern Reader.caseless = .ok r :=
  compilePattern_eq_ok_iff

theorem unfound_criterion_iff {pattern : String} {n : Regex} :
    Operator.unfound.criterion (.text pattern) = .ok (.regex n) ↔
      compile (unfoundSource pattern) Reader.caseless = .ok n :=
  compilePattern_eq_ok_iff

theorem clearFrom_start_iff {meets : Place → Bool} {text : String} (hone : '\n' ∉ text.toList) :
    ClearFrom meets (.start text.toList) ↔
      ∀ i < text.length, meets (placeIn text i) = false := by
  have hlength : text.toList.length = text.length := String.length_toList
  constructor
  · rintro ⟨line, hline, -, hclear⟩ i hi
    have htext : text.toList = line := by
      refine hline.resolve_right fun h => hone ?_
      have h : text.toList = line ++ ['\n'] := h
      rw [h]
      exact List.mem_append_right _ (List.mem_singleton_self _)
    rw [← hlength, htext] at hi
    exact hclear i hi
  · intro hnone
    exact ⟨text.toList, .inl rfl, hone, fun i hi => hnone i (hlength ▸ hi)⟩

theorem exists_compiled {source : String} {f : Regex → Bool} {b : Bool}
    (h : (compile source Reader.caseless).toOption.map f = some b) :
    ∃ r, compile source Reader.caseless = .ok r ∧ f r = b := by
  cases hr : compile source Reader.caseless with
  | error e => simp [hr, Except.toOption] at h
  | ok r =>
    rw [hr] at h
    exact ⟨r, rfl, Option.some.inj h⟩

theorem exists_criteria {pattern text : String} {b c : Bool}
    (hr : (compile pattern Reader.caseless).toOption.map (search · text) = some b)
    (hn : (compile (unfoundSource pattern) Reader.caseless).toOption.map (search · text) = some c) :
    ∃ r n, Operator.found.criterion (.text pattern) = .ok (.regex r) ∧
      Operator.unfound.criterion (.text pattern) = .ok (.regex n) ∧
      search r text = b ∧ search n text = c := by
  obtain ⟨r, hr, hb⟩ := exists_compiled hr
  obtain ⟨n, hn, hc⟩ := exists_compiled hn
  exact ⟨r, n, found_criterion_iff.mpr hr, unfound_criterion_iff.mpr hn, hb, hc⟩

end Regex
end QueryOptions
