import QueryOptions.Proofs.CountedWays

/-!
# QueryOptions.Proofs.FirstWay

Inside of a repetition, the matcher finds the first way that what follows goes on from. There it
takes back the marks of what it has tried without success, so that nothing is left of a failed
attempt but the place. Possessive repetitions look at that place if they repeat more than one
character; the matcher and the documentation differ there, and only there (`Node.isPlain`).

* `greedyLoop_runsThrough`, `lazyLoop_runsThrough`: going round;
* `Node.matched?_one`, `Node.matched?_firstAlternative`, …: one lemma for each kind of node;
* `Node.matched?_run`: running a node is going through its ways.
-/

namespace QueryOptions
namespace Regex

/-- What is tried at a place goes through the ways from there until what follows matches. -/
def RunsThrough (each : Place → Trail → Continuation → Outcome) (ways : Trail → List Trail) :
    Prop :=
  ∀ p t k after, Follows k after →
    (each p t k).matched? = ((ways (t.visit p)).findSome? after)

namespace Trail

theorem enter_visit (t : Trail) (index : Nat) (p q : Place) :
    (t.visit q).enter index p = (t.enter index p).visit q := by
  unfold enter mark visit
  split <;> rfl

theorem leave_visit (t : Trail) (index : Nat) (p q : Place) :
    (t.visit q).leave index p = (t.leave index p).visit q := by
  unfold leave mark visit
  split <;> rfl

end Trail

theorem findSome?_flatMap {α β γ : Type} (l : List α) (f : α → List β) (g : β → Option γ) :
    (l.flatMap f).findSome? g = l.findSome? fun a => (f a).findSome? g := by
  induction l with
  | nil => rfl
  | cons a l ih => rw [List.flatMap_cons, List.findSome?_append, ih, findSome?_cons_or]

/-! ## Going round -/

section Loops

variable {each : Place → Trail → Continuation → Outcome} {ways : Trail → List Trail}
  (heach : RunsThrough each ways) {k : Continuation} {after : Trail → Option Trail}
  (hk : Follows k after) {least : Nat} {most : Option Nat}
include heach hk

theorem greedyLoop_runsThrough (fuel count : Nat) (last : Option Nat) :
    Follows (greedyLoop each least most k fuel count last)
      fun t => (rounds ways false least most fuel count last t).findSome? after := by
  induction fuel generalizing count last with
  | zero => exact fun p t => rfl
  | succ fuel ih =>
    intro p t
    have hagain (count : Nat) (last : Option Nat) :
        (each p (t.visit p) (greedyLoop each least most k fuel count last)).matched?
          = ((ways (t.visit p)).flatMap
            (rounds ways false least most fuel count last)).findSome? after := by
      rw [findSome?_flatMap]
      exact heach p (t.visit p) _ _ (ih count last)
    have hplace : (t.visit p).place = p := rfl
    unfold greedyLoop rounds
    beta_reduce
    rw [hplace]
    split
    · rw [Outcome.matched?_failingAt, hagain]
    · split
      · refine (Outcome.matched?_orElse (x := after (t.visit p)) fun u _ => ?_).trans ?_
        · rw [Outcome.matched?_failingAt, hk]
          rfl
        · rw [hagain]
          simp only [Bool.false_eq_true, if_false, List.findSome?_append, List.findSome?_singleton]
      · rw [Outcome.matched?_failingAt, hk, List.findSome?_singleton]
        rfl

theorem lazyLoop_runsThrough (fuel count : Nat) (last : Option Nat) :
    Follows (lazyLoop true each least most k fuel count last)
      fun t => (rounds ways true least most fuel count last t).findSome? after := by
  induction fuel generalizing count last with
  | zero => exact fun p t => rfl
  | succ fuel ih =>
    intro p t
    have hagain (count : Nat) (last : Option Nat) :
        (each p (t.visit p) (lazyLoop true each least most k fuel count last)).matched?
          = ((ways (t.visit p)).flatMap
            (rounds ways true least most fuel count last)).findSome? after := by
      rw [findSome?_flatMap]
      exact heach p (t.visit p) _ _ (ih count last)
    have hplace : (t.visit p).place = p := rfl
    unfold lazyLoop rounds
    beta_reduce
    rw [hplace]
    split
    · rw [Outcome.matched?_failingAt, hagain]
    · split
      · refine (Outcome.matched?_orElse (x := ((ways (t.visit p)).flatMap
          (rounds ways true least most fuel (count + 1) (some p.position))).findSome? after)
          fun u _ => ?_).trans ?_
        · dsimp only
          rw [Outcome.matched?_failingAt]
          exact hagain _ _
        · rw [hk, if_pos rfl, findSome?_cons_or]
          rfl
      · refine (Outcome.matched?_orElse (x := none) fun u _ => rfl).trans ?_
        rw [hk, List.findSome?_singleton, Option.or_none]
        rfl

end Loops

/-! ## Nodes -/

namespace Node

/-- Whether a node repeats nothing but single characters possessively, and whether the bounds of its
repetitions are in order. -/
def isPlain : Node → Bool
  | .seq a b => a.isPlain && b.isPlain
  | .alt a b => a.isPlain && b.isPlain
  | .capture _ body => body.isPlain
  | .repeated _ least most (.one _) => most.all (least ≤ ·)
  | .repeated appetite _ _ body => appetite != .possessive && body.isPlain
  | .atomic body => body.isPlain
  | .ahead _ body => body.isPlain
  | .behind _ _ body => body.isPlain
  | .whether _ yes no => yes.isPlain && no.isPlain
  | _ => true

theorem isPlain_repeated {body : Node} (h : ∀ test, body ≠ .one test) {appetite : Appetite}
    {least : Nat} {most : Option Nat}
    (hplain : (repeated appetite least most body).isPlain = true) :
    appetite ≠ .possessive ∧ body.isPlain = true := by
  cases body with
  | one test => exact absurd rfl (h test)
  | _ => simpa [isPlain] using hplain

/-- What follows a node begins with the test that the node leaves to it. -/
theorem beginsWith_firstTest? (n : Node) {next : Option CharTest} {after : Trail → Option Trail}
    (h : BeginsWith next after) :
    BeginsWith (n.firstTest? next) fun t => (n.ways t).findSome? after := by
  intro test hfirst t hrejects
  dsimp only
  rcases ways_of_rejects hfirst hrejects with hnone | ⟨hnext, hone⟩
  · rw [hnone]
    rfl
  · rw [hone, List.findSome?_singleton]
    exact h test hnext t hrejects

theorem beginsWith_none (after : Trail → Option Trail) : BeginsWith none after := nofun

theorem follows_stop : Follows Outcome.stop some := fun _ _ => rfl

/-- What is matched for good is the first way. -/
theorem matched?_stop {body : Node} {repeating : Bool}
    (h : RunsThrough (body.run repeating none) body.ways) (p : Place) (t : Trail) :
    (body.run repeating none p t Outcome.stop).matched? = (body.ways (t.visit p)).head? := by
  rw [h p t _ _ follows_stop, ← List.head?_filterMap, List.filterMap_some]

section Parts

variable {k : Continuation} {after : Trail → Option Trail} (hk : Follows k after) {body : Node}
  (hbody : RunsThrough (body.run true none) body.ways) (p : Place) (t : Trail)
include hk hbody

theorem matched?_loops (hmany : ∀ test, body ≠ .one test) {appetite : Appetite}
    (happetite : appetite ≠ .possessive) (least : Nat) (most : Option Nat)
    (next : Option CharTest) :
    ((repeated appetite least most body).run true next p t k).matched?
      = ((repeated appetite least most body).ways (t.visit p)).findSome? after := by
  have hplace : (t.visit p).place = p := rfl
  rw [run_repeated hmany, ways, if_neg happetite, hplace]
  cases appetite with
  | greedy => exact greedyLoop_runsThrough hbody hk _ 0 none p t
  | lazy => exact lazyLoop_runsThrough hbody hk _ 0 none p t
  | possessive => exact absurd rfl happetite

theorem matched?_atomic (next : Option CharTest) :
    ((atomic body).run true next p t k).matched?
      = ((atomic body).ways (t.visit p)).findSome? after := by
  have hfirst := matched?_stop hbody p (t.visit p)
  have hvisit : (t.visit p).visit p = t.visit p := rfl
  rw [hvisit] at hfirst
  simp only [run, ways]
  cases hrun : body.run true none p (t.visit p) Outcome.stop with
  | failed u =>
    rw [hrun] at hfirst
    rw [List.head?_eq_none_iff.mp hfirst.symm]
    rfl
  | matched u =>
    rw [hrun] at hfirst
    obtain ⟨others, hways⟩ := List.head?_eq_some_iff.mp hfirst.symm
    rw [hways, List.take_succ_cons, List.take_zero, List.findSome?_singleton]
    exact hk u.place u

omit hbody hk in
theorem run_ahead (negated repeating : Bool) (next : Option CharTest) :
    (ahead negated body).run repeating next p t k
      = match body.run repeating none p (t.visit p) Outcome.stop with
        | .matched u => if negated then .failed u else k p u
        | .failed u => if negated then k p (u.restore repeating t.marks) else .failed u := by
  cases negated <;> simp only [run]
  all_goals cases body.run repeating none p (t.visit p) Outcome.stop <;> rfl

/-- What is found, or not found, decides whether what follows is tried. -/
theorem matched?_looking {q : Place} (negated : Bool) :
    (match body.run true none q (t.visit q) Outcome.stop with
      | .matched u => if negated then Outcome.failed u else k p u
      | .failed u => if negated then k p (u.restore true t.marks) else .failed u).matched?
      = ((t.visit p).looking negated (body.ways (t.visit q))).findSome? after := by
  have hfirst := matched?_stop hbody q (t.visit q)
  have hvisit : (t.visit q).visit q = t.visit q := rfl
  rw [hvisit] at hfirst
  cases hrun : body.run true none q (t.visit q) Outcome.stop with
  | failed u =>
    rw [hrun] at hfirst
    rw [List.head?_eq_none_iff.mp hfirst.symm]
    cases negated with
    | false => rfl
    | true =>
      have hkept := hk p (u.restore true t.marks)
      simp only [if_true, Trail.looking, List.findSome?_singleton]
      exact hkept
  | matched u =>
    rw [hrun] at hfirst
    obtain ⟨others, hways⟩ := List.head?_eq_some_iff.mp hfirst.symm
    rw [hways]
    cases negated with
    | false =>
      simp only [Bool.false_eq_true, if_false, Trail.looking, List.findSome?_singleton]
      exact hk p u
    | true => rfl

theorem matched?_behind (negated : Bool) (width : Width) (next : Option CharTest) :
    ((behind negated width body).run true next p t k).matched?
      = ((behind negated width body).ways (t.visit p)).findSome? after := by
  have hplace : (t.visit p).place = p := rfl
  rw [run, ways, hplace]
  split
  · cases negated with
    | false => rfl
    | true => rw [Trail.looking, if_pos rfl, if_pos rfl, List.findSome?_singleton, hk]
  · exact matched?_looking hk hbody p t negated

/-- The first alternative goes through its ways. Where it fails, or cannot match what comes next, it
leaves the marks from before it. -/
theorem matched?_firstAlternative {o : Outcome}
    (ho : o = if ((body.firstTest? none).map fun test => test.rulesOut p.after).getD false then
        .failed t
      else (body.run true none p (t.visit p) k).orElse fun u => .failed (u.restore true t.marks)) :
    o.matched? = (body.ways (t.visit p)).findSome? after ∧
      ∀ u, o = .failed u → u.visit p = t.visit p := by
  subst ho
  split
  · rename_i hruled
    refine ⟨?_, fun u hu => by cases hu; rfl⟩
    obtain ⟨test, hfirst, hout⟩ : ∃ test, body.firstTest? none = some test ∧
        test.rulesOut p.after = true := by
      cases hfirst : body.firstTest? none with
      | none => simp [hfirst] at hruled
      | some test => exact ⟨test, rfl, by simpa [hfirst] using hruled⟩
    have hrejects := CharTest.rejects_of_rulesOut hout
    rcases ways_of_rejects (t := t.visit p) hfirst hrejects with hnone | ⟨hnone, -⟩
    · rw [hnone]
      rfl
    · cases hnone
  · have hway := hbody p (t.visit p) k after hk
    cases hrun : body.run true none p (t.visit p) k with
    | matched v =>
      rw [hrun] at hway
      exact ⟨hway, fun u hu => by cases hu⟩
    | failed v =>
      rw [hrun] at hway
      exact ⟨hway, fun u hu => by cases hu; rfl⟩

omit hbody in
theorem matched?_one (test : CharTest) (next : Option CharTest) :
    ((one test).run true next p t k).matched?
      = ((one test).ways (t.visit p)).findSome? after := by
  have hplace : (t.visit p).place = p := rfl
  rw [run]
  cases hafter : p.after with
  | nil =>
    rw [ways_one_of_rejects (by simp [CharTest.rejects, hplace, hafter])]
    rfl
  | cons c rest =>
    dsimp only
    split
    · rename_i haccepts
      rw [ways_one_of_accepts (hplace.symm ▸ hafter) haccepts, List.findSome?_singleton, hk]
      rfl
    · rename_i hrejects
      rw [ways_one_of_rejects (by simpa [CharTest.rejects, hplace, hafter] using hrejects)]
      rfl

omit hbody in
theorem matched?_back (index : Nat) (fold : Fold) (next : Option CharTest) :
    ((back index fold).run true next p t k).matched?
      = ((back index fold).ways (t.visit p)).findSome? after := by
  have hplace : (t.visit p).place = p := rfl
  have hgroup : (t.visit p).group? index = t.group? index := rfl
  rw [run, ways, hplace, hgroup]
  cases t.group? index with
  | none => rfl
  | some span =>
    dsimp only
    cases p.skipText? fold (p.between span.1 span.2) with
    | none => rfl
    | some q =>
      rw [Option.map_some, Option.toList_some, List.findSome?_singleton]
      exact hk q t

end Parts

/-- `run` matches with the first of the `ways` that what follows goes on from. -/
theorem matched?_run {n : Node} (hplain : n.isPlain = true) {next : Option CharTest}
    {k : Continuation} {after : Trail → Option Trail} (hk : Follows k after)
    (hnext : BeginsWith next after) (p : Place) (t : Trail) :
    (n.run true next p t k).matched? = (n.ways (t.visit p)).findSome? after := by
  induction n generalizing next k after p t with
  | empty => rw [run, ways, hk, List.findSome?_singleton]
  | never => rfl
  | one test => exact matched?_one hk p t test next
  | anchor a =>
    have hplace : (t.visit p).place = p := rfl
    simp only [run, ways, hplace]
    split
    · rw [hk, List.findSome?_singleton]
    · rfl
  | seq a b iha ihb =>
    simp only [isPlain, Bool.and_eq_true] at hplain
    rw [run, ways, findSome?_flatMap]
    exact iha hplain.1 (fun q u => ihb hplain.2 hk hnext q u) (b.beginsWith_firstTest? hnext) p t
  | alt a b iha ihb =>
    simp only [isPlain, Bool.and_eq_true] at hplain
    rw [run, ways, List.findSome?_append]
    obtain ⟨hmatched, hfailed⟩ := matched?_firstAlternative hk
      (fun p t k after hk => iha hplain.1 hk (beginsWith_none after) p t) p t rfl
    refine (Outcome.matched?_orElse fun u hu => ?_).trans (by rw [hmatched])
    rw [ihb hplain.2 hk hnext p u, hfailed u hu]
  | capture index body ih =>
    have hplace : (t.visit p).place = p := rfl
    rw [run, ways, List.findSome?_map, hplace, Trail.enter_visit]
    refine ih hplain (fun q u => ?_) (beginsWith_none _) p (t.enter index p)
    rw [hk, ← Trail.leave_visit]
    rfl
  | repeated appetite least most body ih =>
    by_cases hone : ∃ test, body = .one test
    · obtain ⟨test, rfl⟩ := hone
      have hbounds (m : Nat) (hm : most = some m) : least ≤ m := by
        rw [hm] at hplain
        simpa [isPlain] using hplain
      exact CharTest.matched?_runRepeated hbounds appetite hk hnext p t
    · have hmany (test : CharTest) : body ≠ .one test := fun h => hone ⟨test, h⟩
      obtain ⟨happetite, hbody⟩ := isPlain_repeated hmany hplain
      exact matched?_loops hk (fun p t k after hk => ih hbody hk (beginsWith_none after) p t) p t
        hmany happetite least most next
  | atomic body ih =>
    exact matched?_atomic hk (fun p t k after hk => ih hplain hk (beginsWith_none after) p t) p t
      next
  | ahead negated body ih =>
    rw [run_ahead, ways]
    exact matched?_looking hk (fun p t k after hk => ih hplain hk (beginsWith_none after) p t) p t
      negated
  | behind negated width body ih =>
    exact matched?_behind hk (fun p t k after hk => ih hplain hk (beginsWith_none after) p t) p t
      negated width next
  | back index fold => exact matched?_back hk p t index fold next
  | whether index yes no ihyes ihno =>
    simp only [isPlain, Bool.and_eq_true] at hplain
    have hgroup : (t.visit p).group? index = t.group? index := rfl
    rw [run, ways, hgroup]
    cases t.group? index with
    | none => exact ihno hplain.2 hk hnext p t
    | some span =>
      refine ihyes hplain.1 hk ?_ p t
      cases no.isVoid
      · exact beginsWith_none after
      · exact hnext

end Node

end Regex
end QueryOptions
