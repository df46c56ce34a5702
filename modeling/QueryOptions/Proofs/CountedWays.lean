import QueryOptions.Proofs.Glances

/-!
# QueryOptions.Proofs.CountedWays

Repetitions of one character. The matcher counts the characters that are accepted one after the
other, and goes on after so many of them: it gives back one after the other, or takes one more at a
time. The places where it goes on are those of the ways of the repetition, in the same order
(`CharTest.matched?_runRepeated`).

What a match is to the matcher and to the ways is compared by what follows: a continuation, and a
function of the trail that says the same (`Follows`).

* `rounds_one`: the ways of the repetition, by the number of rounds;
* `matched?_giveBack`, `matched?_takeMore`: where the matcher goes on.
-/

namespace QueryOptions
namespace Regex

def Outcome.matched? : Outcome → Option Trail
  | .matched t => some t
  | .failed _ => none

/-- What is done with a place, as a function of the trail that ends there. -/
def Follows (k : Continuation) (after : Trail → Option Trail) : Prop :=
  ∀ p t, (k p t).matched? = after (t.visit p)

/-- What follows does not match where the test that it begins with fails. -/
def BeginsWith (next : Option CharTest) (after : Trail → Option Trail) : Prop :=
  ∀ test, next = some test → ∀ u : Trail, test.rejects u.place.after = true → after u = none

namespace Outcome

theorem matched?_orElse {o : Outcome} {f : Trail → Outcome} {x : Option Trail}
    (h : ∀ u, o = .failed u → (f u).matched? = x) :
    (o.orElse f).matched? = o.matched?.or x := by
  cases o with
  | matched t => rfl
  | failed u => exact h u rfl

theorem matched?_failingAt (o : Outcome) (p : Place) :
    (o.failingAt p).matched? = o.matched? := by
  cases o <;> rfl

end Outcome

/-! ## Counting -/

namespace CharTest

variable {test : CharTest}

@[simp] theorem count_nil (most : Option Nat) : test.count most [] = 0 := by
  cases most <;> simp [count]

/-- One more character is counted if the limit is not reached. -/
theorem count_cons (most : Option Nat) (c : Char) (rest : List Char) :
    test.count most (c :: rest)
      = if test.accepts c && most != some 0 then test.count (most.map (· - 1)) rest + 1 else 0 := by
  unfold count
  cases most with
  | none => cases h : test.accepts c <;> simp [h]
  | some m =>
    cases m with
    | zero => simp
    | succ m => cases h : test.accepts c <;> simp [h]

theorem count_some (m : Nat) (cs : List Char) :
    test.count (some m) cs = min m (test.count none cs) := by
  induction cs generalizing m with
  | nil => simp
  | cons c rest ih =>
    rw [count_cons, count_cons]
    cases test.accepts c with
    | false => simp
    | true =>
      cases m with
      | zero => simp
      | succ m => simp [ih, Nat.succ_min_succ]

/-- What is counted after so many of the characters that are counted. -/
theorem count_drop {n : Nat} {cs : List Char} (h : n ≤ test.count none cs) :
    test.count none (cs.drop n) = test.count none cs - n := by
  induction n generalizing cs with
  | zero => rfl
  | succ n ih =>
    cases cs with
    | nil => simp at h
    | cons c rest =>
      rw [count_cons] at h ⊢
      cases hc : test.accepts c with
      | false => simp [hc] at h
      | true =>
        simp only [hc, Option.map_none, Bool.true_and, bne_iff_ne, ne_eq, reduceCtorEq,
          not_false_eq_true, if_true] at h ⊢
        rw [List.drop_succ_cons, ih (by omega)]
        omega

end CharTest

/-! ## Places on the way -/

namespace Place

variable {p : Place}

theorem backward_forward {c : Char} {rest : List Char} (h : p.after = c :: rest) :
    p.forward.backward = p := by
  obtain ⟨before, after, position, hposition⟩ := p
  cases h
  subst hposition
  rfl

theorem after_forwardBy (p : Place) (n : Nat) : (p.forwardBy n).after = p.after.drop n := by
  induction n generalizing p with
  | zero => rfl
  | succ n ih =>
    rw [forwardBy, ih]
    cases hafter : p.after with
    | nil => simp [forward, hafter]
    | cons c rest => rw [after_forward hafter, List.drop_succ_cons]

theorem forwardBy_add (p : Place) (m n : Nat) :
    (p.forwardBy m).forwardBy n = p.forwardBy (m + n) := by
  induction m generalizing p with
  | zero => rw [Nat.zero_add]; rfl
  | succ m ih => rw [forwardBy, ih, Nat.succ_add]; rfl

theorem backward_forwardBy {n : Nat} (h : n < p.after.length) :
    (p.forwardBy (n + 1)).backward = p.forwardBy n := by
  rw [← forwardBy_add p n 1]
  have hlength : 0 < (p.forwardBy n).after.length := by
    rw [after_forwardBy, List.length_drop]
    omega
  obtain ⟨c, rest, hafter⟩ := List.exists_cons_of_length_pos hlength
  exact backward_forward hafter

/-- So many places, the first of them after the least number of characters, and in which order they
are preferred. -/
def stops (p : Place) (lazily : Bool) (least number : Nat) : List Place :=
  if lazily then (List.range' least number).map p.forwardBy
  else ((List.range' least number).map p.forwardBy).reverse

theorem stops_forward (lazily : Bool) (least number : Nat) :
    p.forward.stops lazily least number = p.stops lazily (least + 1) number := by
  have hmap : (List.range' least number).map p.forward.forwardBy
      = (List.range' (least + 1) number).map p.forwardBy := by
    induction number generalizing least with
    | zero => rfl
    | succ number ih => rw [List.range'_succ, List.range'_succ, List.map_cons, ih]; rfl
  rw [stops, stops, hmap]

theorem stops_succ (lazily : Bool) (number : Nat) :
    p.stops lazily 0 (number + 1)
      = if lazily then p :: p.forward.stops lazily 0 number
        else p.forward.stops lazily 0 number ++ [p] := by
  rw [stops_forward]
  cases lazily <;> simp [stops, List.range'_succ, forwardBy]

theorem stops_forwardBy (lazily : Bool) (n least number : Nat) :
    (p.forwardBy n).stops lazily least number = p.stops lazily (n + least) number := by
  induction n generalizing p with
  | zero => rw [Nat.zero_add]; rfl
  | succ n ih => rw [forwardBy, ih, stops_forward, Nat.add_right_comm]

/-- Greedily, the last place comes first. -/
theorem stops_greedy (least number : Nat) :
    p.stops false least (number + 1)
      = p.forwardBy (least + number) :: p.stops false least number := by
  simp only [stops, Bool.false_eq_true, if_false]
  rw [List.range'_1_concat, List.map_append, List.reverse_append]
  rfl

theorem stops_one (lazily : Bool) : p.stops lazily 0 1 = [p] := by cases lazily <;> rfl

end Place

/-! ## Rounds of one character -/

section Rounds

variable {test : CharTest} {t : Trail}

theorem ways_one_of_rejects (h : test.rejects t.place.after = true) :
    (Node.one test).ways t = [] := by
  simp only [Node.ways]
  split
  · rfl
  · rename_i c rest hafter
    have hrejects : test.accepts c = false := by simpa [CharTest.rejects, hafter] using h
    rw [hrejects]
    rfl

theorem ways_one_of_accepts {c : Char} {rest : List Char} (hafter : t.place.after = c :: rest)
    (h : test.accepts c = true) : (Node.one test).ways t = [t.visit t.place.forward] := by
  simp [Node.ways, hafter, h]

theorem count_of_rejects {most : Option Nat} {after : List Char} (h : test.rejects after = true) :
    test.count most after = 0 := by
  cases after with
  | nil => exact CharTest.count_nil most
  | cons c rest =>
    have hrejects : test.accepts c = false := by simpa [CharTest.rejects] using h
    simp [CharTest.count_cons, hrejects]

variable {least : Nat} {most : Option Nat} (hbounds : ∀ m, most = some m → least ≤ m)
include hbounds

theorem count_of_lt {count : Nat} (hcount : count < least) {c : Char} (rest : List Char)
    (h : test.accepts c = true) :
    test.count (most.map (· - count)) (c :: rest)
      = test.count (most.map (· - (count + 1))) rest + 1 := by
  cases most with
  | none => simp [CharTest.count_cons, h]
  | some m =>
    have hlt : ¬m - count = 0 := by have := hbounds m rfl; omega
    simp [CharTest.count_cons, h, hlt, Nat.sub_sub]

omit hbounds in
theorem count_of_mayRepeat {count : Nat} {last : Option Nat} {p : Place} {c : Char}
    (rest : List Char) (h : test.accepts c = true)
    (hlast : ∀ start, last = some start → start < p.position) :
    test.count (most.map (· - count)) (c :: rest)
      = if mayRepeat most count last p then test.count (most.map (· - (count + 1))) rest + 1
        else 0 := by
  have hnew : last ≠ some p.position := fun h => Nat.lt_irrefl _ (hlast _ h)
  cases most with
  | none => simp [CharTest.count_cons, mayRepeat, h, hnew]
  | some m =>
    by_cases hlt : count < m
    · have hne : ¬m - count = 0 := by omega
      simp [CharTest.count_cons, mayRepeat, h, hnew, hlt, hne, Nat.sub_sub]
    · have heq : m - count = 0 := by omega
      simp [CharTest.count_cons, mayRepeat, h, hlt, heq]

omit hbounds in
/-- Where the test fails no round begins: there is one stop if the least number has been reached. -/
theorem rounds_one_of_rejects (lazily : Bool) (fuel count : Nat) (last : Option Nat)
    (h : test.rejects t.place.after = true) :
    rounds (Node.one test).ways lazily least most (fuel + 1) count last t
      = (t.place.stops lazily (least - count)
          (test.count (most.map (· - count)) t.place.after + 1 - (least - count))).map t.visit := by
  have hhere : t.visit t.place = t := rfl
  unfold rounds
  rw [ways_one_of_rejects h, count_of_rejects h]
  split
  · rename_i hcount
    have hnumber : 0 + 1 - (least - count) = 0 := by omega
    rw [hnumber]
    cases lazily <;> rfl
  · rename_i hcount
    have hleast : least - count = 0 := by omega
    rw [hleast, Place.stops_one]
    cases lazily <;> simp [hhere]

/-- Rounds of one character stop after each number of characters between the bounds, as long as
these are accepted. -/
theorem rounds_one (lazily : Bool) {fuel count : Nat} {last : Option Nat}
    (hfuel : t.place.after.length < fuel)
    (hlast : ∀ start, last = some start → start < t.place.position) :
    rounds (Node.one test).ways lazily least most fuel count last t
      = (t.place.stops lazily (least - count)
          (test.count (most.map (· - count)) t.place.after + 1 - (least - count))).map t.visit := by
  induction fuel generalizing count last t with
  | zero => omega
  | succ fuel ih =>
    cases hrejects : test.rejects t.place.after with
    | true => exact rounds_one_of_rejects lazily fuel count last hrejects
    | false =>
      obtain ⟨c, rest, hafter, haccepts⟩ :
          ∃ c rest, t.place.after = c :: rest ∧ test.accepts c = true := by
        cases hafter : t.place.after with
        | nil => simp [CharTest.rejects, hafter] at hrejects
        | cons c rest => exact ⟨c, rest, rfl, by simpa [CharTest.rejects, hafter] using hrejects⟩
      have hposition : t.place.forward.position = t.place.position + 1 :=
        Place.position_forward hafter
      have hrest : (t.visit t.place.forward).place.after = rest := Place.after_forward hafter
      have hfuel' : (t.visit t.place.forward).place.after.length < fuel := by
        rw [hrest]
        rw [hafter, List.length_cons] at hfuel
        omega
      unfold rounds
      rw [ways_one_of_accepts hafter haccepts]
      simp only [List.flatMap_singleton]
      split
      · rename_i hcount
        have hstep : least - count = least - (count + 1) + 1 := by omega
        rw [ih hfuel' fun start hstart => by
          have := hlast start hstart
          show start < t.place.forward.position
          omega]
        rw [hrest, hafter, count_of_lt hbounds hcount rest haccepts, hstep, Nat.add_sub_add_right,
          ← Place.stops_forward]
        rfl
      · rename_i hcount
        have hleast : least - count = 0 := by omega
        have hleast' : least - (count + 1) = 0 := by omega
        rw [hafter, count_of_mayRepeat rest haccepts hlast, hleast]
        split
        · rw [ih hfuel' fun start hstart => by
            cases hstart
            show t.place.position < t.place.forward.position
            omega]
          rw [hrest, hleast', Nat.sub_zero, Nat.sub_zero, Place.stops_succ (p := t.place)]
          cases lazily with
          | false =>
            rw [if_neg Bool.false_ne_true, if_neg Bool.false_ne_true, List.map_append]
            rfl
          | true => rfl
        · rw [Place.stops_one]
          rfl

end Rounds

/-! ## What the matcher tries -/

theorem findSome?_cons_or {α β : Type} (f : α → Option β) (a : α) (l : List α) :
    (a :: l).findSome? f = (f a).or (l.findSome? f) := by
  rw [List.findSome?_cons]
  cases f a <;> rfl

section Counted

variable {k : Continuation} {after : Trail → Option Trail} (hk : Follows k after)
include hk

/-- What follows is tried at a place unless the place is barred. Where it fails it leaves the marks
from before it. -/
theorem matched?_unlessBarred {next : Option CharTest} (hnext : BeginsWith next after) (q : Place)
    {t u : Trail} (hu : u.marks = t.marks) {o : Outcome}
    (ho : o = if isBarred next q then .failed u
      else (k q (u.visit q)).orElse fun u => .failed (u.restore true t.marks)) :
    o.matched? = after (t.visit q) ∧ ∀ v, o = .failed v → v.marks = t.marks := by
  have hvisit : u.visit q = t.visit q := by rw [Trail.visit, Trail.visit, hu]
  subst ho
  split
  · rename_i hbarred
    obtain ⟨test, hnext', hrejects⟩ := rejects_of_isBarred hbarred
    refine ⟨(hnext test hnext' (t.visit q) hrejects).symm, fun v hv => ?_⟩
    cases hv
    exact hu
  · have hmatched := hk q (t.visit q)
    rw [hvisit]
    cases hkq : k q (t.visit q) with
    | matched v =>
      rw [hkq] at hmatched
      exact ⟨hmatched, fun v hv => by cases hv⟩
    | failed v =>
      rw [hkq] at hmatched
      refine ⟨hmatched, fun v hv => ?_⟩
      cases hv
      rfl

theorem matched?_giveBack {next : Option CharTest} (hnext : BeginsWith next after) (p : Place)
    {least extra : Nat} (hlength : least + extra ≤ p.after.length) (t : Trail) :
    (giveBack true next k t.marks extra (p.forwardBy (least + extra)) t).matched?
      = ((p.stops false least (extra + 1)).map t.visit).findSome? after := by
  -- What fails on the way leaves the marks as they were.
  suffices h : ∀ u : Trail, u.marks = t.marks →
      (giveBack true next k t.marks extra (p.forwardBy (least + extra)) u).matched?
        = ((p.stops false least (extra + 1)).map t.visit).findSome? after from h t rfl
  induction extra with
  | zero =>
    intro u hu
    unfold giveBack
    rw [(matched?_unlessBarred hk hnext _ hu rfl).1]
    cases h : after (t.visit (p.forwardBy least)) <;> simp [Place.stops, h]
  | succ extra ih =>
    intro u hu
    obtain ⟨hmatched, hfailed⟩ :=
      matched?_unlessBarred hk hnext (p.forwardBy (least + (extra + 1))) hu rfl
    have hlt : least + extra < p.after.length := by omega
    have hback : (p.forwardBy (least + (extra + 1))).backward = p.forwardBy (least + extra) :=
      Place.backward_forwardBy hlt
    unfold giveBack
    dsimp only
    rw [Outcome.matched?_orElse fun v hv => (hback ▸ ih (by omega)) v (hfailed v hv), hmatched]
    conv_rhs => rw [Place.stops_greedy, List.map_cons, findSome?_cons_or]

theorem matched?_takeMore (test : CharTest) {cs : List Char} (extra : Option Nat) {p : Place}
    (hcs : p.after = cs) (t : Trail) :
    (takeMore true test k t.marks cs extra p t).matched?
      = ((p.stops true 0 (test.count extra cs + 1)).map t.visit).findSome? after := by
  suffices h : ∀ u : Trail, u.marks = t.marks →
      (takeMore true test k t.marks cs extra p u).matched?
        = ((p.stops true 0 (test.count extra cs + 1)).map t.visit).findSome? after from h t rfl
  have hhere (p : Place) (u : Trail) (hu : u.marks = t.marks) :
      (k p (u.visit p)).matched? = after (t.visit p) := by
    rw [hk]
    exact congrArg (fun marks => after ⟨marks, p⟩) hu
  induction cs generalizing extra p with
  | nil =>
    intro u hu
    unfold takeMore
    refine (Outcome.matched?_orElse (x := none) fun v _ => rfl).trans ?_
    rw [hhere p u hu, CharTest.count_nil, Place.stops_one]
    cases h : after (t.visit p) <;> simp [h]
  | cons c rest ih =>
    intro u hu
    unfold takeMore
    by_cases hmore : (test.accepts c && extra != some 0) = true
    · refine (Outcome.matched?_orElse (x := ((p.forward.stops true 0
        (test.count (extra.map (· - 1)) rest + 1)).map t.visit).findSome? after)
        fun v _ => ?_).trans ?_
      · dsimp only
        rw [if_pos hmore]
        exact ih _ (Place.after_forward hcs) _ rfl
      · rw [hhere p u hu, CharTest.count_cons, if_pos hmore]
        conv_rhs => rw [Place.stops_succ, if_pos rfl, List.map_cons, findSome?_cons_or]
    · refine (Outcome.matched?_orElse (x := none) fun v _ => ?_).trans ?_
      · dsimp only
        rw [if_neg hmore]
        rfl
      · rw [hhere p u hu, CharTest.count_cons, if_neg hmore, Place.stops_one]
        cases h : after (t.visit p) <;> simp [h]

omit hk

section Bounds

variable {test : CharTest} {least : Nat} {most : Option Nat}
  (hbounds : ∀ m, most = some m → least ≤ m)
include hbounds

theorem ways_repeated_one (appetite : Appetite) (t : Trail) :
    (Node.repeated appetite least most (.one test)).ways t
      = let all := (t.place.stops (appetite == .lazy) least
          (test.count most t.place.after + 1 - least)).map t.visit
        if appetite = .possessive then all.take 1 else all := by
  have hfuel : t.place.after.length < roundsFrom least t.place := by
    unfold roundsFrom
    omega
  have hnone : most.map (· - 0) = most := by cases most <;> rfl
  have hways : (Node.repeated appetite least most (.one test)).ways t
      = let all := rounds (Node.one test).ways (appetite == .lazy) least most
          (roundsFrom least t.place) 0 none t
        if appetite = .possessive then all.take 1 else all := rfl
  have hstart : ∀ start, (none : Option Nat) = some start → start < t.place.position := by simp
  rw [hways, rounds_one hbounds _ hfuel hstart, Nat.sub_zero, hnone]

omit test in
theorem count_eq_min (test : CharTest) (cs : List Char) :
    ∃ limit, least ≤ limit ∧ test.count most cs = min limit (test.count none cs) := by
  cases most with
  | none =>
    exact ⟨max least (test.count none cs), Nat.le_max_left _ _, by omega⟩
  | some m => exact ⟨m, hbounds m rfl, test.count_some m cs⟩

/-- What is counted after the least number of characters. -/
theorem count_after_least {p : Place} (h : least ≤ test.count none p.after) :
    least + test.count (most.map (· - least)) (p.forwardBy least).after
      = test.count most p.after := by
  rw [Place.after_forwardBy]
  cases most with
  | none =>
    rw [Option.map_none, CharTest.count_drop h]
    omega
  | some m =>
    have := hbounds m rfl
    rw [Option.map_some, CharTest.count_some, CharTest.count_some, CharTest.count_drop h]
    omega

/-- A repetition of one character goes on where its ways end, and in their order. -/
theorem CharTest.matched?_runRepeated (appetite : Appetite) {next : Option CharTest}
    (hk : Follows k after) (hnext : BeginsWith next after) (p : Place) (t : Trail) :
    (test.runRepeated appetite least most true next p t k).matched?
      = ((Node.repeated appetite least most (.one test)).ways (t.visit p)).findSome? after := by
  have hlength := test.count_le most p.after
  obtain ⟨limit, hlimit, hcount⟩ := count_eq_min hbounds test p.after
  have hleast := test.count_some least p.after
  have hplace : (t.visit p).place = p := rfl
  have hnone (lazily : Bool) (h : test.count most p.after < least) :
      p.stops lazily least (test.count most p.after + 1 - least) = [] := by
    have hnumber : test.count most p.after + 1 - least = 0 := by omega
    rw [hnumber]
    cases lazily <;> rfl
  rw [ways_repeated_one hbounds, hplace]
  unfold runRepeated
  split
  · rw [hnone _ (by omega)]
    cases appetite <;> rfl
  · cases appetite with
    | greedy =>
      dsimp only
      split
      · rename_i hfew
        rw [hnone _ hfew]
        rfl
      · rename_i hmany
        have hextra : least + (test.count most p.after - least) = test.count most p.after := by
          omega
        have hgiven := matched?_giveBack hk hnext p (hextra ▸ hlength)
          (test.counted p (test.count most p.after) t)
        have hnumber : test.count most p.after - least + 1
            = test.count most p.after + 1 - least := by omega
        rw [hextra, hnumber] at hgiven
        exact hgiven
    | lazy =>
      dsimp only
      split
      · rename_i hfew
        rw [hnone _ (by omega)]
        rfl
      · rename_i hmany
        have hall : test.count (some least) p.after = least := by omega
        have hreached : least ≤ test.count none p.after := by omega
        have hrest := count_after_least hbounds hreached
        rw [hall]
        have htaken := matched?_takeMore hk test (most.map (· - least))
          (Eq.refl (p.forwardBy least).after) (test.counted p least t)
        have hnumber : test.count (most.map (· - least)) (p.forwardBy least).after + 1
            = test.count most p.after + 1 - least := by omega
        rw [Place.stops_forwardBy, Nat.add_zero, hnumber] at htaken
        exact htaken
    | possessive =>
      dsimp only
      split
      · rename_i hfew
        rw [hnone _ hfew]
        rfl
      · rename_i hmany
        have hnumber : test.count most p.after + 1 - least
            = test.count most p.after - least + 1 := by omega
        have hextra : least + (test.count most p.after - least) = test.count most p.after := by
          omega
        rw [hnumber, show (Appetite.possessive == Appetite.lazy) = false from rfl,
          Place.stops_greedy, hextra, hk, if_pos rfl]
        simp only [List.map_cons, List.take_succ_cons, List.take_zero, List.findSome?_singleton]
        rfl

end Bounds

end Counted

end Regex
end QueryOptions
