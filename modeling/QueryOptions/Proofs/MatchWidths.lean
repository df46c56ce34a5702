import QueryOptions.Proofs.Attempts

/-!
# QueryOptions.Proofs.MatchWidths

How far a match reaches. If an attempt matches, it went on at a place of the same text that is at
least as many characters later as the width of the expression says (`Outcome.Gains`). A search may
therefore leave out the places that are too close to the end.

* `Outcome.Gains.next`, `Outcome.Gains.settled`: how gains add up;
* `Node.run_gains`: the width of an expression is a lower bound;
* `exists_of_search`, `search_of_matchesAt`: a search finds something just if the expression matches
  at some place.
-/

namespace QueryOptions
namespace Regex

/-! ## Places of one text -/

namespace Place

def text (p : Place) : List Char := p.before.reverse ++ p.after

theorem text_forward (p : Place) : p.forward.text = p.text := forward_text p

theorem text_backward (p : Place) : p.backward.text = p.text := backward_text p

theorem text_forwardBy (p : Place) (n : Nat) : (p.forwardBy n).text = p.text := by
  induction n generalizing p with
  | zero => rfl
  | succ n ih => exact (ih p.forward).trans p.text_forward

theorem position_le_length (p : Place) : p.position ≤ p.text.length := by
  rw [p.position_eq, text, List.length_append, List.length_reverse]
  exact Nat.le_add_right _ _

theorem position_forward {p : Place} {c : Char} {rest : List Char} (h : p.after = c :: rest) :
    p.forward.position = p.position + 1 := by
  unfold forward
  rw [h]

theorem after_forward {p : Place} {c : Char} {rest : List Char} (h : p.after = c :: rest) :
    p.forward.after = rest := by
  unfold forward
  rw [h]

theorem position_le_forward (p : Place) : p.position ≤ p.forward.position := by
  unfold forward
  split
  · exact Nat.le_refl _
  · exact Nat.le_succ _

theorem position_le_backward (p : Place) : p.position ≤ p.backward.position + 1 := by
  unfold backward
  split
  · exact Nat.le_succ _
  · show p.position ≤ p.position - 1 + 1
    omega

theorem position_forwardBy {p : Place} {n : Nat} (h : n ≤ p.after.length) :
    (p.forwardBy n).position = p.position + n := by
  induction n generalizing p with
  | zero => rfl
  | succ n ih =>
    cases hafter : p.after with
    | nil => simp [hafter] at h
    | cons c rest =>
      have hrest : n ≤ p.forward.after.length := by
        rw [after_forward hafter]
        simpa [hafter] using h
      rw [forwardBy, ih hrest, position_forward hafter]
      omega

/-- The second place is in the same text, and at least so many characters later. -/
structure Reaches (p q : Place) (n : Nat) : Prop where
  text : q.text = p.text
  position : p.position + n ≤ q.position

namespace Reaches

variable {p q r : Place} {m n : Nat}

theorem refl (p : Place) : p.Reaches p 0 := ⟨rfl, Nat.le_refl _⟩

theorem mono (h : p.Reaches q n) (hm : m ≤ n) : p.Reaches q m :=
  ⟨h.text, Nat.le_trans (Nat.add_le_add_left hm _) h.position⟩

theorem trans (h : p.Reaches q m) (hq : q.Reaches r n) : p.Reaches r (m + n) :=
  ⟨hq.text.trans h.text, by have := h.position; have := hq.position; omega⟩

theorem forwardBy (h : n ≤ p.after.length) : p.Reaches (p.forwardBy n) n :=
  ⟨text_forwardBy p n, Nat.le_of_eq (position_forwardBy h).symm⟩

end Reaches
end Place

open Place (Reaches)

/-! ## Where a match goes on -/

/-- If an attempt matches, it went on at a place that is at least so many characters later. -/
def Outcome.Gains (o : Outcome) (p : Place) (k : Continuation) (n : Nat) : Prop :=
  ∀ u, o = .matched u → ∃ q t, k q t = .matched u ∧ p.Reaches q n

namespace Outcome.Gains

variable {o : Outcome} {p : Place} {k : Continuation} {m n : Nat}

theorem failed (t : Trail) : (Outcome.failed t).Gains p k n := nofun

theorem continued (t : Trail) : (k p t).Gains p k 0 := fun _ h => ⟨p, t, h, .refl p⟩

theorem mono (h : o.Gains p k n) (hm : m ≤ n) : o.Gains p k m := fun u hu =>
  let ⟨q, t, hq, hreach⟩ := h u hu
  ⟨q, t, hq, hreach.mono hm⟩

theorem orElse {f : Trail → Outcome} (h : o.Gains p k n) (hf : ∀ t, (f t).Gains p k n) :
    (o.orElse f).Gains p k n := by
  cases o with
  | matched t => exact h
  | failed t => exact hf t

theorem failingAt {q : Place} (h : o.Gains p k n) : (o.failingAt q).Gains p k n :=
  h.orElse fun _ => failed _

/-- An attempt that gains `m` characters and goes on to gain `n` gains `m + n`. -/
theorem next {k' : Continuation} (h : o.Gains p k' m)
    (hk : ∀ q t, (k' q t).Gains q k n) : o.Gains p k (m + n) := by
  intro u hu
  obtain ⟨q, t, hq, hreach⟩ := h u hu
  obtain ⟨r, t', hr, hreach'⟩ := hk q t u hq
  exact ⟨r, t', hr, hreach.trans hreach'⟩

/-- A part that is matched for good gains as many characters with what follows as it does alone. -/
theorem settled (h : o.Gains p stop n) : (o.andThen fun u => k u.place u).Gains p k n := by
  cases o with
  | failed t => exact failed t
  | matched t =>
    obtain ⟨q, u, hu, hreach⟩ := h t rfl
    cases hu
    exact fun v hv => ⟨q, _, hv, hreach⟩

end Outcome.Gains

open Outcome (Gains)

theorem giveBack_gains {repeating : Bool} {next : Option CharTest} {k : Continuation}
    {saved : List (Option Nat)} {p : Place} {least : Nat} (extra : Nat) {q : Place}
    (h : p.Reaches q (least + extra)) (t : Trail) :
    (giveBack repeating next k saved extra q t).Gains p k least := by
  have hhere {q : Place} (hq : p.Reaches q least) (t : Trail) :
      Gains
        (if isBarred next q then .failed t
          else (k q (t.visit q)).orElse fun u => .failed (u.restore repeating saved))
        p k least := by
    split
    · exact .failed t
    · refine Gains.orElse ?_ fun u => .failed _
      exact fun u hu => ⟨q, _, hu, hq⟩
  -- What is given back is taken from the surplus over the least number.
  induction extra generalizing q t with
  | zero => exact hhere h t
  | succ n ih =>
    refine (hhere (h.mono (Nat.le_add_right _ _)) t).orElse fun u => ih ?_ u
    have := q.position_le_backward
    exact ⟨q.text_backward.trans h.text, by have := h.position; omega⟩

theorem takeMore_gains {repeating : Bool} {test : CharTest} {k : Continuation}
    {saved : List (Option Nat)} {p : Place} {least : Nat} (after : List Char)
    (extra : Option Nat) {q : Place} (h : p.Reaches q least) (t : Trail) :
    (takeMore repeating test k saved after extra q t).Gains p k least := by
  have hhere {q : Place} (hq : p.Reaches q least) (t : Trail) :
      (k q (t.visit q)).Gains p k least := fun u hu => ⟨q, _, hu, hq⟩
  induction after generalizing extra q t with
  | nil => exact (hhere h t).orElse fun u => .failed _
  | cons c rest ih =>
    refine (hhere h t).orElse fun u => ?_
    dsimp only
    split
    · exact ih _ ⟨q.text_forward.trans h.text, Nat.le_trans h.position q.position_le_forward⟩ _
    · exact .failed _

theorem CharTest.count_le (test : CharTest) (most : Option Nat) (cs : List Char) :
    test.count most cs ≤ cs.length := by
  unfold count
  refine Nat.le_trans (List.takeWhile_prefix _).length_le ?_
  cases most with
  | none => exact Nat.le_refl _
  | some m => exact List.length_take_le' m cs

theorem runRepeated_gains (test : CharTest) (appetite : Appetite) (least : Nat)
    (most : Option Nat) (repeating : Bool) (next : Option CharTest) (p : Place) (t : Trail)
    (k : Continuation) :
    (test.runRepeated appetite least most repeating next p t k).Gains p k least := by
  unfold CharTest.runRepeated
  split
  · exact .failed t
  · cases appetite with
    | greedy =>
      dsimp only
      split
      · exact .failed _
      · rename_i hcount
        refine giveBack_gains _ ?_ _
        rw [Nat.add_sub_cancel' (Nat.le_of_not_lt hcount)]
        exact .forwardBy (test.count_le _ _)
    | lazy =>
      dsimp only
      split
      · exact .failed _
      · rename_i hcount
        exact takeMore_gains _ _
          ((Reaches.forwardBy (test.count_le _ _)).mono (Nat.le_of_not_lt hcount)) _
    | possessive =>
      dsimp only
      split
      · exact .failed _
      · rename_i hcount
        exact fun u hu =>
          ⟨_, _, hu, (Reaches.forwardBy (test.count_le _ _)).mono (Nat.le_of_not_lt hcount)⟩

theorem width_mul_sub {width least count : Nat} (h : count < least) :
    width * (least - count) = width + width * (least - (count + 1)) := by
  have hsub : least - count = least - (count + 1) + 1 := by omega
  rw [hsub, Nat.mul_succ, Nat.add_comm]

section Loops

variable {body : Place → Trail → Continuation → Outcome} {width least : Nat} {most : Option Nat}
  (hbody : ∀ p t k, (body p t k).Gains p k width)
include hbody

theorem greedyLoop_gains (k : Continuation) (fuel count : Nat) (last : Option Nat) (p : Place)
    (t : Trail) :
    (greedyLoop body least most k fuel count last p t).Gains p k (width * (least - count)) := by
  induction fuel generalizing count last p t with
  | zero => exact .failed t
  | succ fuel ih =>
    unfold greedyLoop
    split
    · rename_i hcount
      rw [width_mul_sub hcount]
      exact ((hbody p _ _).next fun q t => ih (count + 1) last q t).failingAt
    · rename_i hcount
      rw [Nat.sub_eq_zero_of_le (Nat.le_of_not_lt hcount), Nat.mul_zero]
      have hk (t : Trail) : (k p (t.visit p)).Gains p k 0 := .continued _
      split
      · refine Gains.orElse ?_ fun u => (hk _).failingAt
        exact ((hbody p _ _).next fun q t => ih (count + 1) _ q t).mono (Nat.zero_le _)
      · exact (hk t).failingAt

theorem lazyLoop_gains (repeating : Bool) (k : Continuation) (fuel count : Nat)
    (last : Option Nat) (p : Place) (t : Trail) :
    (lazyLoop repeating body least most k fuel count last p t).Gains p k
      (width * (least - count)) := by
  induction fuel generalizing count last p t with
  | zero => exact .failed t
  | succ fuel ih =>
    unfold lazyLoop
    split
    · rename_i hcount
      rw [width_mul_sub hcount]
      exact ((hbody p _ _).next fun q t => ih (count + 1) last q t).failingAt
    · rename_i hcount
      rw [Nat.sub_eq_zero_of_le (Nat.le_of_not_lt hcount), Nat.mul_zero]
      refine Gains.orElse (.continued _) fun u => ?_
      dsimp only
      split
      · exact ((hbody p _ _).next fun q t => ih (count + 1) _ q t).failingAt.mono (Nat.zero_le _)
      · exact .failed _

end Loops

/-! ## Widths -/

namespace Width

theorem least_plus_le (a b : Width) : (a.plus b).least ≤ a.least + b.least := Nat.min_le_left _ _

theorem least_times_le (w : Width) (least : Nat) (most : Option Nat) :
    (w.times least most).least ≤ w.least * least := Nat.min_le_left _ _

end Width

namespace Node

/-- Whether a node repeats nothing but single characters possessively. After a round that fails,
such a repetition goes on where that round was. -/
def isSteady : Node → Bool
  | .seq a b => a.isSteady && b.isSteady
  | .alt a b => a.isSteady && b.isSteady
  | .capture _ body => body.isSteady
  | .repeated _ _ _ (.one _) => true
  | .repeated appetite _ _ body => appetite != .possessive && body.isSteady
  | .atomic body => body.isSteady
  | _ => true

theorem isSteady_repeated {body : Node} (h : ∀ test, body ≠ .one test) {appetite : Appetite}
    {least : Nat} {most : Option Nat}
    (hsteady : (repeated appetite least most body).isSteady = true) :
    appetite ≠ .possessive ∧ body.isSteady = true := by
  cases body with
  | one test => exact absurd rfl (h test)
  | _ => simpa [isSteady] using hsteady

theorem least_width_alt_le (a b : Node) (groups : Nat → Width) :
    b = .never ∧ (alt a b).width groups = a.width groups ∨
      ((alt a b).width groups).least ≤ (a.width groups).least ∧
        ((alt a b).width groups).least ≤ (b.width groups).least := by
  cases b with
  | never => exact .inl ⟨rfl, rfl⟩
  | _ => exact .inr ⟨Nat.min_le_left _ _, Nat.min_le_right _ _⟩

theorem alt_gains {a b : Node} {groups : Nat → Width}
    (ha : ∀ repeating next p t k, (a.run repeating next p t k).Gains p k (a.width groups).least)
    (hb : ∀ repeating next p t k, (b.run repeating next p t k).Gains p k (b.width groups).least)
    (repeating : Bool) (next : Option CharTest) (p : Place) (t : Trail) (k : Continuation) :
    ((alt a b).run repeating next p t k).Gains p k ((alt a b).width groups).least := by
  have hfirst : Gains
      (if ((a.firstTest? none).map fun test => test.rulesOut p.after).getD false then .failed t
        else (a.run repeating none p (t.visit p) k).orElse
          fun u => .failed (u.restore repeating t.marks))
      p k (a.width groups).least := by
    split
    · exact .failed t
    · exact (ha _ _ p _ k).orElse fun u => .failed _
  -- After the last alternative comes `never`, which the width leaves out.
  rcases least_width_alt_le a b groups with ⟨rfl, hwidth⟩ | ⟨hlea, hleb⟩
  · rw [hwidth]
    exact hfirst.orElse fun u => .failed u
  · exact (hfirst.mono hlea).orElse fun u => (hb _ _ p u k).mono hleb

/-- The loops that give back what they took gain the width of a round, `least` times. -/
theorem loops_gains {body : Node} (hmany : ∀ test, body ≠ .one test) {appetite : Appetite}
    (happetite : appetite ≠ .possessive) {width : Nat}
    (hbody : ∀ repeating next p t k, (body.run repeating next p t k).Gains p k width) (least : Nat)
    (most : Option Nat) (repeating : Bool) (next : Option CharTest) (p : Place) (t : Trail)
    (k : Continuation) :
    ((repeated appetite least most body).run repeating next p t k).Gains p k (width * least) := by
  rw [run_repeated hmany]
  cases appetite with
  | greedy => exact greedyLoop_gains (hbody _ _) k _ 0 none p t
  | lazy => exact lazyLoop_gains (hbody _ _) _ k _ 0 none p t
  | possessive => exact absurd rfl happetite

/-- A match is at least as long as the width of the node says. -/
theorem run_gains {n : Node} (hfree : n.refers = false) (hsteady : n.isSteady = true)
    (groups : Nat → Width) (repeating : Bool) (next : Option CharTest) (p : Place) (t : Trail)
    (k : Continuation) :
    (n.run repeating next p t k).Gains p k (n.width groups).least := by
  induction n generalizing repeating next p t k with
  | empty => exact .continued t
  | never => exact .failed t
  | one test =>
    simp only [run]
    split
    · exact .failed t
    · rename_i c rest hafter
      split
      · have hone : p.Reaches (p.forwardBy 1) 1 := .forwardBy (by simp [hafter])
        exact fun u hu => ⟨_, t, hu, hone⟩
      · exact .failed t
  | anchor a =>
    simp only [run]
    split
    · exact .continued t
    · exact .failed t
  | seq a b iha ihb =>
    simp only [refers, Bool.or_eq_false_iff] at hfree
    simp only [isSteady, Bool.and_eq_true] at hsteady
    refine Gains.mono ?_ (Width.least_plus_le _ _)
    exact (iha hfree.1 hsteady.1 _ _ p t _).next fun q u => ihb hfree.2 hsteady.2 _ _ q u k
  | alt a b iha ihb =>
    simp only [refers, Bool.or_eq_false_iff] at hfree
    simp only [isSteady, Bool.and_eq_true] at hsteady
    exact alt_gains (iha hfree.1 hsteady.1) (ihb hfree.2 hsteady.2) repeating next p t k
  | capture index body ih =>
    exact (ih hfree hsteady _ _ p _ _).next fun q u => .continued _
  | repeated appetite least most body ih =>
    refine Gains.mono ?_ (Width.least_times_le _ _ _)
    by_cases hone : ∃ test, body = .one test
    · obtain ⟨test, rfl⟩ := hone
      refine Gains.mono (runRepeated_gains test appetite least most _ _ p t k) ?_
      exact Nat.le_of_eq (Nat.one_mul least)
    · have hmany (test : CharTest) : body ≠ .one test := fun h => hone ⟨test, h⟩
      obtain ⟨happetite, hbody⟩ := isSteady_repeated hmany hsteady
      exact loops_gains hmany happetite (ih hfree hbody) least most repeating next p t k
  | atomic body ih => exact (ih hfree hsteady _ _ p _ _).failingAt.settled
  | ahead negated body ih =>
    cases negated with
    | false =>
      simp only [run]
      cases body.run repeating none p (t.visit p) Outcome.stop with
      | matched u => exact .continued u
      | failed u => exact .failed u
    | true =>
      simp only [run]
      split
      · exact .failed _
      · exact .continued _
  | behind negated width body ih =>
    simp only [run]
    split
    · split
      · exact .continued t
      · exact .failed t
    · split
      · split
        · exact .failed _
        · exact .continued _
      · split
        · exact .continued _
        · exact .failed _
  | back index fold => cases hfree
  | whether index yes no => cases hfree

end Node

/-! ## Searching -/

/-- The place in a text after so many characters. -/
def placeIn (text : String) (i : Nat) : Place := (Place.start text.toList).forwardBy i

def Outcome.isMatched : Outcome → Bool
  | .matched _ => true
  | .failed _ => false

theorem Node.matchesAt_eq (root : Node) (p : Place) :
    root.matchesAt p = (root.run false none p ⟨[], p⟩ Outcome.stop).isMatched := by
  unfold matchesAt Outcome.isMatched
  rfl

theorem position_placeIn {text : String} {i : Nat} (hi : i ≤ text.length) :
    (placeIn text i).position = i := by
  have hlength : i ≤ (Place.start text.toList).after.length := by
    rw [← String.length_toList] at hi
    exact hi
  rw [placeIn, Place.position_forwardBy hlength]
  exact Nat.zero_add i

theorem text_placeIn (text : String) (i : Nat) : (placeIn text i).text = text.toList :=
  Place.text_forwardBy _ i

theorem Node.searchFrom_iff (root : Node) (n : Nat) (p : Place) :
    root.searchFrom n p = true ↔ ∃ i ≤ n, root.matchesAt (p.forwardBy i) = true := by
  induction n generalizing p with
  | zero => simp [searchFrom, Place.forwardBy]
  | succ n ih =>
    simp only [searchFrom, Bool.or_eq_true, ih]
    constructor
    · rintro (h | ⟨i, hi, h⟩)
      · exact ⟨0, Nat.zero_le _, h⟩
      · exact ⟨i + 1, Nat.succ_le_succ hi, h⟩
    · rintro ⟨i, hi, h⟩
      cases i with
      | zero => exact .inl h
      | succ i => exact .inr ⟨i, Nat.le_of_succ_le_succ hi, h⟩

theorem furtherStarts?_le {root : Node} {least length n : Nat}
    (h : furtherStarts? root least length = some n) : length - least ≤ n ∧ n ≤ length := by
  unfold furtherStarts? at h
  split at h
  · cases h
  · split at h
    · cases h
      omega
    · rename_i hmany
      simp only [Bool.or_eq_true, decide_eq_true_eq, not_or] at hmany
      split at h <;> cases h <;> omega

/-- What a search finds is a match at some place of the text. -/
theorem exists_of_search {r : Regex} {text : String} (h : search r text = true) :
    ∃ i ≤ text.length, r.root.matchesAt (placeIn text i) = true := by
  unfold search at h
  split at h
  · cases h
  · rename_i n hn
    obtain ⟨i, hi, hmatch⟩ := (r.root.searchFrom_iff n _).mp h
    exact ⟨i, Nat.le_trans hi (furtherStarts?_le hn).2, hmatch⟩

theorem exists_furtherStarts? (root : Node) {least length : Nat} (h : least ≤ length) :
    ∃ n, furtherStarts? root least length = some n ∧ length - least ≤ n := by
  cases hstarts : furtherStarts? root least length with
  | none =>
    unfold furtherStarts? at hstarts
    split at hstarts
    · omega
    · split at hstarts
      · cases hstarts
      · split at hstarts <;> cases hstarts
  | some n => exact ⟨n, rfl, (furtherStarts?_le hstarts).1⟩

section Found

variable {r : Regex} {groups : Nat → Width} (hleast : r.least = (r.root.width groups).least)
  (hfree : r.root.refers = false) (hsteady : r.root.isSteady = true) {text : String} {i : Nat}
  (hi : i ≤ text.length) (h : r.root.matchesAt (placeIn text i) = true)
include hleast hfree hsteady hi h

/-- Where an expression matches, the text goes on for as long as a match has to be. -/
theorem add_least_le : i + r.least ≤ text.length := by
  rw [Node.matchesAt_eq] at h
  cases hrun : r.root.run false none (placeIn text i) ⟨[], placeIn text i⟩ Outcome.stop with
  | failed u => rw [hrun] at h; cases h
  | matched u =>
    obtain ⟨q, -, -, hreach⟩ := Node.run_gains hfree hsteady groups _ _ _ _ _ u hrun
    have hend := q.position_le_length
    rw [hreach.text, text_placeIn, String.length_toList] at hend
    have hposition := hreach.position
    rw [position_placeIn hi] at hposition
    omega

theorem search_of_matchesAt : search r text = true := by
  have hfits := add_least_le hleast hfree hsteady hi h
  obtain ⟨n, hn, hmany⟩ := exists_furtherStarts? r.root (show r.least ≤ text.length by omega)
  unfold search
  rw [hn]
  exact (r.root.searchFrom_iff n _).mpr ⟨i, by omega, h⟩

end Found

end Regex
end QueryOptions
