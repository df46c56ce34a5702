import QueryOptions.Proofs.MatchWidths

/-!
# QueryOptions.Proofs.Ways

What regular expressions are documented to match. An expression can match from a place in several
ways, one after the other in order of preference: greedy repetitions prefer more rounds, lazy ones
fewer, and a choice its first alternative. A way is a trail: it ends where the match does, and has
the marks of the groups that took part in it. Nothing else is left of what has been tried.

What looks around, or is atomic, takes the preferred way and no other. A possessive repetition is
the greedy one made atomic.

Beyond the least number of rounds, no round starts where the round before did. So the number of
rounds is bounded, and the fuel is enough.

* `Node.ways`: the ways of each kind of node;
* `Node.goesOn_ways`: ways go on in the same text;
* `rounds_fuel`: with enough fuel, the fuel makes no difference.
-/

namespace QueryOptions
namespace Regex

/-- The ways of going round, given those of one round. The number of rounds so far counts, and where
the last of them started. -/
def rounds (each : Trail → List Trail) (lazily : Bool) (least : Nat) (most : Option Nat) :
    Nat → Nat → Option Nat → Trail → List Trail
  | 0, _, _, _ => []
  | fuel + 1, count, last, t =>
    if count < least then
      (each t).flatMap (rounds each lazily least most fuel (count + 1) last)
    else if mayRepeat most count last t.place then
      let more :=
        (each t).flatMap (rounds each lazily least most fuel (count + 1) (some t.place.position))
      if lazily then t :: more else more ++ [t]
    else [t]

/-- The way past a place where something was looked for, if it was to be found or not to be. The
marks of what was found are kept. -/
def Trail.looking (t : Trail) (negated : Bool) : List Trail → List Trail
  | [] => if negated then [t] else []
  | u :: _ => if negated then [] else [u.visit t.place]

/-- The ways in which a node matches from where a trail has come to, the preferred one first. -/
def Node.ways : Node → Trail → List Trail
  | .empty, t => [t]
  | .never, _ => []
  | .one test, t =>
    match t.place.after with
    | [] => []
    | c :: _ => if test.accepts c then [t.visit t.place.forward] else []
  | .anchor a, t => if a.holds t.place then [t] else []
  | .seq a b, t => (a.ways t).flatMap b.ways
  | .alt a b, t => a.ways t ++ b.ways t
  | .capture index body, t =>
    (body.ways (t.enter index t.place)).map fun u => u.leave index u.place
  | .repeated appetite least most body, t =>
    let all :=
      rounds body.ways (appetite == .lazy) least most (roundsFrom least t.place) 0 none t
    if appetite = .possessive then all.take 1 else all
  | .atomic body, t => (body.ways t).take 1
  | .ahead negated body, t => t.looking negated (body.ways t)
  | .behind negated width body, t =>
    t.looking negated
      (if t.place.position < width.least then []
      else body.ways (t.visit (t.place.backwardBy width.least)))
  | .back index fold, t =>
    match t.group? index with
    | none => []
    | some (start, stop) =>
      ((t.place.skipText? fold (t.place.between start stop)).map t.visit).toList
  | .whether index yes no, t =>
    match t.group? index with
    | some _ => yes.ways t
    | none => no.ways t

/-- Whether an expression is documented to match at a place. -/
def Node.meets (root : Node) (p : Place) : Bool := !(root.ways ⟨[], p⟩).isEmpty

/-- An expression is documented to match somewhere in a text. -/
def OccursIn (r : Regex) (text : String) : Prop :=
  ∃ i ≤ text.length, r.root.meets (placeIn text i) = true

/-! ## Where ways go -/

namespace Place

theorem position_add_after (p : Place) : p.position + p.after.length = p.text.length := by
  rw [p.position_eq, text, List.length_append, List.length_reverse]

theorem reaches_forward (p : Place) : p.Reaches p.forward 0 :=
  ⟨p.text_forward, p.position_le_forward⟩

theorem reaches_skipText? {fold : Fold} {cs : List Char} {p q : Place}
    (h : p.skipText? fold cs = some q) : p.Reaches q 0 := by
  induction cs generalizing p with
  | nil =>
    cases h
    exact .refl _
  | cons c rest ih =>
    unfold skipText? at h
    split at h
    · cases h
    · split at h
      · exact p.reaches_forward.trans (ih h)
      · cases h

end Place

/-- Ways that go on in the same text. -/
def GoesOn (each : Trail → List Trail) : Prop := ∀ t, ∀ u ∈ each t, t.place.Reaches u.place 0

section Rounds

variable {each : Trail → List Trail} (heach : GoesOn each) {lazily : Bool} {least : Nat}
  {most : Option Nat}
include heach

theorem goesOn_rounds (fuel count : Nat) (last : Option Nat) :
    GoesOn (rounds each lazily least most fuel count last) := by
  induction fuel generalizing count last with
  | zero => exact fun t u hu => by cases hu
  | succ fuel ih =>
    have hagain (count : Nat) (last : Option Nat) (t u : Trail)
        (hu : u ∈ (each t).flatMap (rounds each lazily least most fuel count last)) :
        t.place.Reaches u.place 0 := by
      obtain ⟨v, hv, hu⟩ := List.mem_flatMap.mp hu
      exact (heach t v hv).trans (ih count last v u hu)
    intro t u hu
    unfold rounds at hu
    split at hu
    · exact hagain _ _ t u hu
    · split at hu
      · have hmore : u = t ∨ u ∈ (each t).flatMap
            (rounds each lazily least most fuel (count + 1) (some t.place.position)) := by
          cases lazily with
          | false => exact (List.mem_append.mp hu).symm.imp_left List.mem_singleton.mp
          | true => exact List.mem_cons.mp hu
        rcases hmore with rfl | hmore
        · exact .refl _
        · exact hagain _ _ t u hmore
      · rw [List.mem_singleton.mp hu]
        exact .refl _

/-- A bound on the number of rounds that are left. A round that gets nowhere is not repeated. -/
def roundsLeft (least count : Nat) (last : Option Nat) (p : Place) : Nat :=
  least - count + 2 * p.after.length + if last = some p.position then 1 else 2

omit heach in
theorem roundsLeft_lt {count count' : Nat} {last last' : Option Nat} {p q : Place}
    (h : p.Reaches q 0) (hcount : count ≤ count')
    (hstill : q.position = p.position →
      roundsLeft least count' last' p < roundsLeft least count last p) :
    roundsLeft least count' last' q < roundsLeft least count last p := by
  have hp := p.position_add_after
  have hq := q.position_add_after
  have hposition := h.position
  rw [h.text] at hq
  by_cases hsame : q.position = p.position
  · have hlength : q.after.length = p.after.length := by omega
    have := hstill hsame
    unfold roundsLeft at this ⊢
    rwa [hsame, hlength]
  · unfold roundsLeft
    split <;> split <;> omega

/-- With enough fuel, the fuel makes no difference. -/
theorem rounds_fuel {fuel fuel' count : Nat} {last : Option Nat} {t : Trail}
    (hfuel : roundsLeft least count last t.place ≤ fuel)
    (hfuel' : roundsLeft least count last t.place ≤ fuel') :
    rounds each lazily least most fuel count last t
      = rounds each lazily least most fuel' count last t := by
  have hpositive : 0 < roundsLeft least count last t.place := by
    unfold roundsLeft
    split <;> omega
  induction fuel generalizing fuel' count last t with
  | zero => omega
  | succ fuel ih =>
    obtain ⟨fuel', rfl⟩ : ∃ n, fuel' = n + 1 := ⟨fuel' - 1, by omega⟩
    have hagain {last' : Option Nat} (hstill :
        roundsLeft least (count + 1) last' t.place < roundsLeft least count last t.place) :
        (each t).flatMap (rounds each lazily least most fuel (count + 1) last')
          = (each t).flatMap (rounds each lazily least most fuel' (count + 1) last') := by
      refine List.flatMap_congr fun u hu => ?_
      have hlt : roundsLeft least (count + 1) last' u.place < roundsLeft least count last t.place :=
        roundsLeft_lt (heach t u hu) (Nat.le_succ count) fun _ => hstill
      refine ih (by omega) (by omega) ?_
      unfold roundsLeft
      split <;> omega
    unfold rounds
    split
    · rename_i hcount
      refine hagain ?_
      unfold roundsLeft
      omega
    · split
      · rename_i hmay
        have hnew : last ≠ some t.place.position := by
          simp only [mayRepeat, Bool.and_eq_true, bne_iff_ne] at hmay
          exact hmay.2
        rw [hagain]
        unfold roundsLeft
        rw [if_pos rfl, if_neg hnew]
        omega
      · rfl

end Rounds

namespace Node

theorem goesOn_looking (negated : Bool) (inside : Trail → List Trail) :
    GoesOn fun t => t.looking negated (inside t) := by
  intro t u hu
  have hplace : u.place = t.place := by
    cases hinside : inside t <;> cases negated <;> simp [Trail.looking, hinside] at hu
    all_goals exact hu ▸ rfl
  rw [hplace]
  exact .refl _

theorem goesOn_ways (n : Node) : GoesOn n.ways := by
  induction n with
  | empty => exact fun t u hu => List.mem_singleton.mp hu ▸ .refl _
  | never => exact fun t u hu => by cases hu
  | one test =>
    intro t u hu
    simp only [ways] at hu
    split at hu
    · cases hu
    · split at hu
      · rw [List.mem_singleton.mp hu]
        exact t.place.reaches_forward
      · cases hu
  | anchor a =>
    intro t u hu
    simp only [ways] at hu
    split at hu
    · exact List.mem_singleton.mp hu ▸ .refl _
    · cases hu
  | seq a b iha ihb =>
    intro t u hu
    obtain ⟨v, hv, hu⟩ := List.mem_flatMap.mp hu
    exact (iha t v hv).trans (ihb v u hu)
  | alt a b iha ihb =>
    exact fun t u hu => (List.mem_append.mp hu).elim (iha t u) (ihb t u)
  | capture index body ih =>
    intro t u hu
    obtain ⟨v, hv, rfl⟩ := List.mem_map.mp hu
    have hreach := ih _ v hv
    rw [Trail.place_enter] at hreach
    rwa [Trail.place_leave]
  | repeated appetite least most body ih =>
    intro t u hu
    simp only [ways] at hu
    split at hu
    · exact goesOn_rounds ih _ _ _ t u (List.mem_of_mem_take hu)
    · exact goesOn_rounds ih _ _ _ t u hu
  | atomic body ih => exact fun t u hu => ih t u (List.mem_of_mem_take hu)
  | ahead negated body ih => exact goesOn_looking negated body.ways
  | behind negated width body ih => exact goesOn_looking negated _
  | back index fold =>
    intro t u hu
    simp only [ways] at hu
    split at hu
    · cases hu
    · rename_i start stop _
      obtain ⟨q, hq, rfl⟩ := Option.map_eq_some_iff.mp (Option.mem_toList.mp hu)
      exact Place.reaches_skipText? hq
  | whether index yes no ihyes ihno =>
    intro t u hu
    simp only [ways] at hu
    split at hu
    · exact ihyes t u hu
    · exact ihno t u hu

/-- The fuel of a repetition is enough: more of it makes no difference. -/
theorem ways_repeated_fuel (appetite : Appetite) (least : Nat) (most : Option Nat) (body : Node)
    {fuel : Nat} {t : Trail} (hfuel : roundsFrom least t.place ≤ fuel) :
    (repeated appetite least most body).ways t
      = let all := rounds body.ways (appetite == .lazy) least most fuel 0 none t
        if appetite = .possessive then all.take 1 else all := by
  have henough : roundsLeft least 0 none t.place ≤ roundsFrom least t.place := by
    simp only [roundsLeft, roundsFrom, reduceCtorEq, if_false]
    omega
  simp only [ways]
  rw [rounds_fuel body.goesOn_ways henough (Nat.le_trans henough hfuel)]

end Node

end Regex
end QueryOptions
