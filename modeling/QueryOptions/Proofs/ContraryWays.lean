import QueryOptions.Proofs.FirstWay
import QueryOptions.Proofs.Unfound

/-!
# QueryOptions.Proofs.ContraryWays

What the contrary of a pattern is documented to find. The pattern stands in a group of the contrary,
behind the mark of where that group begins: its ways there are those that it has on its own, with
other numbers for the groups (`Node.ways_linked`). A round of the repeated group reads one character
of the line where the pattern does not match, and there is no other way of going round.

* `Node.ways_linked`: the ways of an expression with other numbers;
* `mem_rounds_iff`: the repeated group gets to the end of a line without a match;
* `occursIn_unfoundRoot`: the contrary of what is met at some places.
-/

namespace QueryOptions
namespace Regex

/-! ## Other numbers -/

section Linkage

variable {link : Trail → Trail → Prop} {modes : Bool → Bool → Prop}
  {captures references : Nat → Nat} {captured referred : Nat → Prop}
  (hlink : Linkage link modes captures references captured referred)
include hlink

theorem rounds_linked {each each' : Trail → List Trail}
    (heach : ∀ t t', link t t' → List.Forall₂ link (each t) (each' t')) (lazily : Bool)
    (least : Nat) (most : Option Nat) (fuel count : Nat) (last : Option Nat) {t t' : Trail}
    (ht : link t t') :
    List.Forall₂ link (rounds each lazily least most fuel count last t)
      (rounds each' lazily least most fuel count last t') := by
  induction fuel generalizing count last t t' with
  | zero => exact .nil
  | succ fuel ih =>
    have hagain (count : Nat) (last : Option Nat) :
        List.Forall₂ link ((each t).flatMap (rounds each lazily least most fuel count last))
          ((each' t').flatMap (rounds each' lazily least most fuel count last)) :=
      List.rel_flatMap (heach t t' ht) fun u u' hu => ih count last hu
    unfold rounds
    rw [← hlink.place ht]
    split
    · exact hagain _ _
    · split
      · cases lazily with
        | false => exact List.rel_append (hagain _ _) (.cons ht .nil)
        | true => exact .cons ht (hagain _ _)
      · exact .cons ht .nil

theorem looking_linked {t t' : Trail} (ht : link t t') (negated : Bool)
    {inside inside' : List Trail}
    (h : List.Forall₂ link inside inside') :
    List.Forall₂ link (t.looking negated inside) (t'.looking negated inside') := by
  cases h with
  | nil =>
    cases negated with
    | false => exact .nil
    | true => exact .cons ht .nil
  | cons hu _ =>
    cases negated with
    | false =>
      unfold Trail.looking
      rw [← hlink.place ht]
      exact .cons (hlink.visit _ hu) .nil
    | true => exact .nil

/-- An expression matches in the same ways with other numbers, from linked trails. -/
theorem Node.ways_linked {n : Node} (h : n.Numbered captured referred) {t t' : Trail}
    (ht : link t t') :
    List.Forall₂ link (n.ways t) ((n.renumbered captures references).ways t') := by
  have hplace {t t' : Trail} (ht : link t t') : t'.place = t.place := (hlink.place ht).symm
  induction n generalizing t t' with
  | empty => exact .cons ht .nil
  | never => exact .nil
  | one test =>
    simp only [renumbered, ways, hplace ht]
    split
    · exact .nil
    · split
      · exact .cons (hlink.visit _ ht) .nil
      · exact .nil
  | anchor a =>
    simp only [renumbered, ways, hplace ht]
    split
    · exact .cons ht .nil
    · exact .nil
  | seq a b iha ihb => exact List.rel_flatMap (iha h.1 ht) fun u u' hu => ihb h.2 hu
  | alt a b iha ihb => exact List.rel_append (iha h.1 ht) (ihb h.2 ht)
  | capture index body ih =>
    simp only [renumbered, ways, hplace ht]
    refine List.rel_map (fun u u' hu => ?_) (ih h.2 (hlink.enter _ h.1 ht))
    rw [hplace hu]
    exact hlink.leave _ h.1 hu
  | repeated appetite least most body ih =>
    simp only [renumbered, ways, hplace ht]
    have hall := rounds_linked hlink (fun t t' ht => ih h ht) (appetite == .lazy) least most
      (roundsFrom least t.place) 0 none ht
    split
    · exact List.forall₂_take 1 hall
    · exact hall
  | atomic body ih => exact List.forall₂_take 1 (ih h ht)
  | ahead negated body ih => exact looking_linked hlink ht negated (ih h ht)
  | behind negated width body ih =>
    simp only [renumbered, ways, hplace ht]
    refine looking_linked hlink ht negated ?_
    split
    · exact .nil
    · exact ih h (hlink.visit _ ht)
  | back index fold =>
    simp only [renumbered, ways, hplace ht, hlink.group h ht]
    split
    · exact .nil
    · rename_i start stop _
      cases t.place.skipText? fold (t.place.between start stop) with
      | none => exact .nil
      | some q => exact .cons (hlink.visit q ht) .nil
  | whether index yes no ihyes ihno =>
    simp only [renumbered, ways, hlink.group h.1 ht]
    split
    · exact ihyes h.2.1 ht
    · exact ihno h.2.2 ht

end Linkage

/-! ## The repeated group -/

/-- Rounds that read one character of the line each get to its end just if nothing is met there. -/
theorem mem_rounds_iff {meets : Place → Bool} {each : Trail → List Trail}
    (hreads : ∀ t : Trail, t.IsOuter → passes meets t.place = true →
      ∃ u : Trail, u.IsOuter ∧ u.place = t.place.forward ∧ each t = [u])
    (hfails : ∀ t : Trail, t.IsOuter → passes meets t.place = false → each t = [])
    {fuel count : Nat} {last : Option Nat} {t : Trail} (ht : t.IsOuter)
    (hfuel : t.place.after.length < fuel) (hlast : last ≠ some t.place.position) :
    (∃ u ∈ rounds each false 0 none fuel count last t, Anchor.beforeFinal.holds u.place = true) ↔
      ClearFrom meets t.place := by
  induction fuel generalizing count last t with
  | zero => omega
  | succ fuel ih =>
    have hmay : mayRepeat none count last t.place = true := by simp [mayRepeat, hlast]
    unfold rounds
    rw [if_neg (Nat.not_lt_zero count), if_pos hmay, clearFrom_iff]
    simp only [Bool.false_eq_true, if_false, List.mem_append, List.mem_singleton]
    cases hpasses : passes meets t.place with
    | false => simp [hfails t ht hpasses]
    | true =>
      obtain ⟨u, hu, hplace, heach⟩ := hreads t ht hpasses
      unfold passes at hpasses
      cases hafter : t.place.after with
      | nil => simp [hafter] at hpasses
      | cons c rest =>
        have hlength : u.place.after.length < fuel := by
          rw [hplace, Place.after_forward hafter]
          rw [hafter, List.length_cons] at hfuel
          omega
        have hnew : some t.place.position ≠ some u.place.position := by
          simp [hplace, Place.position_forward hafter]
        have hmore :
            (∃ v ∈ rounds each false 0 none fuel (count + 1) (some t.place.position) u,
              Anchor.beforeFinal.holds v.place = true) ↔ ClearFrom meets t.place.forward :=
          hplace ▸ ih hu hlength hnew
        rw [heach, List.flatMap_singleton, eq_self, true_and, ← hmore]
        constructor
        · rintro ⟨v, hv | rfl, hend⟩
          · exact .inr ⟨v, hv, hend⟩
          · exact .inl hend
        · rintro (hend | ⟨v, hv, hend⟩)
          · exact ⟨t, .inr rfl, hend⟩
          · exact ⟨v, .inl hv, hend⟩

section Contrary

variable {body : List Piece} {meets : Place → Bool}
  (hmeets : ∀ t : Trail, t.IsOuter →
    ((nodeOfPieces body).ways t = [] ↔ meets t.place = false))
include hmeets

theorem ways_notAhead {t : Trail} (ht : t.IsOuter) :
    (notAhead body).ways t = if meets t.place then [] else [t] := by
  have hbody := hmeets t ht
  cases body with
  | nil =>
    have hmet : meets t.place = true := by
      rw [← Bool.not_eq_false, ← hbody]
      exact List.cons_ne_nil _ _
    rw [if_pos hmet]
    rfl
  | cons piece rest =>
    simp only [notAhead, List.isEmpty_cons, Bool.false_eq_true, if_false, Node.ways]
    cases hways : (nodeOfPieces (piece :: rest)).ways t with
    | nil =>
      rw [hbody.mp hways]
      rfl
    | cons u others =>
      have hmet : meets t.place = true := by
        rw [← Bool.not_eq_false, ← hbody, hways]
        exact List.cons_ne_nil _ _
      rw [if_pos hmet]
      rfl

/-- A round of the repeated group reads one character of the line where nothing is met. -/
theorem ways_round {t : Trail} (ht : t.IsOuter) :
    (passes meets t.place = true → ∃ u : Trail, u.IsOuter ∧ u.place = t.place.forward ∧
      (Node.capture 1 (.seq (notAhead body) (.one .notLineEnd))).ways t = [u]) ∧
    (passes meets t.place = false →
      (Node.capture 1 (.seq (notAhead body) (.one .notLineEnd))).ways t = []) := by
  have hplace : (t.enter 1 t.place).place = t.place := Trail.place_enter t 1 t.place
  have hround : (Node.capture 1 (.seq (notAhead body) (.one .notLineEnd))).ways t
      = (((if meets t.place then [] else [t.enter 1 t.place]).flatMap
          (Node.one .notLineEnd).ways).map fun u => u.leave 1 u.place) := by
    rw [Node.ways, Node.ways, ways_notAhead hmeets (ht.enter t.place), hplace]
  rw [hround]
  unfold passes
  cases hmeet : meets t.place with
  | true => exact ⟨fun hpasses => (by cases hpasses), fun _ => rfl⟩
  | false =>
    simp only [Bool.false_eq_true, if_false, List.flatMap_singleton, Bool.not_false, Bool.true_and]
    cases hafter : t.place.after with
    | nil =>
      rw [ways_one_of_rejects (by rw [hplace, hafter]; rfl)]
      exact ⟨fun hpasses => (by cases hpasses), fun _ => rfl⟩
    | cons c rest =>
      cases hc : c != '\n' with
      | true =>
        have haccepts : CharTest.notLineEnd.accepts c = true := hc
        rw [ways_one_of_accepts (hplace.symm ▸ hafter) haccepts, hplace]
        refine ⟨fun _ => ⟨_, ?_, ?_, rfl⟩, fun hpasses => by simp [hc] at hpasses⟩
        · exact Trail.IsOuter.leave (t := (t.enter 1 t.place).visit t.place.forward)
            (ht.enter t.place) _
        · exact Trail.place_leave _ _ _
      | false =>
        have hrejects : CharTest.notLineEnd.rejects (c :: rest) = true := by
          simp [CharTest.rejects, CharTest.accepts, hc]
        rw [ways_one_of_rejects (by rw [hplace, hafter]; exact hrejects)]
        exact ⟨fun hpasses => by simp [hc] at hpasses, fun _ => rfl⟩

/-- The contrary matches at the beginning of a line at no character of which something is met. -/
theorem meets_unfoundRoot (p : Place) :
    (unfoundRoot body).meets p = true ↔ p.before = [] ∧ ClearFrom meets p := by
  have hend (u : Trail) : (Node.anchor .beforeFinal).ways u ≠ [] ↔
      Anchor.beforeFinal.holds u.place = true := by
    rw [Node.ways]
    split <;> simp_all
  have hstart : Anchor.textStart.holds p = true ↔ p.before = [] := by simp [Anchor.holds]
  have hfuel : p.after.length < roundsFrom 0 p := by
    unfold roundsFrom
    omega
  have hgroup :
      (∃ u ∈ rounds (Node.capture 1 (.seq (notAhead body) (.one .notLineEnd))).ways false 0 none
          (roundsFrom 0 p) 0 none ⟨[], p⟩, Anchor.beforeFinal.holds u.place = true) ↔
        ClearFrom meets p :=
    mem_rounds_iff (fun t ht => (ways_round hmeets ht).1) (fun t ht => (ways_round hmeets ht).2)
      (Nat.zero_le 2) hfuel (by simp)
  rw [← hstart, ← hgroup, Node.meets, Bool.not_eq_true', List.isEmpty_eq_false_iff, unfoundRoot,
    Node.ways, Node.ways]
  split
  · rename_i hholds
    have hholds : Anchor.textStart.holds p = true := hholds
    rw [List.flatMap_singleton, Node.ways, ne_eq, List.flatMap_eq_nil_iff, hholds]
    simp only [← hend, true_and]
    push Not
    rfl
  · rename_i hholds
    exact iff_of_false (fun h => h rfl) fun h => hholds h.1

theorem occursIn_unfoundRoot {n : Regex} (hroot : n.root = unfoundRoot body) (text : String) :
    OccursIn n text ↔ ClearFrom meets (.start text.toList) := by
  unfold OccursIn
  rw [hroot]
  constructor
  · rintro ⟨i, hi, hmatch⟩
    obtain ⟨hbefore, hclear⟩ := (meets_unfoundRoot hmeets _).mp hmatch
    obtain rfl := eq_zero_of_before hi hbefore
    exact hclear
  · intro hclear
    exact ⟨0, Nat.zero_le _, (meets_unfoundRoot hmeets _).mpr ⟨rfl, hclear⟩⟩

end Contrary

end Regex
end QueryOptions
