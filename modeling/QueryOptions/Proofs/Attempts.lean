import QueryOptions.Proofs.Enclosed
import QueryOptions.Proofs.Lockstep

/-!
# QueryOptions.Proofs.Attempts

Attempts to match, compared. Without references, nothing depends on which text a group matched, nor
on which marks a failed attempt leaves: two attempts from one place both match or both fail
(`Outcome.Alike`), and they tried something last at the same place.

* `linkage_place`: trails at the same place stay so, whatever their marks are;
* `Node.runsAlike_enclosed`: an expression matches inside of one more group where it does on its
  own, also if that group is repeated.
-/

namespace QueryOptions
namespace Regex

/-! ## Marks do not matter -/

namespace Trail

@[simp] theorem place_mark (t : Trail) (entry position : Nat) :
    (t.mark entry position).place = t.place := by
  unfold mark
  split <;> rfl

@[simp] theorem place_enter (t : Trail) (index : Nat) (p : Place) :
    (t.enter index p).place = t.place := place_mark t _ _

@[simp] theorem place_leave (t : Trail) (index : Nat) (p : Place) :
    (t.leave index p).place = t.place := place_mark t _ _

end Trail

namespace Outcome

/-- Both attempts match or both fail, and they tried something last at the same place. -/
inductive Alike : Outcome → Outcome → Prop where
  | matched {t t' : Trail} (h : t.place = t'.place) : Alike (.matched t) (.matched t')
  | failed {t t' : Trail} (h : t.place = t'.place) : Alike (.failed t) (.failed t')

/-- What is done with a place does not depend on the marks. -/
def ContinuesAlike (k k' : Continuation) : Prop :=
  ∀ p t t', t.place = t'.place → Alike (k p t) (k' p t')

theorem alike_iff_linked {o o' : Outcome} :
    Alike o o' ↔ Linked (fun t t' => t.place = t'.place) o o' := by
  constructor
  · rintro (h | h)
    · exact .matched h
    · exact .failed h
  · rintro (h | h)
    · exact .matched h
    · exact .failed h

theorem Alike.stop : ContinuesAlike Outcome.stop Outcome.stop := fun _ _ _ _ => .matched rfl

end Outcome

open Outcome (Alike ContinuesAlike)

/-- What is tried at a place does the same with places whatever the marks are. -/
def RunsAlike (body body' : Place → Trail → Continuation → Outcome) : Prop :=
  ∀ p t t' k k', t.place = t'.place → ContinuesAlike k k' → Alike (body p t k) (body' p t' k')

/-- Trails at the same place are linked, whatever is marked and restored. -/
theorem linkage_place (captures references : Nat → Nat) :
    Linkage (fun t t' => t.place = t'.place) (fun _ _ => True) captures references
      (fun _ => True) (fun _ => False) where
  place h := h
  visit _ _ := rfl
  enter _ _ h := by simpa using h
  leave _ _ h := by simpa using h
  group h := h.elim
  restore _ _ h := h
  repeating := trivial

namespace Node

theorem numbered_of_refers {n : Node} (h : n.refers = false) :
    n.Numbered (fun _ => True) (fun _ => False) := by
  induction n with
  | seq a b iha ihb =>
    rw [refers, Bool.or_eq_false_iff] at h
    exact ⟨iha h.1, ihb h.2⟩
  | alt a b iha ihb =>
    rw [refers, Bool.or_eq_false_iff] at h
    exact ⟨iha h.1, ihb h.2⟩
  | capture index body ih => exact ⟨trivial, ih h⟩
  | repeated a least most body ih => exact ih h
  | atomic body ih => exact ih h
  | ahead negated body ih => exact ih h
  | behind negated width body ih => exact ih h
  | back index fold => cases h
  | whether index yes no => cases h
  | _ => trivial

theorem enclosed_eq_renumbered {n : Node} (h : n.refers = false) :
    n.enclosed = n.renumbered (· + 1) id := by
  induction n with
  | seq a b iha ihb =>
    rw [refers, Bool.or_eq_false_iff] at h
    rw [enclosed, renumbered, iha h.1, ihb h.2]
  | alt a b iha ihb =>
    rw [refers, Bool.or_eq_false_iff] at h
    rw [enclosed, renumbered, iha h.1, ihb h.2]
  | capture index body ih => rw [enclosed, renumbered, ih h]
  | repeated a least most body ih => rw [enclosed, renumbered, ih h]
  | atomic body ih => rw [enclosed, renumbered, ih h]
  | ahead negated body ih => rw [enclosed, renumbered, ih h]
  | behind negated width body ih => rw [enclosed, renumbered, ih h]
  | whether index yes no => cases h
  | _ => rfl

/-- An expression without references does the same inside of one more group, inside a repetition
or not. -/
theorem runsAlike_enclosed {n : Node} (h : n.refers = false) (repeating repeating' : Bool)
    (next : Option CharTest) :
    RunsAlike (n.run repeating next) (n.enclosed.run repeating' next) := by
  intro p t t' k k' ht hk
  rw [enclosed_eq_renumbered h]
  refine Outcome.alike_iff_linked.mpr ?_
  exact runsLinked (linkage_place _ _) (numbered_of_refers h) trivial next p t t' k k' ht
    fun q u u' hu => Outcome.alike_iff_linked.mp (hk q u u' hu)

end Node

end Regex
end QueryOptions
