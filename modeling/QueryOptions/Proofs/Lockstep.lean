import QueryOptions.Proofs.Renumbered
import QueryOptions.Regex.Match

/-!
# QueryOptions.Proofs.Lockstep

Two attempts in lockstep. The second one tries what the first one tries, with other numbers for the
groups, and from a trail that is linked to that of the first one. If the link is kept by everything
that happens to trails (`Linkage`), both attempts match or both fail, and their trails are linked
again (`Outcome.Linked`). This is kept by everything that is tried one after another, one way or the
other, or again and again.

* `runRepeated_linked`, `greedyLoop_linked`, `lazyLoop_linked`, `possessiveLoop_linked`:
  repetitions;
* `Node.runsLinked`: whole expressions.
-/

namespace QueryOptions
namespace Regex

/-- What it takes to keep trails linked: places agree, groups are entered and left under numbers
that go together, and what is restored was linked. `modes` are the ways of restoring that go
together. -/
structure Linkage (link : Trail → Trail → Prop) (modes : Bool → Bool → Prop)
    (captures references : Nat → Nat) (captured referred : Nat → Prop) : Prop where
  place {t t' : Trail} : link t t' → t.place = t'.place
  visit {t t' : Trail} (p : Place) : link t t' → link (t.visit p) (t'.visit p)
  enter {t t' : Trail} {index : Nat} (p : Place) :
    captured index → link t t' → link (t.enter index p) (t'.enter (captures index) p)
  leave {t t' : Trail} {index : Nat} (p : Place) :
    captured index → link t t' → link (t.leave index p) (t'.leave (captures index) p)
  group {t t' : Trail} {index : Nat} :
    referred index → link t t' → t'.group? (references index) = t.group? index
  restore {t t' u u' : Trail} {repeating repeating' : Bool} : modes repeating repeating' →
    link t t' → link u u' → link (u.restore repeating t.marks) (u'.restore repeating' t'.marks)
  repeating : modes true true

namespace Outcome

/-- Both attempts match or both fail, and their trails are linked. -/
inductive Linked (link : Trail → Trail → Prop) : Outcome → Outcome → Prop where
  | matched {t t' : Trail} (h : link t t') : Linked link (.matched t) (.matched t')
  | failed {t t' : Trail} (h : link t t') : Linked link (.failed t) (.failed t')

/-- What is done with a place keeps trails linked. -/
def ContinuesLinked (link : Trail → Trail → Prop) (k k' : Continuation) : Prop :=
  ∀ p t t', link t t' → Linked link (k p t) (k' p t')

namespace Linked

variable {link : Trail → Trail → Prop} {o o' : Outcome} {f f' g g' : Trail → Outcome}

theorem orElse (h : Linked link o o') (hf : ∀ t t', link t t' → Linked link (f t) (f' t')) :
    Linked link (o.orElse f) (o'.orElse f') := by
  cases h with
  | matched h => exact .matched h
  | failed h => exact hf _ _ h

theorem andThen (h : Linked link o o') (hf : ∀ t t', link t t' → Linked link (f t) (f' t')) :
    Linked link (o.andThen f) (o'.andThen f') := by
  cases h with
  | matched h => exact hf _ _ h
  | failed h => exact .failed h

/-- Trails stay linked when what is done after an attempt depends on whether it matches. -/
theorem either : Linked link o o' → (∀ t t', link t t' → Linked link (f t) (f' t')) →
    (∀ t t', link t t' → Linked link (g t) (g' t')) →
    Linked link
      (match o with
        | .matched t => f t
        | .failed t => g t)
      (match o' with
        | .matched t => f' t
        | .failed t => g' t)
  | .matched h, hf, _ => hf _ _ h
  | .failed h, _, hg => hg _ _ h

end Linked
end Outcome

open Outcome (Linked ContinuesLinked)

/-- What is tried at a place keeps trails linked. -/
def RunsLinked (link : Trail → Trail → Prop)
    (body body' : Place → Trail → Continuation → Outcome) : Prop :=
  ∀ p t t' k k', link t t' → ContinuesLinked link k k' → Linked link (body p t k) (body' p t' k')

section Linkage

variable {link : Trail → Trail → Prop} {modes : Bool → Bool → Prop}
  {captures references : Nat → Nat} {captured referred : Nat → Prop}
  (hlink : Linkage link modes captures references captured referred)
include hlink

namespace Linkage

theorem failingAt {o o' : Outcome} (h : Linked link o o') (p : Place) :
    Linked link (o.failingAt p) (o'.failingAt p) :=
  h.orElse fun _ _ ht => .failed (hlink.visit p ht)

theorem stop : ContinuesLinked link Outcome.stop Outcome.stop :=
  fun p _ _ ht => .matched (hlink.visit p ht)

theorem counted {t t' : Trail} (test : CharTest) (p : Place) (count : Nat) (ht : link t t') :
    link (test.counted p count t) (test.counted p count t') := hlink.visit _ ht

end Linkage

/-! ## Repetitions of one character -/

section Characters

variable {k k' : Continuation} (hk : ContinuesLinked link k k') {repeating repeating' : Bool}
  {t t' : Trail}
include hk

theorem giveBack_linked {saved saved' : List (Option Nat)}
    (hsaved : ∀ u u', link u u' →
      link (u.restore repeating saved) (u'.restore repeating' saved'))
    {next : Option CharTest} (extra : Nat) (p : Place) (ht : link t t') :
    Linked link (giveBack repeating next k saved extra p t)
      (giveBack repeating' next k' saved' extra p t') := by
  have hhere {p : Place} {t t' : Trail} (ht : link t t') :
      Linked link
        (if isBarred next p then .failed t
          else (k p (t.visit p)).orElse fun u => .failed (u.restore repeating saved))
        (if isBarred next p then .failed t'
          else (k' p (t'.visit p)).orElse fun u => .failed (u.restore repeating' saved')) := by
    split
    · exact .failed ht
    · refine (hk p _ _ (hlink.visit p ht)).orElse fun u u' hu => ?_
      exact .failed (hsaved u u' hu)
  induction extra generalizing p t t' with
  | zero => exact hhere ht
  | succ n ih => exact (hhere ht).orElse fun u u' hu => ih p.backward hu

theorem takeMore_linked {saved saved' : List (Option Nat)}
    (hsaved : ∀ u u', link u u' →
      link (u.restore repeating saved) (u'.restore repeating' saved'))
    {test : CharTest} (after : List Char) (extra : Option Nat) (p : Place) (ht : link t t') :
    Linked link (takeMore repeating test k saved after extra p t)
      (takeMore repeating' test k' saved' after extra p t') := by
  induction after generalizing extra p t t' with
  | nil =>
    refine (hk p _ _ (hlink.visit p ht)).orElse fun u u' hu => ?_
    exact .failed (hlink.counted _ _ _ (hsaved u u' hu))
  | cons c rest ih =>
    refine (hk p _ _ (hlink.visit p ht)).orElse fun u u' hu => ?_
    have hv := hlink.counted test p (test.count (some 1) (c :: rest)) (hsaved u u' hu)
    dsimp only
    split
    · exact ih _ _ hv
    · exact .failed hv

theorem runRepeated_linked (test : CharTest) (appetite : Appetite) (least : Nat)
    (most : Option Nat) (next : Option CharTest) (p : Place) (hmode : modes repeating repeating')
    (ht : link t t') :
    Linked link (test.runRepeated appetite least most repeating next p t k)
      (test.runRepeated appetite least most repeating' next p t' k') := by
  unfold CharTest.runRepeated
  have hcounted (count : Nat) := hlink.counted test p count ht
  have hsaved (count : Nat) (u u' : Trail) (hu : link u u') :=
    hlink.restore hmode (hcounted count) hu
  split
  · exact .failed ht
  · cases appetite with
    | greedy =>
      dsimp only
      split
      · exact .failed (hcounted _)
      · exact giveBack_linked hlink hk (hsaved _) _ _ (hcounted _)
    | lazy =>
      dsimp only
      split
      · exact .failed (hcounted _)
      · exact takeMore_linked hlink hk (hsaved _) _ _ _ (hcounted _)
    | possessive =>
      dsimp only
      split
      · exact .failed (hcounted _)
      · exact hk _ _ _ (hcounted _)

end Characters

/-! ## Other repetitions -/

section Loops

variable {body body' : Place → Trail → Continuation → Outcome} (hbody : RunsLinked link body body')
  {least : Nat} {most : Option Nat} {t t' : Trail}
include hbody

theorem greedyLoop_linked {k k' : Continuation} (hk : ContinuesLinked link k k')
    (fuel count : Nat) (last : Option Nat) (p : Place) (ht : link t t') :
    Linked link (greedyLoop body least most k fuel count last p t)
      (greedyLoop body' least most k' fuel count last p t') := by
  induction fuel generalizing count last p t t' with
  | zero => exact .failed ht
  | succ fuel ih =>
    have hround (count : Nat) (last : Option Nat) :=
      hbody p _ _ _ _ (hlink.visit p ht) fun q u u' hu => ih count last q hu
    unfold greedyLoop
    split
    · exact hlink.failingAt (hround _ _) p
    · split
      · refine (hround _ _).orElse fun u u' hu => hlink.failingAt ?_ p
        exact hk p _ _ (hlink.visit p (hlink.restore hlink.repeating ht hu))
      · exact hlink.failingAt (hk p _ _ (hlink.visit p ht)) p

theorem lazyLoop_linked {repeating repeating' : Bool} (hmode : modes repeating repeating')
    {k k' : Continuation} (hk : ContinuesLinked link k k') (fuel count : Nat) (last : Option Nat)
    (p : Place) (ht : link t t') :
    Linked link (lazyLoop repeating body least most k fuel count last p t)
      (lazyLoop repeating' body' least most k' fuel count last p t') := by
  induction fuel generalizing count last p t t' with
  | zero => exact .failed ht
  | succ fuel ih =>
    have hround (count : Nat) (last : Option Nat) {v v' : Trail} (hv : link v v') :=
      hbody p _ _ _ _ hv fun q u u' hu => ih count last q hu
    unfold lazyLoop
    split
    · exact hlink.failingAt (hround _ _ (hlink.visit p ht)) p
    · refine (hk p _ _ (hlink.visit p ht)).orElse fun u u' hu => ?_
      have hv := hlink.visit p (hlink.restore hmode ht hu)
      dsimp only
      split
      · exact hlink.failingAt (hround _ _ hv) p
      · exact .failed hv

theorem possessiveLoop_linked (start : Place) (fuel count : Nat) (last : Option Nat)
    (ht : link t t') :
    Linked link (possessiveLoop body least most start fuel count last t)
      (possessiveLoop body' least most start fuel count last t') := by
  induction fuel generalizing count last t t' with
  | zero => exact .failed ht
  | succ fuel ih =>
    have hround := hbody t.place t t' _ _ ht hlink.stop
    unfold possessiveLoop
    rw [← hlink.place ht]
    split
    · exact (hlink.failingAt hround start).andThen fun u u' hu => ih _ _ hu
    · split
      -- A round that fails is the last one: what it marked is taken back, but not the place.
      · exact hround.either (fun u u' hu => ih _ _ hu) fun u u' hu =>
          .matched (hlink.restore hlink.repeating ht hu)
      · exact .matched ht

end Loops

/-! ## Nodes -/

namespace Node

omit hlink in
theorem firstTest?_renumbered (n : Node) (next : Option CharTest) :
    (n.renumbered captures references).firstTest? next = n.firstTest? next := by
  induction n generalizing next with
  | seq a b iha ihb => simp only [renumbered, firstTest?, iha, ihb]
  | _ => rfl

omit hlink in
theorem isVoid_renumbered (n : Node) : (n.renumbered captures references).isVoid = n.isVoid := by
  induction n with
  | seq a b iha ihb => simp only [renumbered, isVoid, iha, ihb]
  | _ => rfl

omit hlink in
/-- `run` of a repetition of more than one character is the loop of its appetite. -/
theorem run_repeated {body : Node} (h : ∀ test, body ≠ .one test) (appetite : Appetite)
    (least : Nat) (most : Option Nat) (repeating : Bool) (next : Option CharTest) (p : Place)
    (t : Trail) (k : Continuation) :
    (Node.repeated appetite least most body).run repeating next p t k
      = match appetite with
        | .greedy => greedyLoop (body.run true none) least most k (roundsFrom least p) 0 none p t
        | .lazy =>
          lazyLoop repeating (body.run true none) least most k (roundsFrom least p) 0 none p t
        | .possessive =>
          (possessiveLoop (body.run repeating none) least most p (roundsFrom least p) 0 none
            (t.visit p)).andThen fun u => k u.place u := by
  cases body with
  | one test => exact absurd rfl (h test)
  | _ => rfl

section

variable {repeating repeating' : Bool} {body : Node}

omit hlink in
theorem renumbered_ne_one (h : ∀ test, body ≠ .one test) (test : CharTest) :
    body.renumbered captures references ≠ .one test := by
  intro hone
  cases body with
  | one test => exact h test rfl
  | _ => cases hone

/-- Single characters are counted at once; everything else goes round a loop. -/
theorem repeated_linked (hmode : modes repeating repeating')
    (hbody : ∀ {inner inner' : Bool}, modes inner inner' →
      RunsLinked link (body.run inner none) ((body.renumbered captures references).run inner' none))
    (appetite : Appetite) (least : Nat) (most : Option Nat) (next : Option CharTest) :
    RunsLinked link ((repeated appetite least most body).run repeating next)
      ((repeated appetite least most (body.renumbered captures references)).run
        repeating' next) := by
  intro p t t' k k' ht hk
  by_cases hone : ∃ test, body = .one test
  · obtain ⟨test, rfl⟩ := hone
    exact runRepeated_linked hlink hk test appetite least most next p hmode ht
  have hmany (test : CharTest) : body ≠ .one test := fun h => hone ⟨test, h⟩
  rw [run_repeated hmany, run_repeated (renumbered_ne_one hmany)]
  cases appetite with
  | greedy => exact greedyLoop_linked hlink (hbody hlink.repeating) hk _ _ _ _ ht
  | lazy => exact lazyLoop_linked hlink (hbody hlink.repeating) hmode hk _ _ _ _ ht
  | possessive =>
    refine (possessiveLoop_linked hlink (hbody hmode) p _ _ _ (hlink.visit p ht)).andThen
      fun u u' hu => ?_
    rw [← hlink.place hu]
    exact hk _ _ _ hu

variable (hmode : modes repeating repeating')
  (hbody : RunsLinked link (body.run repeating none)
    ((body.renumbered captures references).run repeating' none))

include hmode hbody

theorem ahead_linked (negated : Bool) (next : Option CharTest) :
    RunsLinked link ((ahead negated body).run repeating next)
      ((ahead negated (body.renumbered captures references)).run repeating' next) := by
  intro p t t' k k' ht hk
  have hinside := hbody p _ _ _ _ (hlink.visit p ht) hlink.stop
  cases negated with
  | false => exact hinside.andThen fun u u' hu => hk _ _ _ hu
  | true =>
    exact hinside.either (fun u u' hu => .failed hu) fun u u' hu =>
      hk _ _ _ (hlink.restore hmode ht hu)

theorem behind_linked (negated : Bool) (width : Width) (next : Option CharTest) :
    RunsLinked link ((behind negated width body).run repeating next)
      ((behind negated width (body.renumbered captures references)).run repeating' next) := by
  intro p t t' k k' ht hk
  simp only [run]
  split
  · split
    · exact hk _ _ _ ht
    · exact .failed ht
  · have hvisit := hlink.visit (p.backwardBy width.least) ht
    have hinside := hbody (p.backwardBy width.least) _ _ _ _ hvisit hlink.stop
    refine hinside.either (fun u u' hu => ?_) fun u u' hu => ?_
    · split
      · exact .failed hu
      · exact hk _ _ _ hu
    · split
      · exact hk _ _ _ (hlink.restore hmode ht hu)
      · exact .failed hu

end

/-- An expression does the same with other numbers, from linked trails. -/
theorem runsLinked {n : Node} (h : n.Numbered captured referred) {repeating repeating' : Bool}
    (hmode : modes repeating repeating') (next : Option CharTest) :
    RunsLinked link (n.run repeating next)
      ((n.renumbered captures references).run repeating' next) := by
  induction n generalizing repeating repeating' next with
  | empty => exact fun p t t' k k' ht hk => hk p t t' ht
  | never => exact fun p t t' k k' ht hk => .failed ht
  | one test =>
    intro p t t' k k' ht hk
    simp only [renumbered, run]
    split
    · exact .failed ht
    · split
      · exact hk _ _ _ ht
      · exact .failed ht
  | anchor a =>
    intro p t t' k k' ht hk
    simp only [renumbered, run]
    split
    · exact hk _ _ _ ht
    · exact .failed ht
  | seq a b iha ihb =>
    intro p t t' k k' ht hk
    simp only [renumbered, run, firstTest?_renumbered]
    exact iha h.1 hmode _ p t t' _ _ ht fun q u u' hu => ihb h.2 hmode _ q u u' _ _ hu hk
  | alt a b iha ihb =>
    intro p t t' k k' ht hk
    simp only [renumbered, run, firstTest?_renumbered]
    refine Linked.orElse ?_ fun u u' hu => ihb h.2 hmode _ p u u' _ _ hu hk
    split
    · exact .failed ht
    · refine (iha h.1 hmode none p _ _ _ _ (hlink.visit p ht) hk).orElse fun u u' hu => ?_
      exact .failed (hlink.restore hmode ht hu)
  | capture index body ih =>
    intro p t t' k k' ht hk
    simp only [renumbered, run]
    refine ih h.2 hmode _ p _ _ _ _ (hlink.enter p h.1 ht) fun q u u' hu => ?_
    exact hk _ _ _ (hlink.leave q h.1 hu)
  | repeated appetite least most body ih =>
    exact repeated_linked hlink hmode (fun hinner => ih h hinner none) appetite least most next
  | atomic body ih =>
    intro p t t' k k' ht hk
    simp only [renumbered, run]
    have hbody := ih h hmode none p _ _ _ _ (hlink.visit p ht) hlink.stop
    refine (hlink.failingAt hbody p).andThen fun u u' hu => ?_
    rw [← hlink.place hu]
    exact hk _ _ _ hu
  | ahead negated body ih => exact ahead_linked hlink hmode (ih h hmode none) negated next
  | behind negated width body ih =>
    exact behind_linked hlink hmode (ih h hmode none) negated width next
  | back index fold =>
    intro p t t' k k' ht hk
    simp only [renumbered, run, hlink.group h ht]
    split
    · exact .failed ht
    · split
      · exact .failed ht
      · exact hk _ _ _ ht
  | whether index yes no ihyes ihno =>
    intro p t t' k k' ht hk
    simp only [renumbered, run, hlink.group h.1 ht, isVoid_renumbered]
    split
    · exact ihyes h.2.1 hmode _ p _ _ _ _ ht hk
    · exact ihno h.2.2 hmode _ p _ _ _ _ ht hk

end Node
end Linkage
end Regex
end QueryOptions
