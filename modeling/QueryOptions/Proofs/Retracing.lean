import QueryOptions.Proofs.RepeatedItems
import QueryOptions.Proofs.GrammarSteps

/-!
# QueryOptions.Proofs.Retracing

An expression that is read again, by a reader that counts characters from another place and with
another fuel. What the first reader makes of the grammar, the second one makes of it, too, by
induction on the fuel of the first one (`retraces`). The fuel of the second one has to be enough for
the symbols that are left: three steps for each of them, since a group takes three steps to get to
what is inside of it, and a few to get to the end.

* `Retraces`: what two readers make of the same symbols, with one field for each function of the
  grammar;
* `retraces`: they do on any fuel of the first one.
-/

namespace QueryOptions
namespace Regex

/-- Options that differ at most in the one for the full alphabet, by which nothing is read. -/
def Flags.Akin (f f' : Flags) : Prop := ∃ unicode, f' = { f with unicode }

namespace Flags

variable {f f' : Flags}

theorem Akin.refl (f : Flags) : f.Akin f := ⟨f.unicode, rfl⟩

theorem Akin.union (h : f.Akin f') (added : Flags) : (f.union added).Akin (f'.union added) := by
  obtain ⟨unicode, rfl⟩ := h
  exact ⟨_, rfl⟩

theorem Akin.within (h : f.Akin f') (added removed : Flags) :
    (f.within added removed).Akin (f'.within added removed) := by
  obtain ⟨unicode, rfl⟩ := h
  exact ⟨_, rfl⟩

theorem Akin.fold (h : f.Akin f') : f'.fold = f.fold := by
  obtain ⟨unicode, rfl⟩ := h
  rfl

end Flags

namespace Reader

/-- What a reader with enough fuel makes of the symbols that another one has read. At the top, both
go by the options of the whole expression. -/
structure Retraces (fuel : Nat) : Prop where
  alternatives {top : Bool} {base base' scope scope' : Flags} {fuel' : Nat} {p p' : Progress}
    (hscope : scope.Akin scope') (htop : top = true → scope = base ∧ scope' = base')
    (hfuel : 3 * p.rest.length + 2 ≤ fuel') (hp : Alike base base' p p') :
    Leads (alternatives top fuel scope) (alternatives top fuel' scope') p p'
      (Ends base base' (fun _ => top = false) p)
  moreAlternatives {base base' scope scope' : Flags} {fuel' : Nat} {p p' : Progress}
    (hscope : scope.Akin scope') (hfuel : 3 * p.rest.length + 1 ≤ fuel')
    (hp : Alike base base' p p') :
    Leads (moreAlternatives fuel scope) (moreAlternatives fuel' scope') p p'
      (Ends base base' (fun _ => True) p)
  sequence {top : Bool} {base base' scope scope' : Flags} {fuel' : Nat} {items : List Item}
    {p p' : Progress} (hscope : scope.Akin scope')
    (htop : top = true → scope = base ∧ scope' = base') (hfuel : 3 * p.rest.length + 1 ≤ fuel')
    (hp : Alike base base' p p') :
    Leads (sequence top fuel scope items) (sequence top fuel' scope' items) p p'
      (Ends base base' (fun _ => top = false ∨ items ≠ []) p)
  group {top noItems : Bool} {base base' scope scope' : Flags} {start start' fuel' : Nat}
    {p p' : Progress} (hscope : scope.Akin scope') (hfuel : 3 * p.rest.length + 3 ≤ fuel')
    (hp : Alike base base' p p') :
    Leads (group top fuel scope start noItems) (group top fuel' scope' start' noItems) p p'
      (Ends base base' (fun a => a ≠ none ∨ top = false ∨ noItems = false) p)

theorem retraces_zero : Retraces 0 where
  alternatives _ _ _ _ := (fails_refuse _ _).leads
  moreAlternatives _ _ _ := (fails_refuse _ _).leads
  sequence _ _ _ _ := (fails_refuse _ _).leads
  group _ _ _ := (fails_refuse _ _).leads

section Grammar

variable {fuel fuel' : Nat} {base base' scope scope' : Flags} {p p' : Progress}

/-- The options of what comes next: at the top those of the whole expression. -/
theorem leads_options (top : Bool) (hp : Alike base base' p p') :
    Leads (do if top then return (← get).flags else return scope)
      (do if top then return (← get).flags else return scope') p p' fun a q a' q' =>
        a = (if top then base else scope) ∧ a' = (if top then base' else scope') ∧
          q = p ∧ q' = p' := by
  cases top with
  | false => exact leads_pure ⟨rfl, rfl, rfl, rfl⟩
  | true =>
    rintro _ _ ⟨⟩
    exact ⟨_, _, rfl, hp.flags, hp.flags', rfl, rfl⟩

/-- The alternatives after the first one, and the choice between all of them. -/
theorem Retraces.choice (ih : Retraces fuel) {top : Bool} (first : List Piece)
    (hscope : (if top then base else scope).Akin (if top then base' else scope'))
    (hfuel : 3 * p.rest.length + 1 ≤ fuel') (hp : Alike base base' p p') :
    Leads
      (do
        let inner ← (do if top then return (← get).flags else return scope)
        let others ← Reader.moreAlternatives fuel inner
        return piecesOfAlternatives inner.fold first others)
      (do
        let inner ← (do if top then return (← get).flags else return scope')
        let others ← Reader.moreAlternatives fuel' inner
        return piecesOfAlternatives inner.fold first others) p p'
      fun a q a' q' => a = a' ∧ Alike base base' q q' ∧ q.rest.length ≤ p.rest.length := by
  refine (leads_options top hp).bind ?_
  rintro _ _ _ _ ⟨rfl, rfl, rfl, rfl⟩
  refine (ih.moreAlternatives hscope (by omega) hp).bind ?_
  intro others q others' q' hends
  obtain ⟨rfl, hq, hle⟩ := hends.alike trivial
  rw [hscope.fold]
  exact leads_pure ⟨rfl, hq, hle⟩

/-- At the top a scope is made of the options of the whole expression. -/
theorem akin_options {top : Bool} {added : Flags} (hscope : scope.Akin scope')
    (htop : top = true → scope = base ∧ scope' = base') :
    (if top then base.union added else scope).Akin
      (if top then base'.union added else scope') := by
  cases top with
  | false => exact hscope
  | true =>
    obtain ⟨rfl, rfl⟩ := htop rfl
    exact hscope.union added

theorem Retraces.alternatives_succ (ih : Retraces fuel) {top : Bool} (hscope : scope.Akin scope')
    (htop : top = true → scope = base ∧ scope' = base') (hfuel : 3 * p.rest.length + 2 ≤ fuel')
    (hp : Alike base base' p p') :
    Leads (Reader.alternatives top (fuel + 1) scope) (Reader.alternatives top fuel' scope') p p'
      (Ends base base' (fun _ => top = false) p) := by
  obtain ⟨fuel', rfl⟩ := Nat.exists_eq_succ_of_ne_zero (show fuel' ≠ 0 by omega)
  unfold Reader.alternatives
  refine (ih.sequence hscope htop (by omega) hp).bind ?_
  rintro first q _ q' ⟨rfl, hle, added, hadded, hq⟩
  refine (ih.choice first (akin_options hscope htop) (by omega) hq).mono ?_
  rintro pieces r _ r' ⟨rfl, hr, hle'⟩
  exact ⟨rfl, Nat.le_trans hle' hle, added, fun h => hadded (.inl h), hr⟩

theorem Retraces.moreAlternatives_succ (ih : Retraces fuel) (hscope : scope.Akin scope')
    (hfuel : 3 * p.rest.length + 1 ≤ fuel') (hp : Alike base base' p p') :
    Leads (Reader.moreAlternatives (fuel + 1) scope) (Reader.moreAlternatives fuel' scope') p p'
      (Ends base base' (fun _ => True) p) := by
  obtain ⟨fuel', rfl⟩ := Nat.exists_eq_succ_of_ne_zero (show fuel' ≠ 0 by omega)
  unfold Reader.moreAlternatives
  refine (leads_accept '|' hp).bind ?_
  rintro isMore q _ q' ⟨rfl, hq, hlength⟩
  cases isMore with
  | false => exact leads_pure (ends_of_alike hq (Nat.le_of_eq hlength))
  | true =>
    have hlt : q.rest.length < p.rest.length := hlength
    have hinside : false = true → scope = base ∧ scope' = base' := nofun
    refine (ih.sequence hscope hinside (by omega) hq).bind ?_
    intro pieces r pieces' r' hends
    obtain ⟨rfl, hr, hle⟩ := hends.alike (.inl rfl)
    refine (ih.moreAlternatives hscope (by omega) hr).bind ?_
    intro others s others' s' hends
    obtain ⟨rfl, hs, hle'⟩ := hends.alike trivial
    exact leads_pure (ends_of_alike hs (by omega))

section Sequence

variable {top : Bool} {items : List Item} {q q' : Progress} (ih : Retraces fuel)
  (hscope : scope.Akin scope') (htop : top = true → scope = base ∧ scope' = base')
  (hfuel : 3 * p.rest.length ≤ fuel')

include ih hscope htop hfuel

/-- `sequence` is retraced after one of its symbols: if there were items before, there still are. -/
theorem Retraces.further {items' : List Item} (hitems : items ≠ [] → items' ≠ [])
    (hq : Alike base base' q q') (hlt : q.rest.length < p.rest.length) :
    Leads (Reader.sequence top fuel scope items') (Reader.sequence top fuel' scope' items') q q'
      (Ends base base' (fun _ => top = false ∨ items ≠ []) p) :=
  (ih.sequence hscope htop (by omega) hq).mono fun _ _ _ _ h =>
    h.mono (Nat.le_of_lt hlt) (Or.imp_right hitems)

/-- `sequence` is retraced after a step that reads one piece and goes forward. -/
theorem Retraces.piece {m : Reader Piece} (hm : Repeats base base' p.rest.length Eq m m)
    (hq : Alike base base' q q') (hlt : q.rest.length < p.rest.length) :
    Leads (m >>= fun piece => Reader.sequence top fuel scope (.piece piece :: items))
      (m >>= fun piece => Reader.sequence top fuel' scope' (.piece piece :: items)) q q'
      (Ends base base' (fun _ => top = false ∨ items ≠ []) p) := by
  refine (hm q q' hq (Nat.le_of_lt hlt)).bind ?_
  rintro piece r _ r' ⟨rfl, hr, hle⟩
  exact ih.further hscope htop hfuel (fun _ => List.cons_ne_nil _ _) hr (by omega)

/-- After options for the whole expression the sequence goes on under them. -/
theorem Retraces.afterGroup {o : Progress} {item item' : Option Item}
    (h : Ends base base' (fun a => a ≠ none ∨ top = false ∨ items.isEmpty = false) o
      item q item' q')
    (hlt : o.rest.length < p.rest.length) :
    Leads (Reader.afterGroup top fuel scope items item)
      (Reader.afterGroup top fuel' scope' items item') q q'
      (Ends base base' (fun _ => top = false ∨ items ≠ []) p) := by
  obtain rfl := h.1
  cases item with
  | some item =>
    obtain ⟨-, hq, hle⟩ := h.alike (.inl nofun)
    exact ih.further hscope htop hfuel (fun _ => List.cons_ne_nil _ _) hq (by omega)
  | none =>
    obtain ⟨-, hle, added, hadded, hq⟩ := h
    have hkept (h : top = false ∨ items ≠ []) : added = {} := by
      refine hadded (.inr (h.imp_right fun hitems => ?_))
      simpa using hitems
    unfold Reader.afterGroup
    refine (leads_options top hq).bind ?_
    rintro _ _ _ _ ⟨rfl, rfl, rfl, rfl⟩
    have htop' (h : top = true) : (if top then base.union added else scope) = base.union added ∧
        (if top then base'.union added else scope') = base'.union added :=
      ⟨if_pos h, if_pos h⟩
    refine (ih.sequence (akin_options hscope htop) htop' (by omega) hq).mono ?_
    intro _ _ _ _ h
    exact h.after (by omega) fun hitems => ⟨hitems, hkept hitems⟩

theorem Retraces.afterBounds (start start' : Nat) (c : Char) (counts : Option (Nat × Option Nat))
    (hq : Alike base base' q q') (hlt : q.rest.length < p.rest.length) :
    Leads (Reader.afterBounds top fuel scope items start c counts)
      (Reader.afterBounds top fuel' scope' items start' c counts) q q'
      (Ends base base' (fun _ => top = false ∨ items ≠ []) p) := by
  obtain ⟨unicode, rfl⟩ := hscope
  have hscope : scope.Akin { scope with unicode } := ⟨unicode, rfl⟩
  cases counts with
  | none => exact ih.further hscope htop hfuel (fun _ => List.cons_ne_nil _ _) hq hlt
  | some counts =>
    refine (repeats_repetition start start' _ _ items q q' hq (Nat.le_refl _)).bind ?_
    rintro repeated r _ r' ⟨⟨rfl, hrepeated⟩, hr, hle⟩
    exact ih.further hscope htop hfuel (fun _ => hrepeated) hr (by omega)

theorem Retraces.fromCharacter {c : Char} {rest : List Symbol} (hp : Alike base base' p p')
    (hrest : p.rest = .plain c :: rest) :
    Leads (Reader.fromCharacter top fuel scope items c)
      (Reader.fromCharacter top fuel' scope' items c) p p'
      (Ends base base' (fun _ => top = false ∨ items ≠ []) p) := by
  obtain ⟨unicode, rfl⟩ := hscope
  have hscope : scope.Akin { scope with unicode } := ⟨unicode, rfl⟩
  refine leads_get (leads_next_cons hp hrest fun q q' hq hqrest => ?_)
  have hlt : q.rest.length < p.rest.length := by
    rw [hqrest, hrest]
    exact Nat.lt_succ_self _
  have hpiece (piece : Piece) :
      Leads (Reader.sequence top fuel scope (.piece piece :: items))
        (Reader.sequence top fuel' { scope with unicode } (.piece piece :: items)) q q'
        (Ends base base' (fun _ => top = false ∨ items ≠ []) p) :=
    ih.further hscope htop hfuel (fun _ => List.cons_ne_nil _ _) hq hlt
  refine leads_ite (fun _ => ih.further hscope htop hfuel id hq hlt) fun _ =>
    leads_ite (fun _ => ?comment) fun _ => leads_ite (fun _ => ?set) fun _ =>
    leads_ite (fun _ => hpiece _) fun _ => leads_ite (fun _ => hpiece _) fun _ =>
    leads_ite (fun _ => hpiece _) fun _ => leads_ite (fun _ => ?group) fun _ =>
    leads_ite (fun _ => ?repetition) fun _ => hpiece _
  case comment =>
    apply leads_get
    rw [hq.rest]
    refine (repeats_skipPast '\n' _ q q' hq (Nat.le_refl _)).bind ?_
    rintro found r _ r' ⟨rfl, hr, hle⟩
    exact ih.further hscope htop hfuel id hr (by omega)
  case set =>
    rw [characterSet_alphabet scope unicode]
    exact ih.piece hscope htop hfuel (repeats_characterSet scope) hq hlt
  case group =>
    refine (ih.group hscope (by omega) hq).bind ?_
    exact fun item r item' r' h => ih.afterGroup hscope htop hfuel h hlt
  case repetition =>
    refine (repeats_bounds c q q' hq (Nat.le_refl _)).bind ?_
    rintro counts r _ r' ⟨rfl, hr, hle⟩
    exact ih.afterBounds hscope htop hfuel _ _ c counts hr (by omega)

end Sequence

theorem Retraces.sequence_succ (ih : Retraces fuel) {top : Bool} {items : List Item}
    (hscope : scope.Akin scope') (htop : top = true → scope = base ∧ scope' = base')
    (hfuel : 3 * p.rest.length + 1 ≤ fuel') (hp : Alike base base' p p') :
    Leads (Reader.sequence top (fuel + 1) scope items) (Reader.sequence top fuel' scope' items) p p'
      (Ends base base' (fun _ => top = false ∨ items ≠ []) p) := by
  obtain ⟨fuel', rfl⟩ := Nat.exists_eq_succ_of_ne_zero (show fuel' ≠ 0 by omega)
  have hfuel : 3 * p.rest.length ≤ fuel' := by omega
  have hdone : Leads (pure (items.reverse.flatMap Item.pieces) : Reader (List Piece))
      (pure (items.reverse.flatMap Item.pieces)) p p'
      (Ends base base' (fun _ => top = false ∨ items ≠ []) p) :=
    leads_pure (ends_of_alike hp (Nat.le_refl _))
  rw [sequence_eq, sequence_eq]
  apply leads_get
  rw [hp.rest]
  cases hrest : p.rest with
  | nil => exact hdone
  | cons s rest =>
    cases s with
    | dangling => exact (fails_refuse _ _).leads
    | escaped c =>
      refine leads_next_cons hp hrest fun q q' hq hqrest => ?_
      have hlt : q.rest.length < p.rest.length := by
        rw [hqrest, hrest]
        exact Nat.lt_succ_self _
      obtain ⟨unicode, rfl⟩ := hscope
      exact ih.piece ⟨unicode, rfl⟩ htop hfuel (repeats_escape scope c) hq hlt
    | plain c =>
      exact leads_ite (fun _ => hdone) fun _ => ih.fromCharacter hscope htop hfuel hp hrest

/-- The alternatives of a group are retraced, and what is made of them. -/
theorem Retraces.inside (ih : Retraces fuel) {k : Nat} (hscope : scope.Akin scope')
    (hfuel : 3 * k + 2 ≤ fuel') {f f' : List Piece → Reader (Option Item)}
    (h : ∀ body, Repeats base base' k Eq (f body) (f' body)) :
    Repeats base base' k Eq (Reader.alternatives false fuel scope >>= f)
      (Reader.alternatives false fuel' scope' >>= f') := by
  have hbelow : false = true → scope = base ∧ scope' = base' := nofun
  have hinside : Repeats base base' k Eq (Reader.alternatives false fuel scope)
      (Reader.alternatives false fuel' scope') := fun p p' hp hk =>
    (ih.alternatives hscope hbelow (by omega) hp).mono fun _ _ _ _ hends => hends.alike rfl
  refine hinside.bind ?_
  rintro body _ rfl
  exact h body

theorem Retraces.branch (ih : Retraces fuel) {k : Nat} (hscope : scope.Akin scope')
    (hfuel : 3 * k + 1 ≤ fuel') :
    Repeats base base' k Eq (Reader.sequence false fuel scope [])
      (Reader.sequence false fuel' scope' []) := by
  intro p p' hp hk
  have hbelow : false = true → scope = base ∧ scope' = base' := nofun
  exact (ih.sequence hscope hbelow (by omega) hp).mono fun _ _ _ _ hends => hends.alike (.inl rfl)

theorem Retraces.otherBranch (ih : Retraces fuel) {k : Nat} (hscope : scope.Akin scope')
    (hfuel : 3 * k + 1 ≤ fuel') :
    Repeats base base' k Eq (Reader.otherBranch fuel scope) (Reader.otherBranch fuel' scope') := by
  refine (repeats_accept '|').bind ?_
  rintro isMore _ rfl
  refine repeats_ite (fun _ => (ih.branch hscope hfuel).bind ?_) fun _ => repeats_pure rfl
  rintro no _ rfl
  refine repeats_get fun p p' hp => ?_
  rw [hp.rest]
  exact repeats_unless ((fails_refuse _ _).bind _) (repeats_pure rfl)

/-- Both branches of a condition are retraced, and what is made of them. -/
theorem Retraces.branches (ih : Retraces fuel) {k : Nat} (hscope : scope.Akin scope')
    (hfuel : 3 * k + 1 ≤ fuel') {f f' : List Piece → List Piece → Reader (Option Item)}
    (h : ∀ yes no, Repeats base base' k Eq (f yes no) (f' yes no)) :
    Repeats base base' k Eq
      (do f (← Reader.sequence false fuel scope []) (← Reader.otherBranch fuel scope))
      (do f' (← Reader.sequence false fuel' scope' []) (← Reader.otherBranch fuel' scope')) := by
  refine (ih.branch hscope hfuel).bind ?_
  rintro yes _ rfl
  refine (ih.otherBranch hscope hfuel).bind ?_
  rintro no _ rfl
  exact h yes no

theorem Retraces.group_succ (ih : Retraces fuel) {top noItems : Bool} {start start' : Nat}
    (hscope : scope.Akin scope') (hfuel : 3 * p.rest.length + 3 ≤ fuel')
    (hp : Alike base base' p p') :
    Leads (Reader.group top (fuel + 1) scope start noItems)
      (Reader.group top fuel' scope' start' noItems) p p'
      (Ends base base' (fun a => a ≠ none ∨ top = false ∨ noItems = false) p) := by
  obtain ⟨fuel', rfl⟩ := Nat.exists_eq_succ_of_ne_zero (show fuel' ≠ 0 by omega)
  obtain ⟨unicode, rfl⟩ := hscope
  have hscope : scope.Akin { scope with unicode } := ⟨unicode, rfl⟩
  unfold Reader.group
  rw [opening_alphabet scope unicode]
  refine (leads_opening scope start start' _ hp).bind ?_
  intro o q o' q' hends
  have hsame := hends.1
  subst hsame
  have hclosed {k : Nat} {f f' : Unit → Reader (Option Item)}
      (h : Repeats base base' k Eq (f ()) (f' ())) :
      Repeats base base' k Eq (closing start >>= f) (closing start' >>= f') :=
    (repeats_closing start start').bind fun _ _ _ => h
  have hitem {k : Nat} {item : Item} : Repeats base base' k Eq (pure (some item))
      (pure (some item)) := repeats_pure rfl
  -- Everything but options for the whole expression leaves these as they are.
  have hplain (ho : o ≠ .nothing) {m m' : Reader (Option Item)}
      (h : Repeats base base' p.rest.length Eq m m') :
      Leads m m' q q' (Ends base base' (fun a => a ≠ none ∨ top = false ∨ noItems = false) p) := by
    obtain ⟨-, hq, hle⟩ := hends.alike (.inl ho)
    exact h.ends hq hle hle
  cases o with
  | nothing =>
    obtain ⟨-, hle, added, hadded, hq⟩ := hends
    refine leads_pure ⟨rfl, hle, added, fun hkept => hadded (.inr ?_), hq⟩
    rw [Bool.and_eq_false_iff]
    exact hkept.resolve_left fun h => h rfl
  | reference piece => exact hplain nofun hitem
  | capture name =>
    refine hplain nofun ((repeats_enter name).bind ?_)
    rintro index _ rfl
    refine ih.inside hscope (by omega) fun body => hclosed ?_
    exact (repeats_leave _ _).bind fun _ _ _ => hitem
  | together => exact hplain nofun (ih.inside hscope (by omega) fun body => hclosed hitem)
  | «scoped» added removed =>
    exact hplain nofun
      (ih.inside (hscope.within added removed) (by omega) fun body => hclosed hitem)
  | atomic => exact hplain nofun (ih.inside hscope (by omega) fun body => hclosed hitem)
  | ahead negated => exact hplain nofun (ih.inside hscope (by omega) fun body => hclosed hitem)
  | behind negated =>
    refine hplain nofun (repeats_get fun r r' hr => ?_)
    rw [hr.behindFrom]
    refine (repeats_setBehind fun _ _ h => by rw [h.groups]).bind fun _ _ _ => ?_
    refine ih.inside hscope (by omega) fun body => ?_
    refine (repeats_setBehind fun _ _ _ => rfl).bind fun _ _ _ => hclosed ?_
    refine repeats_get fun s s' hs => ?_
    rw [widths_of_alike hs]
    exact hitem
  | condition index =>
    exact hplain nofun (ih.branches hscope (by omega) fun yes no => hclosed hitem)

theorem retraces (fuel : Nat) : Retraces fuel := by
  induction fuel with
  | zero => exact retraces_zero
  | succ fuel ih =>
    exact {
      alternatives := ih.alternatives_succ
      moreAlternatives := ih.moreAlternatives_succ
      sequence := ih.sequence_succ
      group := ih.group_succ }

end Grammar
end Reader
end Regex
end QueryOptions
