import QueryOptions.Proofs.ReaderFaults

/-!
# QueryOptions.Proofs.GrammarFaults

What can go wrong while a text is read by the grammar: nothing but what goes wrong in its parts. On
any fuel, each function of the grammar goes on in the text or ends in a problem of it (`Heeding`),
by induction on the fuel (`heeding`). Groups are told apart by what stands after their parenthesis,
which is still a part of the text when they are read.
-/

namespace QueryOptions
namespace Regex
namespace Reader

variable {text : List Symbol} {p : Progress}

/-! ## Groups -/

theorem follows_conditionGroup : Follows text conditionGroup := by
  refine (follows_nameUntil _ _).bind fun name => Follows.bind (follows_ite ?_ ?_) fun index => ?_
  · refine follows_get fun _ => ?_
    split
    · exact (refuses_refuse _ _).follows
    · exact follows_pure _
  · split
    · exact (refuses_refuse _ _).follows
    · exact (refuses_refuse _ _).follows
    · refine follows_ite ((refuses_refuse _ _).bind _).follows fun p hp => heeds_get ?_
      exact heeds_ite (fun _ => heeds_set_pure (hp.stay rfl rfl)) fun _ => heeds_pure hp
  · exact (follows_checkBehind _).bind fun _ => follows_pure _

theorem follows_namedReference (scope : Flags) : Follows text (namedReference scope) := by
  refine (follows_nameUntil _ _).bind fun name => ?_
  refine follows_ite ((refuses_refuse _ _).bind _).follows (follows_get fun _ => ?_)
  split
  · exact (refuses_refuse _ _).follows
  · refine (follows_isClosed _).bind fun _ => ?_
    refine follows_ite ((refuses_refuse _ _).bind _).follows ?_
    exact (follows_checkBehind _).bind fun _ => follows_pure _

theorem follows_groupName : Follows text groupName := by
  refine (follows_nameUntil _ _).bind fun name => ?_
  exact follows_ite ((refuses_refuse _ _).bind _).follows (follows_pure _)

theorem follows_closing (start : Nat) : Follows text (closing start) := by
  refine (follows_accept ')').bind fun _ => ?_
  exact follows_ite (refuses_refuseAt _ _).follows (follows_pure _)

theorem follows_namedOpening (scope : Flags) : Follows text (namedOpening scope) := by
  refine (follows_accept '<').bind fun _ => follows_ite ?_ ((follows_accept '=').bind fun _ => ?_)
  · exact follows_groupName.bind fun _ => follows_pure _
  · refine follows_ite ?_ (follows_next.bind fun t => ?_)
    · exact (follows_namedReference scope).bind fun _ => follows_pure _
    · cases t <;> exact (refuses_refuse _ _).follows

theorem follows_commentOpening (start : Nat) : Follows text (commentOpening start) :=
  follows_get fun _ => (follows_skipPast ')' _).bind fun _ =>
    follows_ite (follows_pure _) (refuses_refuseAt _ _).follows

theorem follows_behindOpening : Follows text behindOpening := by
  refine follows_next.bind fun t => ?_
  cases t with
  | none => exact (refuses_refuse _ _).follows
  | some t =>
    exact follows_ite (follows_pure _) (follows_ite (follows_pure _) (refuses_refuse _ _).follows)

theorem heeds_flagsOpening (start : Nat) (first : Bool) {s : Symbol} (hp : Reached text p)
    (hopened : .plain '(' :: .plain '?' :: s :: p.rest <:+ text) :
    Heeds (Blamed text) (flagsOpening start first s) p fun _ => Reached text := by
  unfold flagsOpening
  split
  · exact (refuses_refuse _ _).heeds
  rename_i c f hflags
  obtain ⟨rfl, hc⟩ : s = .plain c ∧ (c = '-' ∨ flag? c = some f) := by
    split at hflags
    · rename_i hs
      cases hflags
      exact ⟨hs, .inl rfl⟩
    · obtain ⟨hs, hc⟩ := plain_of_flag hflags
      exact ⟨hs, .inr hc⟩
  refine (heeds_flagGroup hp hopened hc).bind fun given q hq => ?_
  cases given with
  | some flags => exact heeds_pure hq
  | none => exact heeds_ite (fun _ => ((refuses_refuseAt _ _).bind _).heeds) fun _ => heeds_pure hq

/-- `opening` fails only with a problem that the text is to blame for, and goes on in the text. -/
theorem heeds_opening (scope : Flags) (start : Nat) (first : Bool) (hp : Reached text p)
    (hopened : .plain '(' :: p.rest <:+ text) :
    Heeds (Blamed text) (opening scope start first) p fun _ => Reached text := by
  rw [opening_eq]
  refine (heeds_accept '?').bind fun isSpecial q hq => ?_
  replace hp := hp.drop hq
  refine heeds_ite (fun _ => heeds_pure hp) fun hspecial => ?_
  obtain rfl : isSpecial = true := by simpa using hspecial
  refine heeds_next.bind fun s r hr => ?_
  replace hp := hp.drop hr.2
  cases s with
  | none => exact (refuses_refuse _ _).heeds
  | some s =>
    have hannounced (o : Opening) : Heeds (Blamed text) (pure o) r fun _ => Reached text :=
      heeds_pure hp
    refine heeds_ite (fun _ => (follows_namedOpening scope).heeds hp) fun _ =>
      heeds_ite (fun _ => hannounced _) fun _ =>
      heeds_ite (fun _ => (follows_commentOpening start).heeds hp) fun _ =>
      heeds_ite (fun _ => hannounced _) fun _ =>
      heeds_ite (fun _ => hannounced _) fun _ =>
      heeds_ite (fun _ => follows_behindOpening.heeds hp) fun _ =>
      heeds_ite (fun _ => Follows.heeds ?condition hp) fun _ =>
      heeds_ite (fun _ => hannounced _) fun _ => ?options
    case condition => exact follows_conditionGroup.bind fun _ => follows_pure _
    case options =>
      rw [hq.rest, hr.2.rest] at hopened
      exact heeds_flagsOpening start first hp hopened

/-! ## The grammar -/

/-- On so much fuel the grammar goes on in the text, or ends in a problem of it. -/
structure Heeding (text : List Symbol) (fuel : Nat) : Prop where
  alternatives (top : Bool) (scope : Flags) : Follows text (alternatives top fuel scope)
  moreAlternatives (scope : Flags) : Follows text (moreAlternatives fuel scope)
  sequence (top : Bool) (scope : Flags) (items : List Item) :
    Follows text (sequence top fuel scope items)
  group (top : Bool) (scope : Flags) (start : Nat) (noItems : Bool) {p : Progress}
    (hp : Reached text p) (hopened : .plain '(' :: p.rest <:+ text) :
    Heeds (Blamed text) (group top fuel scope start noItems) p fun _ => Reached text

theorem heeding_zero : Heeding text 0 where
  alternatives _ _ := (refuses_refuse _ _).follows
  moreAlternatives _ := (refuses_refuse _ _).follows
  sequence _ _ _ := (refuses_refuse _ _).follows
  group _ _ _ _ _ _ _ := (refuses_refuse _ _).heeds

section Grammar

variable {fuel : Nat}

theorem follows_options (top : Bool) (scope : Flags) :
    Follows text (do if top then return (← get).flags else return scope) :=
  follows_ite (follows_get fun _ => follows_pure _) (follows_pure _)

theorem Heeding.alternatives_succ (ih : Heeding text fuel) (top : Bool) (scope : Flags) :
    Follows text (Reader.alternatives top (fuel + 1) scope) := by
  unfold Reader.alternatives
  refine (ih.sequence top scope []).bind fun first => ?_
  refine (follows_options top scope).bind fun inner => ?_
  exact (ih.moreAlternatives inner).bind fun others => follows_pure _

theorem Heeding.moreAlternatives_succ (ih : Heeding text fuel) (scope : Flags) :
    Follows text (Reader.moreAlternatives (fuel + 1) scope) := by
  unfold Reader.moreAlternatives
  refine (follows_accept '|').bind fun _ => follows_ite ?_ (follows_pure _)
  refine (ih.sequence false scope []).bind fun pieces => ?_
  exact (ih.moreAlternatives scope).bind fun others => follows_pure _

theorem Heeding.afterGroup (ih : Heeding text fuel) (top : Bool) (scope : Flags) (items : List Item)
    (item : Option Item) : Follows text (Reader.afterGroup top fuel scope items item) := by
  cases item with
  | none => exact (follows_options top scope).bind fun inner => ih.sequence top inner items
  | some item => exact ih.sequence top scope (item :: items)

theorem Heeding.afterBounds (ih : Heeding text fuel) (top : Bool) (scope : Flags)
    (items : List Item)
    (start : Nat) (c : Char) (counts : Option (Nat × Option Nat)) :
    Follows text (Reader.afterBounds top fuel scope items start c counts) := by
  cases counts with
  | none => exact ih.sequence top scope _
  | some counts =>
    exact (follows_repetition start _ _ items).bind fun repeated => ih.sequence top scope repeated

theorem Heeding.fromCharacter (ih : Heeding text fuel) (top : Bool) (scope : Flags)
    (items : List Item) {c : Char} {rest : List Symbol} (hp : Reached text p)
    (hrest : p.rest = .plain c :: rest) :
    Heeds (Blamed text) (Reader.fromCharacter top fuel scope items c) p fun _ => Reached text := by
  refine heeds_get (heeds_next.bind fun a q hq => ?_)
  have hopened : .plain c :: q.rest <:+ text := by
    have hsuffix := hp.rest
    rw [hq.2.rest, hq.1, hrest] at hsuffix
    exact hsuffix
  replace hp := hp.drop hq.2
  have hmore (items : List Item) := (ih.sequence top scope items).heeds hp
  refine heeds_ite (fun _ => hmore _) fun _ =>
    heeds_ite (fun _ => Follows.heeds ?comment hp) fun _ =>
    heeds_ite (fun _ => Follows.heeds ?set hp) fun _ => heeds_ite (fun _ => hmore _) fun _ =>
    heeds_ite (fun _ => hmore _) fun _ => heeds_ite (fun _ => hmore _) fun _ =>
    heeds_ite (fun hgroup => ?group) fun _ => heeds_ite (fun hrepeated => ?repetition) fun _ =>
    hmore _
  case comment =>
    exact follows_get fun _ => (follows_skipPast '\n' _).bind fun _ => ih.sequence top scope items
  case set => exact (follows_characterSet scope).bind fun piece => ih.sequence top scope _
  case group =>
    subst hgroup
    exact (ih.group top scope _ items.isEmpty hp hopened).bind fun item r hr =>
      (ih.afterGroup top scope items item).heeds hr
  case repetition =>
    have hbounds : c = '?' ∨ c = '*' ∨ c = '+' ∨ c = Char.ofNat 0x7B := by
      simp only [Bool.or_eq_true, decide_eq_true_eq] at hrepeated
      rcases hrepeated with ((h | h) | h) | h <;> simp [h]
    exact (heeds_bounds hp hopened hbounds).bind fun counts r hr =>
      (ih.afterBounds top scope items _ c counts).heeds hr

theorem Heeding.sequence_succ (ih : Heeding text fuel) (top : Bool) (scope : Flags)
    (items : List Item) : Follows text (Reader.sequence top (fuel + 1) scope items) := by
  intro p hp
  rw [sequence_eq]
  apply heeds_get
  cases hrest : p.rest with
  | nil => exact heeds_pure hp
  | cons s rest =>
    cases s with
    | dangling => exact (refuses_refuse _ _).heeds
    | escaped c =>
      have hescaped : Follows text (do
          let _ ← next
          let piece ← escape scope c
          Reader.sequence top fuel scope (.piece piece :: items)) :=
        follows_next.bind fun _ => (follows_escape scope c).bind fun piece =>
          ih.sequence top scope _
      exact hescaped.heeds hp
    | plain c =>
      exact heeds_ite (fun _ => heeds_pure hp) fun _ => ih.fromCharacter top scope items hp hrest

/-- A group goes on in the text: its alternatives, the closing parenthesis, and what is made of
them. -/
theorem Heeding.inside (ih : Heeding text fuel) (scope : Flags) (start : Nat)
    {f : List Piece → Reader (Option Item)} (h : ∀ body, Follows text (f body)) :
    Follows text (do
      let body ← Reader.alternatives false fuel scope
      closing start
      f body) :=
  (ih.alternatives false scope).bind fun body => (follows_closing start).bind fun _ => h body

theorem Heeding.otherBranch (ih : Heeding text fuel) (scope : Flags) :
    Follows text (Reader.otherBranch fuel scope) := by
  refine (follows_accept '|').bind fun _ => follows_ite ?_ (follows_pure _)
  refine (ih.sequence false scope []).bind fun no => follows_get fun _ => ?_
  exact follows_ite ((refuses_refuse _ _).bind _).follows (follows_pure _)

theorem Heeding.group_succ (ih : Heeding text fuel) (top : Bool) (scope : Flags) (start : Nat)
    (noItems : Bool) (hp : Reached text p) (hopened : .plain '(' :: p.rest <:+ text) :
    Heeds (Blamed text) (Reader.group top (fuel + 1) scope start noItems) p
      fun _ => Reached text := by
  unfold Reader.group
  refine (heeds_opening scope start _ hp hopened).bind fun o q hq => Follows.heeds ?_ hq
  have hitem {item : Item} : Follows text (pure (some item)) := follows_pure _
  cases o with
  | nothing => exact follows_pure _
  | reference piece => exact hitem
  | capture name =>
    refine (follows_enter name).bind fun index => ih.inside scope start fun body => ?_
    exact (follows_leave index _).bind fun _ => hitem
  | together => exact ih.inside scope start fun _ => hitem
  | «scoped» added removed => exact ih.inside _ start fun _ => hitem
  | atomic => exact ih.inside scope start fun _ => hitem
  | ahead negated => exact ih.inside scope start fun _ => hitem
  | behind negated =>
    have hbehind {first : Progress → Option Nat} :
        Follows text (modify fun p => { p with behindFrom := first p }) :=
      follows_modify (fun _ => rfl) fun _ => rfl
    refine follows_get fun _ => hbehind.bind fun _ => ?_
    refine (ih.alternatives false scope).bind fun body => hbehind.bind fun _ => ?_
    exact (follows_closing start).bind fun _ => follows_get fun _ => hitem
  | condition index =>
    exact (ih.sequence false scope []).bind fun yes => (ih.otherBranch scope).bind fun no =>
      (follows_closing start).bind fun _ => hitem

theorem heeding (text : List Symbol) (fuel : Nat) : Heeding text fuel := by
  induction fuel with
  | zero => exact heeding_zero
  | succ fuel ih =>
    exact {
      alternatives := ih.alternatives_succ
      moreAlternatives := ih.moreAlternatives_succ
      sequence := ih.sequence_succ
      group := fun top scope start noItems _ hp => ih.group_succ top scope start noItems hp }

end Grammar

end Reader
end Regex
end QueryOptions
