import QueryOptions.Proofs.Items
import QueryOptions.Proofs.GrammarSteps

/-!
# QueryOptions.Proofs.Rereading

A regular expression that is read on its own and again inside of one more group. Two readers that
start side by side end side by side, with results that are related as `EnclosedAs` says, by
induction on the fuel of the first one (`rereads`).

A comment of a verbose group may reach up to the end of the first text while it goes on for the
second reader (`Ended`). The group that the comment is in is then not closed, and the first text is
no regular expression.
-/

namespace QueryOptions
namespace Regex
namespace Reader

variable {α β : Type} {more : List Symbol} {base : Flags}

/-- How two readers end a sequence or a choice: side by side with related results, unless the first
one is at its end in a comment of a verbose group, which then is not closed. -/
def Ended (more : List Symbol) (base scope : Flags) (R : α → β → Prop) (a : α) (q : Progress)
    (a' : β) (q' : Progress) : Prop :=
  (R a a' ∧ Abreast more base q q') ∨ (scope.verbose = true ∧ q.rest = [])

/-- What two readers that are side by side make of the grammar. At the top, the first reader goes by
the options of the whole expression. -/
structure Rereads (more : List Symbol) (base : Flags) (fuel : Nat) : Prop where
  alternatives {top : Bool} {scope : Flags} {fuel' : Nat} {p p' : Progress}
    (htop : top = true → scope = base) (hp : Abreast more base p p') :
    InStep (alternatives top fuel scope) (alternatives false fuel' scope) p p'
      (Ended more base scope EnclosedAs)
  moreAlternatives {scope : Flags} {fuel' : Nat} {p p' : Progress} (hp : Abreast more base p p') :
    InStep (moreAlternatives fuel scope) (moreAlternatives fuel' scope) p p'
      (Ended more base scope (List.Forall₂ EnclosedAs))
  sequence {top : Bool} {scope : Flags} {fuel' : Nat} {items items' : List Item} {p p' : Progress}
    (htop : top = true → scope = base) (hitems : List.Forall₂ Item.EnclosedAs items items')
    (hp : Abreast more base p p') :
    InStep (sequence top fuel scope items) (sequence false fuel' scope items') p p'
      (Ended more base scope EnclosedAs)
  group {top : Bool} {scope : Flags} {start start' : Nat} {noItems noItems' : Bool} {fuel' : Nat} :
    Agree more base (Option.Rel Item.EnclosedAs) (group top fuel scope start noItems)
      (group false fuel' scope start' noItems')

theorem rereads_zero : Rereads more base 0 where
  alternatives _ _ := (fails_refuse _ _).inStep
  moreAlternatives _ := (fails_refuse _ _).inStep
  sequence _ _ _ := (fails_refuse _ _).inStep
  group := (fails_refuse _ _).agree

section Grammar

variable {fuel : Nat} {p p' : Progress}

/-- The text or a group ends here. -/
def AtEnd (p : Progress) : Prop := p.rest = [] ∨ ∃ after, p.rest = .plain ')' :: after

theorem run_sequence_end {top : Bool} {scope : Flags} {items : List Item} (hp : AtEnd p) :
    (sequence top (fuel + 1) scope items).run p = .ok (items.reverse.flatMap Item.pieces, p) := by
  rw [sequence_eq]
  unfold peek
  rcases hp with hnil | ⟨after, hafter⟩
  · simp only [StateT.run_bind, StateT.run_get, pure_bind, hnil, List.head?_nil]
    rfl
  · simp only [StateT.run_bind, StateT.run_get, pure_bind, hafter, List.head?_cons]
    rfl

theorem run_moreAlternatives_end {scope : Flags} (hp : AtEnd p) :
    (moreAlternatives (fuel + 1) scope).run p = .ok ([], p) := by
  have hother (rest : List Symbol) : p.rest ≠ .plain '|' :: rest := by
    intro hrest
    rcases hp with hnil | ⟨after, hafter⟩
    · cases hnil.symm.trans hrest
    · cases hafter.symm.trans hrest
  unfold moreAlternatives
  rw [StateT.run_bind, accept_run_other hother]
  rfl

theorem sequence_run_end {top : Bool} {scope : Flags} {items : List Item} {pieces : List Piece}
    {q : Progress} (hend : AtEnd p)
    (h : (sequence top fuel scope items).run p = .ok (pieces, q)) :
    pieces = items.reverse.flatMap Item.pieces ∧ q = p := by
  cases fuel with
  | zero => exact absurd h (fails_refuse _ _ p _)
  | succ fuel =>
    rw [run_sequence_end hend] at h
    cases h
    exact ⟨rfl, rfl⟩

theorem moreAlternatives_run_end {scope : Flags} {others : List (List Piece)} {q : Progress}
    (hend : AtEnd p) (h : (moreAlternatives fuel scope).run p = .ok (others, q)) :
    others = [] ∧ q = p := by
  cases fuel with
  | zero => exact absurd h (fails_refuse _ _ p _)
  | succ fuel =>
    rw [run_moreAlternatives_end hend] at h
    cases h
    exact ⟨rfl, rfl⟩

/-- The options of what comes next: at the top those of the whole expression, which are the same. -/
theorem inStep_options {top : Bool} {scope : Flags} (htop : top = true → scope = base)
    (hp : Abreast more base p p') :
    InStep (do if top then return (← get).flags else return scope)
      (do if false then return (← get).flags else return scope) p p'
      fun a q a' q' => a = scope ∧ a' = scope ∧ Abreast more base q q' := by
  cases top with
  | false => exact inStep_pure ⟨rfl, rfl, hp⟩
  | true => exact inStep_pure ⟨hp.flags.trans (htop rfl).symm, rfl, hp⟩

theorem Rereads.alternatives_succ (ih : Rereads more base fuel) (hbase : base.verbose = false)
    {top : Bool} {scope : Flags} {fuel' : Nat} (htop : top = true → scope = base)
    (hp : Abreast more base p p') :
    InStep (Reader.alternatives top (fuel + 1) scope) (Reader.alternatives false fuel' scope) p p'
      (Ended more base scope EnclosedAs) := by
  cases fuel' with
  | zero => exact (fails_refuse _ _).inStep_right
  | succ fuel' =>
    unfold Reader.alternatives
    refine (ih.sequence htop .nil hp).bind ?_
    rintro first q first' q' (⟨hfirst, hq⟩ | ⟨hverbose, hnil⟩)
    · refine (inStep_options htop hq).bind ?_
      rintro _ r _ r' ⟨rfl, rfl, hr⟩
      refine (ih.moreAlternatives hr).bind ?_
      rintro others s others' s' (⟨hothers, hs⟩ | hend)
      · exact inStep_pure (.inl ⟨hfirst.ofAlternatives _ hothers, hs⟩)
      · exact inStep_pure (.inr hend)
    · have hinside : top = false := by
        cases top with
        | false => rfl
        | true => rw [htop rfl, hbase] at hverbose; cases hverbose
      subst hinside
      rintro _ s _ s' h -
      obtain ⟨_, _, ⟨⟩, h⟩ := run_bind_eq_ok.mp h
      obtain ⟨others, t, ht, ⟨⟩⟩ := run_bind_eq_ok.mp h
      exact .inr ⟨hverbose, (moreAlternatives_run_end (.inl hnil) ht).2 ▸ hnil⟩

theorem Rereads.moreAlternatives_succ (ih : Rereads more base fuel) {scope : Flags} {fuel' : Nat}
    (hp : Abreast more base p p') :
    InStep (Reader.moreAlternatives (fuel + 1) scope) (Reader.moreAlternatives fuel' scope) p p'
      (Ended more base scope (List.Forall₂ EnclosedAs)) := by
  cases fuel' with
  | zero => exact (fails_refuse _ _).inStep_right
  | succ fuel' =>
    unfold Reader.moreAlternatives
    refine (agree_accept (by decide) p p' hp).bind ?_
    rintro isMore q _ q' ⟨rfl, hq⟩
    split
    · have hinside : false = true → scope = base := nofun
      refine (ih.sequence hinside .nil hq).bind ?_
      rintro pieces r pieces' r' (⟨hpieces, hr⟩ | ⟨hverbose, hnil⟩)
      · refine (ih.moreAlternatives hr).bind ?_
        rintro others s others' s' (⟨hothers, hs⟩ | hend)
        · exact inStep_pure (.inl ⟨.cons hpieces hothers, hs⟩)
        · exact inStep_pure (.inr hend)
      · rintro _ s _ s' h -
        obtain ⟨others, t, ht, ⟨⟩⟩ := run_bind_eq_ok.mp h
        exact .inr ⟨hverbose, (moreAlternatives_run_end (.inl hnil) ht).2 ▸ hnil⟩
    · exact inStep_pure (.inl ⟨.nil, hq⟩)

section Sequence

variable {top : Bool} {scope : Flags} {fuel' : Nat} {items items' : List Item}
  (ih : Rereads more base fuel) (htop : top = true → scope = base)
  (hitems : List.Forall₂ Item.EnclosedAs items items')

include ih htop hitems

/-- `sequence` is read again from one more item on, by the induction hypothesis for less fuel. -/
theorem Rereads.further {item item' : Item} (hitem : item.EnclosedAs item')
    (hp : Abreast more base p p') :
    InStep (Reader.sequence top fuel scope (item :: items))
      (Reader.sequence false fuel' scope (item' :: items')) p p'
        (Ended more base scope EnclosedAs) :=
  ih.sequence htop (.cons hitem hitems) hp

theorem Rereads.afterGroup {item item' : Option Item}
    (hitem : Option.Rel Item.EnclosedAs item item')
    (hp : Abreast more base p p') :
    InStep (Reader.afterGroup top fuel scope items item)
      (Reader.afterGroup false fuel' scope items' item') p p'
        (Ended more base scope EnclosedAs) := by
  cases hitem with
  | some hitem => exact ih.further htop hitems hitem hp
  | none =>
    refine (inStep_options htop hp).bind ?_
    rintro _ q _ q' ⟨rfl, rfl, hq⟩
    exact ih.sequence htop hitems hq

theorem Rereads.afterBounds (start start' : Nat) (c : Char) (counts : Option (Nat × Option Nat))
    (hp : Abreast more base p p') :
    InStep (Reader.afterBounds top fuel scope items start c counts)
      (Reader.afterBounds false fuel' scope items' start' c counts) p p'
      (Ended more base scope EnclosedAs) := by
  cases counts with
  | none => exact ih.further htop hitems (.piece (.test _)) hp
  | some counts =>
    refine (agree_repetition start start' _ _ hitems p p' hp).bind ?_
    rintro repeated q repeated' q' ⟨hrepeated, hq⟩
    exact ih.sequence htop hrepeated hq

theorem Rereads.fromCharacter {c : Char} {rest : List Symbol} (hp : Abreast more base p p')
    (hrest : p.rest = .plain c :: rest) :
    InStep (Reader.fromCharacter top fuel scope items c)
      (Reader.fromCharacter false fuel' scope items' c) p p'
        (Ended more base scope EnclosedAs) := by
  refine inStep_get (inStep_next_cons hp hrest fun q q' _ _ hq => ?_)
  have hpiece {piece : Piece} (h : piece.EnclosedAs piece) :
      InStep (Reader.sequence top fuel scope (.piece piece :: items))
        (Reader.sequence false fuel' scope (.piece piece :: items')) q q'
        (Ended more base scope EnclosedAs) :=
    ih.further htop hitems (.piece h) hq
  refine inStep_ite (fun _ => ih.sequence htop hitems hq) fun _ =>
    inStep_ite (fun hcomment => ?comment) fun _ => inStep_ite (fun _ => ?set) fun _ =>
    inStep_ite (fun _ => hpiece (.test _)) fun _ =>
    inStep_ite (fun _ => hpiece (.place _ _)) fun _ =>
    inStep_ite (fun _ => hpiece (.place _ _)) fun _ => inStep_ite (fun _ => ?group) fun _ =>
    inStep_ite (fun _ => ?repetition) fun _ => hpiece (.test _)
  case comment =>
    rw [Bool.and_eq_true] at hcomment
    apply inStep_get
    refine (inStep_skipPast '\n' (Nat.lt_succ_self _) (Nat.lt_succ_self _) hq).bind ?_
    rintro a r a' r' (⟨-, -, hr⟩ | ⟨-, hnil⟩)
    · exact ih.sequence htop hitems hr
    · exact fun _ s _ _ h _ => .inr ⟨hcomment.1, (sequence_run_end (.inl hnil) h).2 ▸ hnil⟩
  case set =>
    refine (agree_characterSet scope q q' hq).bind ?_
    rintro piece r piece' r' ⟨hpiece, hr⟩
    exact ih.further htop hitems (.piece hpiece) hr
  case group =>
    refine (ih.group q q' hq).bind ?_
    rintro item r item' r' ⟨hitem, hr⟩
    exact ih.afterGroup htop hitems hitem hr
  case repetition =>
    refine (agree_bounds c q q' hq).bind ?_
    rintro counts r _ r' ⟨rfl, hr⟩
    exact ih.afterBounds htop hitems _ _ c counts hr

theorem Rereads.sequence_succ (hp : Abreast more base p p') :
    InStep (Reader.sequence top (fuel + 1) scope items) (Reader.sequence false fuel' scope items')
      p p' (Ended more base scope EnclosedAs) := by
  cases fuel' with
  | zero => exact (fails_refuse _ _).inStep_right
  | succ fuel' =>
    have hdone : InStep (pure (items.reverse.flatMap Item.pieces) : Reader (List Piece))
        (pure (items'.reverse.flatMap Item.pieces)) p p' (Ended more base scope EnclosedAs) :=
      inStep_pure (.inl ⟨enclosedAs_flatMap hitems, hp⟩)
    rw [sequence_eq, sequence_eq]
    apply inStep_get
    rcases hp.head with ⟨hnil, hclose⟩ | ⟨s, rest, rest', hrest, hrest'⟩
    · rw [hnil, hclose]
      exact hdone
    · rw [hrest, hrest']
      cases s with
      | dangling => exact (fails_refuse _ _).inStep
      | escaped c =>
        refine inStep_next_cons hp hrest fun q q' _ _ hq => ?_
        refine (agree_escape scope c q q' hq).bind ?_
        rintro piece r piece' r' ⟨hpiece, hr⟩
        exact ih.further htop hitems (.piece hpiece) hr
      | plain c =>
        exact inStep_ite (fun _ => hdone) fun _ => ih.fromCharacter htop hitems hp hrest

end Sequence

/-- What is inside of a group is followed by its closing parenthesis, so that the readers are side
by side after it. -/
theorem Rereads.inside (ih : Rereads more base fuel) {scope : Flags} {fuel' : Nat}
    {f f' : List Piece → Reader (Option Item)} (hclose : ∀ body, NeedsMore (f body))
    (h : ∀ body body', EnclosedAs body body' →
      Agree more base (Option.Rel Item.EnclosedAs) (f body) (f' body')) :
    Agree more base (Option.Rel Item.EnclosedAs)
      (Reader.alternatives false fuel scope >>= f)
      (Reader.alternatives false fuel' scope >>= f') := by
  intro p p' hp
  have hbelow : false = true → scope = base := nofun
  refine (ih.alternatives hbelow hp).bind ?_
  rintro body q body' q' (⟨hbody, hq⟩ | ⟨-, hnil⟩)
  · exact h body body' hbody q q' hq
  · exact fun _ _ _ _ hf => absurd hf (hclose body q _ hnil)

/-- The second branch of a condition, unless the first reader is at its end in a comment. -/
theorem Rereads.otherBranch (ih : Rereads more base fuel) {scope : Flags} {fuel' : Nat}
    (hp : Abreast more base p p') :
    InStep (Reader.otherBranch fuel scope) (Reader.otherBranch fuel' scope) p p'
      fun _ q _ q' => Abreast more base q q' ∨ q.rest = [] := by
  have hbelow : false = true → scope = base := nofun
  have hno {no : List Piece} : Stays (do
      if (← peek) = some (.plain '|') then refuse .manyBranches
      return no) :=
    stays_get fun _ => stays_ite ((fails_refuse _ _).bind _).stays (stays_pure no)
  refine (agree_accept (by decide) p p' hp).bind ?_
  rintro isMore q _ q' ⟨rfl, hq⟩
  refine inStep_ite (fun _ => ?_) fun _ => inStep_pure (.inl hq)
  refine (ih.sequence hbelow .nil hq).bind ?_
  rintro no r no' r' (⟨-, hr⟩ | ⟨-, hnil⟩)
  · exact (hno.agree hno r r' hr).mono fun _ _ _ _ h => .inl h.2
  · exact fun _ s _ _ h _ => .inr ((hno r _ s h).1.trans hnil)

/-- Both branches of a condition are read again; a closing parenthesis comes after them. -/
theorem Rereads.branches (ih : Rereads more base fuel) {scope : Flags} {fuel' : Nat}
    {f f' : List Piece → List Piece → Reader (Option Item)}
    (hclose : ∀ yes no, NeedsMore (f yes no))
    (h : ∀ yes no yes' no', Agree more base (Option.Rel Item.EnclosedAs) (f yes no) (f' yes' no')) :
    Agree more base (Option.Rel Item.EnclosedAs)
      (do f (← Reader.sequence false fuel scope []) (← Reader.otherBranch fuel scope))
      (do f' (← Reader.sequence false fuel' scope []) (← Reader.otherBranch fuel' scope)) := by
  have hbelow : false = true → scope = base := nofun
  intro p p' hp
  refine (ih.sequence hbelow .nil hp).bind ?_
  rintro yes q yes' q' (⟨-, hq⟩ | ⟨-, hnil⟩)
  · refine (ih.otherBranch hq).bind ?_
    rintro no r no' r' (hr | hnil)
    · exact h yes no yes' no' r r' hr
    · exact fun _ _ _ _ hf => absurd hf (hclose yes no r _ hnil)
  · intro _ _ _ _ hf
    obtain ⟨no, r, hr, hrest⟩ := run_bind_eq_ok.mp hf
    cases (otherBranch_run_nil hnil).symm.trans hr
    exact absurd hrest (hclose yes _ q _ hnil)

theorem enclosedAs_lookAround {body body' : List Piece} {around around' : Node}
    (negated : Bool) (hbody : Regex.EnclosedAs body body') (h : around.EnclosedAs around') :
    Item.EnclosedAs (lookAround negated body around) (lookAround negated body' around') := by
  have hempty : body'.isEmpty = body.isEmpty := by
    rw [Bool.eq_iff_iff, List.isEmpty_iff, List.isEmpty_iff]
    exact hbody.nil_iff
  unfold Reader.lookAround
  rw [hempty]
  split
  · exact .piece (.whole fun _ => rfl)
  · exact .piece (.whole h)

theorem Rereads.group_succ (ih : Rereads more base fuel) {top : Bool} {scope : Flags}
    {start start' : Nat} {noItems noItems' : Bool} {fuel' : Nat} :
    Agree more base (Option.Rel Item.EnclosedAs) (Reader.group top (fuel + 1) scope start noItems)
      (Reader.group false fuel' scope start' noItems') := by
  cases fuel' with
  | zero => exact (fails_refuse _ _).agree_right
  | succ fuel' =>
    unfold Reader.group
    have hclose {f : Unit → Reader (Option Item)} : NeedsMore (closing start >>= f) :=
      (needsMore_closing start).bind f
    have hclosed {f f' : Unit → Reader (Option Item)}
        (h : Agree more base (Option.Rel Item.EnclosedAs) (f ()) (f' ())) :
        Agree more base (Option.Rel Item.EnclosedAs) (closing start >>= f)
          (closing start' >>= f') :=
      (agree_closing start start').bind fun _ _ _ => h
    refine (agree_opening scope start start' _).bind fun opening opening' hopening => ?_
    cases hopening with
    | nothing => exact agree_pure .none
    | reference h => exact agree_pure (.some (.piece h))
    | capture name =>
      refine (agree_enter name).bind ?_
      rintro index _ rfl
      refine ih.inside (fun _ => hclose) fun body body' hbody => hclosed ?_
      refine ((stays_leave _ _).agree (stays_leave _ _)).bind fun _ _ _ => ?_
      refine agree_pure (.some (.piece (.whole fun href => ?_)))
      exact congrArg (Node.capture (index + 1)) (hbody.node href)
    | together =>
      exact ih.inside (fun _ => hclose) fun body body' hbody =>
        hclosed (agree_pure (.some (.group hbody)))
    | options added removed =>
      exact ih.inside (fun _ => hclose) fun body body' hbody =>
        hclosed (agree_pure (.some (.piece (.whole hbody.node))))
    | atomic =>
      exact ih.inside (fun _ => hclose) fun body body' hbody =>
        hclosed (agree_pure (.some (.piece (.whole fun href =>
          congrArg Node.atomic (hbody.node href)))))
    | ahead negated =>
      exact ih.inside (fun _ => hclose) fun body body' hbody =>
        hclosed (agree_pure (.some (enclosedAs_lookAround negated hbody fun href =>
          congrArg (Node.ahead negated) (hbody.node href))))
    | behind negated =>
      have hstays (f : Progress → Option Nat) :
          Stays (modify fun p => { p with behindFrom := f p }) := by
        rintro p _ _ ⟨⟩
        exact ⟨rfl, rfl, rfl⟩
      refine agree_get fun p p' => ((hstays _).agree (hstays _)).bind fun _ _ _ => ?_
      refine ih.inside (fun _ => (hstays _).needsMore fun _ => hclose) fun body body' hbody => ?_
      refine ((hstays _).agree (hstays _)).bind fun _ _ _ => hclosed ?_
      refine agree_get fun q q' => agree_pure (.some (enclosedAs_lookAround negated hbody ?_))
      intro href
      have hfree : (nodeOfPieces body).refers = false := href
      rw [hbody.node hfree, Node.width_enclosed hfree (widths q) (widths q')]
      rfl
    | condition index index' =>
      exact ih.branches (fun _ _ => hclose) fun _ _ _ _ =>
        hclosed (agree_pure (.some (.piece (.whole nofun))))

theorem rereads (hbase : base.verbose = false) (fuel : Nat) : Rereads more base fuel := by
  induction fuel with
  | zero => exact rereads_zero
  | succ fuel ih =>
    exact {
      alternatives := ih.alternatives_succ hbase
      moreAlternatives := ih.moreAlternatives_succ
      sequence := ih.sequence_succ
      group := ih.group_succ }

end Grammar

end Reader
end Regex
end QueryOptions
