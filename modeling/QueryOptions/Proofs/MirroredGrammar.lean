import QueryOptions.Proofs.MirroredGroups
import QueryOptions.Proofs.Rereading

/-!
# QueryOptions.Proofs.MirroredGrammar

The grammar of regular expressions, read by twins. What one of them accepts the other one accepts,
with one group more, by induction on the fuel that both have (`mirrored`). A comment of a verbose
group may reach up to the end of the first text; the group is then not closed, so that nothing has
to be said unless more of the text is left.
-/

namespace QueryOptions
namespace Regex
namespace Reader

variable {α β γ δ : Type} {more : List Symbol} {base : Flags} {R : Except Intrusion Bool}

/-- What twins make of the grammar. At the top, the first reader goes by the options of the whole
expression. -/
structure Mirrored (more : List Symbol) (base : Flags) (R : Except Intrusion Bool) (fuel : Nat) :
    Prop where
  alternatives {top : Bool} {scope : Flags} {st : Scan} {p p' : Progress}
    (htop : top = true → scope = base) (hst : st.verbose = scope.verbose)
    (hp : Twin more base R (st.goto .items) p p') :
    Mirrors R (scope.verbose = false) (alternatives top fuel scope) (alternatives false fuel scope)
      p p' fun a q a' q' => ShiftTo a a' ∧ Twin more base R (st.goto .items) q q'
  moreAlternatives {scope : Flags} {st : Scan} {p p' : Progress}
    (hst : st.verbose = scope.verbose) (hp : Twin more base R (st.goto .items) p p') :
    Mirrors R (scope.verbose = false) (moreAlternatives fuel scope) (moreAlternatives fuel scope)
      p p' fun a q a' q' => List.Forall₂ ShiftTo a a' ∧ Twin more base R (st.goto .items) q q'
  sequence {top : Bool} {scope : Flags} {st : Scan} {items items' : List Item} {p p' : Progress}
    (htop : top = true → scope = base) (hst : st.verbose = scope.verbose)
    (hitems : List.Forall₂ Item.ShiftsTo items items')
    (hp : Twin more base R (st.goto .items) p p') :
    Mirrors R (scope.verbose = false) (sequence top fuel scope items)
      (sequence false fuel scope items') p p' fun a q a' q' =>
        ShiftTo a a' ∧ Twin more base R (st.goto .items) q q'
  group {top : Bool} {scope : Flags} {st : Scan} {start start' : Nat} {noItems noItems' : Bool}
    (hst : st.verbose = scope.verbose) :
    Mirror more base R ⟨.group, st.verbose, st.verbose :: st.outer⟩
      (fun a a' next => Option.Rel Item.ShiftsTo a a' ∧ next = st.goto .items)
      (group top fuel scope start noItems) (group false fuel scope start' noItems')

theorem mirrored_zero : Mirrored more base R 0 where
  alternatives _ _ _ := (fails_refuse _ _).mirrors (fails_refuse _ _)
  moreAlternatives _ _ := (fails_refuse _ _).mirrors (fails_refuse _ _)
  sequence _ _ _ _ := (fails_refuse _ _).mirrors (fails_refuse _ _)
  group _ := (fails_refuse _ _).mirror (fails_refuse _ _)

section Grammar

variable {fuel : Nat} {p p' : Progress} (hoptions : R ≠ .error .options)
  (hnumber : R ≠ .error .number)

/-- The options of what comes next: at the top those of the whole expression, which are the same. -/
theorem mirror_options {st : Scan} {top : Bool} {scope : Flags} (htop : top = true → scope = base) :
    Mirror more base R st (fun a a' next => a = scope ∧ a' = scope ∧ next = st)
      (do if top then return (← get).flags else return scope)
      (do if false then return (← get).flags else return scope) := by
  cases top with
  | false => exact mirror_pure ⟨rfl, rfl, rfl⟩
  | true =>
    intro p p' hp
    exact mirrors_of_run rfl rfl ⟨st, ⟨hp.flags.trans (htop rfl).symm, rfl, rfl⟩, hp⟩

theorem Mirrored.alternatives_succ (ih : Mirrored more base R fuel) {top : Bool} {scope : Flags}
    {st : Scan} (htop : top = true → scope = base) (hst : st.verbose = scope.verbose)
    (hp : Twin more base R (st.goto .items) p p') :
    Mirrors R (scope.verbose = false) (Reader.alternatives top (fuel + 1) scope)
      (Reader.alternatives false (fuel + 1) scope) p p' fun a q a' q' =>
        ShiftTo a a' ∧ Twin more base R (st.goto .items) q q' := by
  unfold Reader.alternatives
  refine (ih.sequence htop hst .nil hp).bind_ends ?_ ?_
  · intro first q c r hnil h hends
    obtain ⟨inner, q₁, hinner, hrest⟩ := run_bind_eq_ok.mp h
    have hstays : q₁ = q := by
      split at hinner <;> cases hinner <;> rfl
    rw [hstays] at hrest
    obtain ⟨others, q₂, hothers, ⟨⟩⟩ := run_bind_eq_ok.mp hrest
    exact hends.resolve_right fun hne => hne
      ((moreAlternatives_run_end (.inl hnil) hothers).2 ▸ hnil)
  · rintro first q first' q' ⟨hfirst, hq⟩
    refine (mirror_options htop q q' hq).bind ?_
    rintro _ r _ r' ⟨_, ⟨rfl, rfl, rfl⟩, hr⟩
    refine (ih.moreAlternatives hst hr).bind_ends (fun _ _ _ _ hnil h hends => ?_) ?_
    · cases h
      exact hends.resolve_right fun hne => hne hnil
    · rintro others s others' s' ⟨hothers, hs⟩
      exact mirrors_pure ⟨hfirst.ofAlternatives _ hothers, hs⟩

include hoptions hnumber

theorem Mirrored.moreAlternatives_succ (ih : Mirrored more base R fuel) {scope : Flags} {st : Scan}
    (hst : st.verbose = scope.verbose) (hp : Twin more base R (st.goto .items) p p') :
    Mirrors R (scope.verbose = false) (Reader.moreAlternatives (fuel + 1) scope)
      (Reader.moreAlternatives (fuel + 1) scope) p p' fun a q a' q' =>
        List.Forall₂ ShiftTo a a' ∧ Twin more base R (st.goto .items) q q' := by
  unfold Reader.moreAlternatives
  have hbar := st.step_items_plain (c := '|') (by decide)
  refine (mirror_accept hoptions hnumber (by decide) hbar p p' hp).bind ?_
  rintro isMore q _ q' ⟨_, ⟨rfl, rfl⟩, hq⟩
  rw [ite_self] at hq
  refine mirrors_ite (fun _ => ?_) fun _ => mirrors_pure ⟨.nil, hq⟩
  have hinside (h : false = true) : scope = base := by cases h
  refine (ih.sequence hinside hst .nil hq).bind_ends (fun pieces r c s hnil h hends => ?_) ?_
  · obtain ⟨others, t, hothers, ⟨⟩⟩ := run_bind_eq_ok.mp h
    exact hends.resolve_right fun hne => hne
      ((moreAlternatives_run_end (.inl hnil) hothers).2 ▸ hnil)
  · rintro pieces r pieces' r' ⟨hpieces, hr⟩
    refine (ih.moreAlternatives hst hr).bind_ends (fun _ _ _ _ hnil h hends => ?_) ?_
    · cases h
      exact hends.resolve_right fun hne => hne hnil
    · rintro others s others' s' ⟨hothers, hs⟩
      exact mirrors_pure ⟨.cons hpieces hothers, hs⟩

section Sequence

variable {top : Bool} {scope : Flags} {st : Scan} {items items' : List Item}
  (ih : Mirrored more base R fuel) (htop : top = true → scope = base)
  (hst : st.verbose = scope.verbose) (hitems : List.Forall₂ Item.ShiftsTo items items')

include ih htop hst hitems

omit hoptions hnumber in
/-- `sequence` is mirrored from one more item on, by the induction hypothesis for less fuel. -/
theorem Mirrored.further {item item' : Item} (hitem : item.ShiftsTo item')
    (hp : Twin more base R (st.goto .items) p p') :
    Mirrors R (scope.verbose = false) (Reader.sequence top fuel scope (item :: items))
      (Reader.sequence false fuel scope (item' :: items')) p p' fun a q a' q' =>
        ShiftTo a a' ∧ Twin more base R (st.goto .items) q q' :=
  ih.sequence htop hst (.cons hitem hitems) hp

omit hoptions hnumber in
theorem Mirrored.afterGroup {item item' : Option Item} (hitem : Option.Rel Item.ShiftsTo item item')
    (hp : Twin more base R (st.goto .items) p p') :
    Mirrors R (scope.verbose = false) (Reader.afterGroup top fuel scope items item)
      (Reader.afterGroup false fuel scope items' item') p p' fun a q a' q' =>
        ShiftTo a a' ∧ Twin more base R (st.goto .items) q q' := by
  cases hitem with
  | some hitem => exact ih.further htop hst hitems hitem hp
  | none =>
    refine (mirror_options htop p p' hp).bind ?_
    rintro _ q _ q' ⟨_, ⟨rfl, rfl, rfl⟩, hq⟩
    exact ih.sequence htop hst hitems hq

theorem Mirrored.afterBounds (start start' : Nat) (c : Char) (counts : Option (Nat × Option Nat))
    (hp : Twin more base R (st.goto .items) p p') :
    Mirrors R (scope.verbose = false) (Reader.afterBounds top fuel scope items start c counts)
      (Reader.afterBounds false fuel scope items' start' c counts) p p' fun a q a' q' =>
        ShiftTo a a' ∧ Twin more base R (st.goto .items) q q' := by
  cases counts with
  | none => exact ih.further htop hst hitems (Piece.shiftsTo_test _).item hp
  | some counts =>
    refine (mirror_repetition hoptions hnumber start start' _ _ hitems p p' hp).bind ?_
    rintro repeated q repeated' q' ⟨_, ⟨hrepeated, rfl⟩, hq⟩
    exact ih.sequence htop hst hrepeated hq

/-- `sequence` is mirrored after a comment. If the comment gets to the end of the text, so does the
first reader. -/
theorem Mirrored.afterComment (hverbose : scope.verbose = true)
    (hp : Twin more base R (st.goto .line) p p') :
    Mirrors R (scope.verbose = false)
      (do
        let _ ← skipPast '\n' ((← get).rest.length + 1)
        Reader.sequence top fuel scope items)
      (do
        let _ ← skipPast '\n' ((← get).rest.length + 1)
        Reader.sequence false fuel scope items')
      p p' fun a q a' q' => ShiftTo a a' ∧ Twin more base R (st.goto .items) q q' := by
  apply mirrors_get
  have hopen : (st.goto .line).finish ≠ .ok true := fun h => by cases h
  have hstop : (st.goto .line).step (.plain '\n') = .ok (st.goto .items) := rfl
  refine mirrors_skipPast hoptions hnumber hopen hstop
    (fun s next hfirst hs hnext => Scan.eq_line hfirst hs hnext) st.step_line_ne_closing
    (fun q c r hnil h hends => ?_) (fun q q' hq => ih.sequence htop hst hitems hq)
    (Nat.lt_succ_self _) (Nat.lt_succ_self _) hp
  rcases hends with hcalm | hne
  · cases hverbose.symm.trans hcalm
  · exact hne ((sequence_run_end (.inl hnil) h).2 ▸ hnil)

theorem Mirrored.fromCharacter {c : Char} (hclose : c ≠ ')')
    (hp : Twin more base R (st.goto .items) p p') {rest : List Symbol}
    (hrest : p.rest = .plain c :: rest) :
    Mirrors R (scope.verbose = false) (Reader.fromCharacter top fuel scope items c)
      (Reader.fromCharacter false fuel scope items' c) p p' fun a q a' q' =>
        ShiftTo a a' ∧ Twin more base R (st.goto .items) q q' := by
  have hscan := st.step_items_character hst hclose
  refine mirrors_get (mirrors_next_cons hoptions hnumber hp hrest (by rw [hscan]; nofun) ?_)
  intro st₁ q q' hstep _ _ hq
  obtain rfl := Except.ok.inj (hscan.symm.trans hstep)
  refine mirrors_ite (fun hskip => ?blank) fun hskip => mirrors_ite (fun hcomment => ?comment)
    fun hcomment => mirrors_ite (fun hset => ?set) fun hset => ?_
  case blank =>
    rw [if_pos hskip] at hq
    exact ih.sequence htop hst hitems hq
  case comment =>
    rw [if_neg hskip, if_pos hcomment] at hq
    rw [Bool.and_eq_true] at hcomment
    exact ih.afterComment hoptions hnumber htop hst hitems hcomment.1 hq
  case set =>
    rw [if_neg hskip, if_neg hcomment, if_pos hset] at hq
    refine (mirror_characterSet hoptions hnumber scope q q' hq).bind ?_
    rintro piece r piece' r' ⟨_, ⟨hpiece, rfl⟩, hr⟩
    exact ih.further htop hst hitems hpiece.item hr
  rw [if_neg hskip, if_neg hcomment, if_neg hset] at hq
  by_cases hgroup : c = '('
  · subst hgroup
    refine (ih.group hst q q' hq).bind ?_
    rintro item r item' r' ⟨_, ⟨hitem, rfl⟩, hr⟩
    exact ih.afterGroup htop hst hitems hitem hr
  rw [if_neg hgroup] at hq
  have hpiece {piece : Piece} (h : piece.ShiftsTo piece) := ih.further htop hst hitems h.item hq
  refine mirrors_ite (fun _ => hpiece (Piece.shiftsTo_test _)) fun _ =>
    mirrors_ite (fun _ => hpiece (Piece.shiftsTo_place _ _)) fun _ =>
    mirrors_ite (fun _ => hpiece (Piece.shiftsTo_place _ _)) fun _ =>
    mirrors_ite (fun h => absurd h hgroup) fun _ =>
    mirrors_ite (fun _ => ?_) fun _ => hpiece (Piece.shiftsTo_test _)
  refine (mirror_bounds hoptions hnumber c q q' hq).bind ?_
  rintro counts r _ r' ⟨_, ⟨rfl, rfl⟩, hr⟩
  exact ih.afterBounds hoptions hnumber htop hst hitems _ _ c counts hr

theorem Mirrored.sequence_succ (hp : Twin more base R (st.goto .items) p p') :
    Mirrors R (scope.verbose = false) (Reader.sequence top (fuel + 1) scope items)
      (Reader.sequence false (fuel + 1) scope items') p p' fun a q a' q' =>
        ShiftTo a a' ∧ Twin more base R (st.goto .items) q q' := by
  have hdone : Mirrors R (scope.verbose = false)
      (pure (items.reverse.flatMap Item.pieces) : Reader (List Piece))
      (pure (items'.reverse.flatMap Item.pieces)) p p' fun a q a' q' =>
        ShiftTo a a' ∧ Twin more base R (st.goto .items) q q' :=
    mirrors_pure ⟨shiftTo_flatMap hitems, hp⟩
  rw [sequence_eq, sequence_eq]
  apply mirrors_get
  cases hrest : p.rest with
  | nil =>
    rw [hp.rest_of_nil hrest]
    exact hdone
  | cons s rest =>
    obtain ⟨rest', hrest'⟩ := hp.head_eq hrest
    rw [hrest']
    cases s with
    | dangling => exact (fails_refuse _ _).mirrors (fails_refuse _ _)
    | escaped c =>
      refine mirrors_next_cons hoptions hnumber hp hrest (Scan.step_ne_closing_of nofun) ?_
      intro st₁ q q' hstep _ _ hq
      refine (mirror_escape hoptions hnumber scope hstep q q' hq).bind ?_
      rintro piece r piece' r' ⟨_, ⟨hpiece, rfl⟩, hr⟩
      exact ih.further htop hst hitems hpiece.item hr
    | plain c =>
      refine mirrors_ite (fun _ => hdone) fun hother => ?_
      exact ih.fromCharacter hoptions hnumber htop hst hitems (fun h => hother (.inr h)) hp hrest

end Sequence

omit hoptions hnumber in
/-- What is inside of a group is followed by its closing parenthesis, so that the text does not end
there. -/
theorem Mirrored.inside (ih : Mirrored more base R fuel) {scope : Flags} {st : Scan}
    (hst : st.verbose = scope.verbose) {T : γ → δ → Scan → Prop} {f : List Piece → Reader γ}
    {f' : List Piece → Reader δ} (hclose : ∀ body, NeedsMore (f body))
    (h : ∀ body body', ShiftTo body body' →
      Mirror more base R (st.goto .items) T (f body) (f' body')) :
    Mirror more base R (st.goto .items) T (Reader.alternatives false fuel scope >>= f)
      (Reader.alternatives false fuel scope >>= f') := by
  intro p p' hp
  have hbelow : false = true → scope = base := nofun
  refine (ih.alternatives hbelow hst hp).bind_needsMore hclose ?_
  rintro body q body' q' ⟨hbody, hq⟩
  exact h body body' hbody q q' hq

theorem Mirrored.otherBranch (ih : Mirrored more base R fuel) {scope : Flags} {st : Scan}
    (hst : st.verbose = scope.verbose) (hp : Twin more base R (st.goto .items) p p') :
    Mirrors R (scope.verbose = false) (Reader.otherBranch fuel scope)
      (Reader.otherBranch fuel scope)
      p p' fun a q a' q' => ShiftTo a a' ∧ Twin more base R (st.goto .items) q q' := by
  have hbar := st.step_items_plain (c := '|') (by decide)
  have hbelow : false = true → scope = base := nofun
  refine (mirror_accept hoptions hnumber (by decide) hbar p p' hp).bind ?_
  rintro isMore q _ q' ⟨_, ⟨rfl, rfl⟩, hq⟩
  rw [ite_self] at hq
  refine mirrors_ite (fun _ => ?_) fun _ => mirrors_pure ⟨⟨rfl, nofun⟩, hq⟩
  refine (ih.sequence hbelow hst .nil hq).bind_ends (fun no r c s hnil hr hends => ?_) ?_
  · have hstay : s = r := by
      obtain ⟨_, _, ⟨⟩, hlast⟩ := run_bind_eq_ok.mp hr
      rw [hnil] at hlast
      cases hlast
      rfl
    exact hends.resolve_right fun hne => hne (hstay ▸ hnil)
  · rintro no r no' r' ⟨hno, hr⟩
    apply mirrors_get
    exact mirrors_unless (hr.head_iff (by decide)) ((fails_refuse _ _).bind _)
      ((fails_refuse _ _).bind _) (mirrors_pure ⟨hno, hr⟩)

/-- The branches of a condition end before the closing parenthesis, too. -/
theorem Mirrored.branches (ih : Mirrored more base R fuel) {scope : Flags} {st : Scan}
    (hst : st.verbose = scope.verbose) {T : γ → δ → Scan → Prop}
    {f : List Piece → List Piece → Reader γ} {f' : List Piece → List Piece → Reader δ}
    (hclose : ∀ yes no, NeedsMore (f yes no))
    (h : ∀ yes no yes' no', ShiftTo yes yes' → ShiftTo no no' →
      Mirror more base R (st.goto .items) T (f yes no) (f' yes' no')) :
    Mirror more base R (st.goto .items) T
      (do f (← Reader.sequence false fuel scope []) (← Reader.otherBranch fuel scope))
      (do f' (← Reader.sequence false fuel scope []) (← Reader.otherBranch fuel scope)) := by
  intro p p' hp
  have hbelow : false = true → scope = base := nofun
  refine (ih.sequence hbelow hst .nil hp).bind_needsMore (fun yes q r hnil hr => ?_) ?_
  · obtain ⟨no, s, hs, hlast⟩ := run_bind_eq_ok.mp hr
    cases (otherBranch_run_nil hnil).symm.trans hs
    exact hclose yes _ q _ hnil hlast
  rintro yes q yes' q' ⟨hyes, hq⟩
  refine (ih.otherBranch hoptions hnumber hst hq).bind_needsMore (hclose yes) ?_
  rintro no r no' r' ⟨hno, hr⟩
  exact h yes no yes' no' hyes hno r r' hr

omit hoptions hnumber in
theorem shiftsTo_lookAround {body body' : List Piece} {around around' : Node} (negated : Bool)
    (hbody : ShiftTo body body') (h : around.ShiftsTo around') :
    Item.ShiftsTo (lookAround negated body around) (lookAround negated body' around') := by
  have hempty : body'.isEmpty = body.isEmpty := by
    rw [hbody.1]
    cases body <;> rfl
  unfold lookAround
  rw [hempty]
  split
  · exact Node.ShiftsTo.whole ⟨rfl, trivial⟩
  · exact h.whole

theorem Mirrored.group_succ (ih : Mirrored more base R fuel) {top : Bool} {scope : Flags}
    {st : Scan} {start start' : Nat} {noItems noItems' : Bool}
    (hst : st.verbose = scope.verbose) :
    Mirror more base R ⟨.group, st.verbose, st.verbose :: st.outer⟩
      (fun a a' next => Option.Rel Item.ShiftsTo a a' ∧ next = st.goto .items)
      (Reader.group top (fuel + 1) scope start noItems)
      (Reader.group false (fuel + 1) scope start' noItems') := by
  let inner : Scan := ⟨.group, st.verbose, st.verbose :: st.outer⟩
  have houter : inner.outer = st.verbose :: st.outer := rfl
  have hinner : inner.verbose = scope.verbose := hst
  unfold Reader.group
  have hclose {f : Unit → Reader (Option Item)} : NeedsMore (closing start >>= f) :=
    (needsMore_closing start).bind f
  have hitem {item item' : Item} (h : item.ShiftsTo item') :
      Mirror more base R (st.goto .items)
        (fun a a' next => Option.Rel Item.ShiftsTo a a' ∧ next = st.goto .items)
        (pure (some item)) (pure (some item')) :=
    mirror_pure ⟨.some h, rfl⟩
  have hclosed {st₂ : Scan} (h₂ : st₂.outer = st.verbose :: st.outer)
      {f f' : Unit → Reader (Option Item)}
      (h : Mirror more base R (st.goto .items)
        (fun a a' next => Option.Rel Item.ShiftsTo a a' ∧ next = st.goto .items) (f ()) (f' ())) :
      Mirror more base R (st₂.goto .items)
        (fun a a' next => Option.Rel Item.ShiftsTo a a' ∧ next = st.goto .items)
        (closing start >>= f) (closing start' >>= f') := by
    refine (mirror_closing hoptions hnumber h₂ start start').bind ?_
    rintro _ _ _ rfl
    exact h
  refine (mirror_opening hoptions hnumber houter scope start start' _ _).bind ?_
  intro opening opening' next hopening
  cases hopening with
  | nothing => exact mirror_pure ⟨.none, rfl⟩
  | reference h => exact mirror_pure ⟨.some h.item, rfl⟩
  | capture name =>
    refine (mirror_enter name).bind ?_
    rintro index _ _ ⟨rfl, hindex, rfl⟩
    refine ih.inside hinner (fun _ => hclose) fun body body' hbody => hclosed houter ?_
    refine (mirror_leave hindex hbody.node).bind ?_
    rintro _ _ _ rfl
    exact hitem (Node.ShiftsTo.whole ⟨congrArg (Node.capture (index + 1)) hbody.node.1, hindex,
      hbody.node.2⟩)
  | together =>
    exact ih.inside hinner (fun _ => hclose) fun body body' hbody =>
      hclosed houter (hitem hbody.group)
  | options added removed =>
    let within := inner.under added.verbose removed.verbose
    have hunder : within.verbose = (scope.within added removed).verbose := by
      simp only [Scan.under, Flags.within, within, inner, hst]
    have hwithin : within.outer = st.verbose :: st.outer := rfl
    exact ih.inside hunder (fun _ => hclose) fun body body' hbody =>
      hclosed hwithin (hitem hbody.node.whole)
  | atomic =>
    exact ih.inside hinner (fun _ => hclose) fun body body' hbody =>
      hclosed houter (hitem (Node.ShiftsTo.whole ⟨congrArg Node.atomic hbody.node.1, hbody.node.2⟩))
  | ahead negated =>
    exact ih.inside hinner (fun _ => hclose) fun body body' hbody =>
      hclosed houter (hitem (shiftsTo_lookAround negated hbody
        ⟨congrArg (Node.ahead negated) hbody.node.1, hbody.node.2⟩))
  | behind negated =>
    have hstays (f : Progress → Option Nat) :
        Stays (modify fun p => { p with behindFrom := f p }) := by
      rintro p _ _ ⟨⟩
      exact ⟨rfl, rfl, rfl⟩
    refine mirror_get fun p p' hp => ?_
    refine (mirror_setBehind fun q q' hq => ?_).bind ?_
    · rw [hp.behindFrom, hq.groups]
      cases p.behindFrom <;> rfl
    rintro _ _ _ rfl
    refine ih.inside hinner (fun _ => (hstays _).needsMore fun _ => hclose)
      fun body body' hbody => ?_
    refine (mirror_setBehind fun _ _ _ => hp.behindFrom).bind ?_
    rintro _ _ _ rfl
    refine hclosed houter (mirror_get fun q q' hq => ?_)
    rw [hq.width hbody.node]
    exact hitem (shiftsTo_lookAround negated hbody
      ⟨congrArg (Node.behind negated _) hbody.node.1, hbody.node.2⟩)
  | condition hindex =>
    exact ih.branches hoptions hnumber hinner (fun _ _ => hclose)
      fun yes no yes' no' hyes hno => hclosed houter (hitem (Node.ShiftsTo.whole ⟨by
        rw [hyes.node.1, hno.node.1]
        rfl, hindex, hyes.node.2, hno.node.2⟩))

theorem mirrored (fuel : Nat) : Mirrored more base R fuel := by
  induction fuel with
  | zero => exact mirrored_zero
  | succ fuel ih =>
    exact {
      alternatives := ih.alternatives_succ
      moreAlternatives := ih.moreAlternatives_succ hoptions hnumber
      sequence := ih.sequence_succ hoptions hnumber
      group := ih.group_succ hoptions hnumber }

end Grammar
end Reader
end Regex
end QueryOptions
