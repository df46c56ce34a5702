import QueryOptions.Proofs.MirroredItems

/-!
# QueryOptions.Proofs.MirroredGroups

What an opening parenthesis announces, read by twins (`mirror_opening`), and the parenthesis that
closes a group (`mirror_closing`). A group whose options are given or whose name is known is the
same group for both; where a group is meant, its number is one more for the second reader.
-/

namespace QueryOptions
namespace Regex
namespace Reader

variable {α : Type} {more : List Symbol} {base : Flags} {R : Except Intrusion Bool} {st : Scan}
  (hoptions : R ≠ .error .options) (hnumber : R ≠ .error .number)
include hoptions hnumber

/-! ## Options -/

theorem mirrors_removedFlags (hst : st.outer ≠ []) {added : Bool} {fuel fuel' : Nat}
    {removed : Flags} {p p' : Progress} (hf : p.rest.length < fuel) (hf' : p'.rest.length < fuel')
    (hp : Twin more base R (st.goto (.removing added removed.verbose)) p p') :
    Mirrors R True (removedFlags fuel removed) (removedFlags fuel' removed) p p' fun a q a' q' =>
      ∃ st', Same (st.under added a.verbose) a a' st' ∧ Twin more base R st' q q' := by
  induction fuel generalizing fuel' removed p p' with
  | zero => omega
  | succ fuel ih =>
    cases fuel' with
    | zero => omega
    | succ fuel' =>
      refine mirrors_next hoptions hnumber hp nofun (fun _ _ _ h => absurd h (fails_refuse _ _ _ _))
        (Scan.step_ne_closing hst) ?_
      intro s st₁ q q' _ hstep hq hq' htwin
      rw [hq, List.length_cons] at hf
      rw [hq', List.length_cons] at hf'
      refine mirrors_ite (fun hs => ?_) fun hs => ?_
      · rw [hs] at hstep
        cases hstep
        exact mirrors_pure ⟨_, ⟨rfl, rfl⟩, htwin⟩
      cases hflag : s.flag? with
      | none => exact (fails_refuse _ _).mirrors (fails_refuse _ _)
      | some letter =>
        obtain rfl := Scan.eq_removing hs hflag hstep
        exact mirrors_unless .rfl ((fails_refuse _ _).bind _) ((fails_refuse _ _).bind _)
          (ih (by omega) (by omega) htwin)

theorem mirror_minusFlags (hst : st.outer ≠ []) (added : Bool) :
    Mirror more base R (st.goto (.removing added false))
      (fun a a' next => Same (st.under added a.verbose) a a' next) minusFlags minusFlags := by
  refine mirror_next hoptions hnumber nofun (fails_refuse _ _) (Scan.step_ne_closing hst) ?_
  intro s st₁ _ hstep
  dsimp only
  cases hflag : s.flag? with
  | none => exact (fails_refuse _ _).mirror (fails_refuse _ _)
  | some letter =>
    have hs : s ≠ .plain ':' := by
      rintro rfl
      cases hflag
    obtain rfl := Scan.eq_removing hs hflag hstep
    refine mirror_unless .rfl ((fails_refuse _ _).bind _) ((fails_refuse _ _).bind _) ?_
    intro p p' hp
    exact mirrors_get (mirrors_removedFlags hoptions hnumber hst (Nat.lt_succ_self _)
      (Nat.lt_succ_self _) hp)

/-- Where a scan is after options that were turned on: at those that are turned off, or at the items
of the group. -/
inductive Scan.Added (st : Scan) (verbose : Bool) : Char → Scan → Prop where
  | minus : Added st verbose '-' (st.goto (.removing verbose false))
  | colon : Added st verbose ':' (st.under verbose false)

/-- Options are never for the whole expression. -/
theorem mirrors_addedFlags (hst : st.outer ≠ []) {fuel fuel' : Nat} {c : Char} {f added : Flags}
    {p p' : Progress} (hf : p.rest.length < fuel) (hf' : p'.rest.length < fuel')
    (hp : Twin more base R (st.goto (.adding (added.union f).verbose)) p p') :
    Mirrors R True (addedFlags fuel c f added) (addedFlags fuel' c f added) p p' fun a q a' q' =>
      ∃ st', (a = a' ∧ Scan.Added st a.1.verbose a.2 st') ∧ Twin more base R st' q q' := by
  induction fuel generalizing fuel' c f added p p' with
  | zero => omega
  | succ fuel ih =>
    cases fuel' with
    | zero => omega
    | succ fuel' =>
      refine mirrors_unless .rfl ((fails_refuse _ _).bind _) ((fails_refuse _ _).bind _) ?_
      refine mirrors_unless .rfl ((fails_refuse _ _).bind _) ((fails_refuse _ _).bind _) ?_
      refine mirrors_next hoptions hnumber hp nofun (fun _ _ _ h => absurd h (fails_refuse _ _ _ _))
        (Scan.step_ne_closing hst) ?_
      intro s st₁ q q' _ hstep hq hq' htwin
      rw [hq, List.length_cons] at hf
      rw [hq', List.length_cons] at hf'
      refine mirrors_ite (fun hs => ?_) fun _ => mirrors_ite (fun hs => ?_) fun hdash =>
        mirrors_ite (fun hs => ?_) fun hcolon => ?_
      · rw [hs] at hstep
        cases hstep
      · rw [hs] at hstep
        cases hstep
        exact mirrors_pure ⟨_, ⟨rfl, .minus⟩, htwin⟩
      · rw [hs] at hstep
        cases hstep
        exact mirrors_pure ⟨_, ⟨rfl, .colon⟩, htwin⟩
      cases hflag : s.flag? with
      | none => exact (fails_refuse _ _).mirrors (fails_refuse _ _)
      | some letter =>
        obtain rfl := Scan.eq_adding hdash hcolon hflag hstep
        exact ih (by omega) (by omega) htwin

/-- Options of a group: some that are turned on, and some that are turned off. -/
theorem mirror_flagGroup (hst : st.outer ≠ []) {c : Char} {f : Flags} {zone : Zone}
    (hc : c = '-' ∧ zone = .removing false false ∨ c ≠ '-' ∧ zone = .adding f.verbose) :
    Mirror more base R (st.goto zone)
      (fun a a' next => ∃ added removed, a = some (added, removed) ∧ a' = some (added, removed) ∧
        next = st.under added.verbose removed.verbose) (flagGroup c f) (flagGroup c f) := by
  have hadded : Mirror more base R (st.goto zone)
      (fun a a' next => a = a' ∧ Scan.Added st a.1.verbose a.2 next)
      (do
        if c = '-' then return (({} : Flags), '-')
        else addedFlags ((← get).rest.length + 1) c f {})
      (do
        if c = '-' then return (({} : Flags), '-')
        else addedFlags ((← get).rest.length + 1) c f {}) := by
    intro p p' hp
    rcases hc with ⟨rfl, rfl⟩ | ⟨hc, rfl⟩
    · exact mirrors_pure ⟨_, ⟨rfl, .minus⟩, hp⟩
    · rw [if_neg hc]
      exact mirrors_get (mirrors_addedFlags hoptions hnumber hst (Nat.lt_succ_self _)
        (Nat.lt_succ_self _) hp)
  unfold flagGroup
  refine hadded.bind ?_
  rintro ⟨added, stop⟩ _ _ ⟨rfl, hstop⟩
  cases hstop with
  | minus =>
    refine mirror_ite (fun h => absurd h (by decide)) fun _ => ?_
    refine mirror_unless .rfl ((fails_refuse _ _).bind _) ((fails_refuse _ _).bind _) ?_
    refine mirror_ite (fun h => absurd h (by decide)) fun _ => ?_
    refine (mirror_minusFlags hoptions hnumber hst added.verbose).bind ?_
    rintro removed _ _ ⟨rfl, rfl⟩
    refine mirror_unless .rfl ((fails_refuse _ _).bind _) ((fails_refuse _ _).bind _) ?_
    exact mirror_unless .rfl ((fails_refuse _ _).bind _) ((fails_refuse _ _).bind _)
      (mirror_pure ⟨added, removed, rfl, rfl, rfl⟩)
  | colon =>
    refine mirror_ite (fun h => absurd h (by decide)) fun _ => ?_
    refine mirror_unless .rfl ((fails_refuse _ _).bind _) ((fails_refuse _ _).bind _) ?_
    refine mirror_ite (fun _ => ?_) fun h => absurd rfl h
    exact mirror_pure ⟨added, {}, rfl, rfl, rfl⟩

/-! ## Names -/

theorem mirror_groupName (hst : st.outer ≠ []) :
    Mirror more base R (st.goto (.name .group [])) (Same (st.goto .items)) groupName groupName := by
  refine (mirror_nameUntil hoptions hnumber .group _ fun taken =>
    Scan.named_ne_closing hst taken .group).bind ?_
  rintro name _ _ ⟨rfl, ⟨⟩⟩
  exact mirror_unless .rfl ((fails_refuse _ _).bind _) ((fails_refuse _ _).bind _)
    (mirror_pure ⟨rfl, rfl⟩)

/-- A reference by a name is to the same group. -/
theorem mirror_namedReference {verbose : Bool} {outer : List Bool}
    (hst : st.outer = verbose :: outer) (scope : Flags) :
    Mirror more base R (st.goto (.name .reference []))
      (fun a a' next => a.ShiftsTo a' ∧ next = ⟨.items, verbose, outer⟩) (namedReference scope)
      (namedReference scope) := by
  have hne : st.outer ≠ [] := by
    rw [hst]
    nofun
  refine (mirror_nameUntil hoptions hnumber .reference _ fun taken =>
    Scan.named_ne_closing hne taken .reference).bind ?_
  rintro name _ st' ⟨rfl, hclose⟩
  obtain rfl := Except.ok.inj ((Scan.close_of_outer hst).symm.trans hclose)
  refine mirror_unless .rfl ((fails_refuse _ _).bind _) ((fails_refuse _ _).bind _) ?_
  refine mirror_get fun p p' hp => ?_
  rw [hp.lookup]
  cases hindex : p.names.lookup (String.ofList name) with
  | none => exact (fails_refuse _ _).mirror (fails_refuse _ _)
  | some index =>
    have hpos := hp.lookup_pos hindex
    refine (mirror_isClosed hpos).bind ?_
    rintro closed _ _ ⟨rfl, rfl⟩
    refine mirror_unless .rfl ((fails_refuse _ _).bind _) ((fails_refuse _ _).bind _) ?_
    refine (mirror_checkBehind hpos).bind ?_
    rintro _ _ _ rfl
    exact mirror_pure ⟨⟨rfl, hpos⟩, rfl⟩

/-- A group that is asked about by its name is the same group. -/
theorem mirror_conditionGroup (hst : st.outer ≠ []) :
    Mirror more base R (st.goto (.name .condition []))
      (fun a a' next => a' = a + 1 ∧ 0 < a ∧ next = st.goto .items) conditionGroup
      conditionGroup := by
  refine (mirror_nameUntil hoptions hnumber .condition _ fun taken =>
    Scan.named_ne_closing hst taken .condition).bind ?_
  rintro name _ st' ⟨rfl, hnamed⟩
  dsimp only
  simp only [Scan.named, Label.move] at hnamed
  refine Mirror.bind (S := fun a a' next => a' = a + 1 ∧ 0 < a ∧ next = st.goto .items) ?_ ?_
  · refine mirror_ite (fun hname => ?_) fun hname => ?_
    · rw [if_pos hname] at hnamed
      cases hnamed
      refine mirror_get fun p p' hp => ?_
      rw [hp.lookup]
      cases hindex : p.names.lookup (String.ofList name) with
      | none => exact (fails_refuse _ _).mirror (fails_refuse _ _)
      | some index => exact mirror_pure ⟨rfl, hp.lookup_pos hindex, rfl⟩
    · rw [if_neg hname] at hnamed
      cases hindex : groupNumber? name with
      | none => exact (fails_refuse _ _).mirror (fails_refuse _ _)
      | some index =>
        rw [hindex] at hnamed
        cases hnamed
  · rintro index _ _ ⟨rfl, hpos, rfl⟩
    refine (mirror_checkBehind hpos).bind ?_
    rintro _ _ _ rfl
    exact mirror_pure ⟨rfl, hpos, rfl⟩

/-! ## Parentheses -/

theorem mirror_closing {verbose : Bool} {outer : List Bool} (hst : st.outer = verbose :: outer)
    (start start' : Nat) :
    Mirror more base R (st.goto .items) (fun _ _ next => next = ⟨.items, verbose, outer⟩)
      (closing start) (closing start') := by
  intro p p' hp
  cases hrest : p.rest with
  | nil =>
    refine ⟨fun a q ha => ?_, fun hR => absurd hrest (hp.ne_nil ?_ hR)⟩
    · exact absurd ha (needsMore_closing start p _ hrest)
    · simp [Scan.finish, Scan.goto, hst]
  | cons s rest =>
    have hclose : (st.goto .items).step (.plain ')') = .ok ⟨.items, verbose, outer⟩ :=
      (st.step_items_close).trans (Scan.close_of_outer hst)
    unfold closing
    refine (mirrors_accept hoptions hnumber (.inr ?_) hclose hp).bind ?_
    · simp [hrest]
    rintro closed q _ q' ⟨rfl, h⟩
    cases closed with
    | false => exact (fails_refuseAt _ _).mirrors (fails_refuseAt _ _)
    | true => exact mirrors_pure ⟨_, rfl, h.1⟩

/-- What an opening parenthesis announces to both, and how the scan goes on: with the items of a
group, or after what is closed already. -/
inductive Opening.ShiftsTo (st : Scan) (verbose : Bool) (outer : List Bool) :
    Opening → Opening → Scan → Prop where
  | nothing : ShiftsTo st verbose outer .nothing .nothing ⟨.items, verbose, outer⟩
  | reference {p p' : Piece} (h : p.ShiftsTo p') :
    ShiftsTo st verbose outer (.reference p) (.reference p') ⟨.items, verbose, outer⟩
  | capture (name : Option (List Char)) :
    ShiftsTo st verbose outer (.capture name) (.capture name) (st.goto .items)
  | together : ShiftsTo st verbose outer .together .together (st.goto .items)
  | options (added removed : Flags) :
    ShiftsTo st verbose outer (.scoped added removed) (.scoped added removed)
      (st.under added.verbose removed.verbose)
  | atomic : ShiftsTo st verbose outer .atomic .atomic (st.goto .items)
  | ahead (negated : Bool) :
    ShiftsTo st verbose outer (.ahead negated) (.ahead negated) (st.goto .items)
  | behind (negated : Bool) :
    ShiftsTo st verbose outer (.behind negated) (.behind negated) (st.goto .items)
  | condition {index : Nat} (h : 0 < index) :
    ShiftsTo st verbose outer (.condition index) (.condition (index + 1)) (st.goto .items)

section Opening

variable {verbose : Bool} {outer : List Bool} (hst : st.outer = verbose :: outer)

include hst

theorem mirror_namedOpening (scope : Flags) :
    Mirror more base R (st.goto .naming) (Opening.ShiftsTo st verbose outer) (namedOpening scope)
      (namedOpening scope) := by
  have hne : st.outer ≠ [] := by simp [hst]
  have hgroup : (st.goto .naming).step (.plain '<') = .ok (st.goto (.name .group [])) := rfl
  have hreference : (st.goto .naming).step (.plain '=') = .ok (st.goto (.name .reference [])) := rfl
  refine (mirror_accept hoptions hnumber (by decide) hgroup).bind ?_
  rintro isName _ _ ⟨rfl, rfl⟩
  cases isName with
  | true =>
    refine (mirror_groupName hoptions hnumber hne).bind ?_
    rintro name _ _ ⟨rfl, rfl⟩
    exact mirror_pure (.capture (some name))
  | false =>
    refine (mirror_accept hoptions hnumber (by decide) hreference).bind ?_
    rintro isReference _ _ ⟨rfl, rfl⟩
    cases isReference with
    | true =>
      refine (mirror_namedReference hoptions hnumber hst scope).bind ?_
      rintro piece piece' _ ⟨hpiece, rfl⟩
      exact mirror_pure (.reference hpiece)
    | false =>
      refine mirror_next hoptions hnumber (fun h => by cases h) (fails_refuse _ _)
        (Scan.step_ne_closing hne) fun t _ _ _ => ?_
      exact (fails_refuse _ _).mirror (fails_refuse _ _)

theorem mirror_commentOpening (start start' : Nat) :
    Mirror more base R (st.goto .comment) (Opening.ShiftsTo st verbose outer) (commentOpening start)
      (commentOpening start') := by
  have hne : (st.goto .comment).outer ≠ [] := by simp [Scan.goto, hst]
  have hmore : (st.goto .comment).finish ≠ .ok true := fun h => by cases h
  have hstop : (st.goto .comment).step (.plain ')') = .ok ⟨.items, verbose, outer⟩ :=
    Scan.close_of_outer hst
  intro p p' hp
  apply mirrors_get
  refine mirrors_skipPast hoptions hnumber hmore hstop (fun _ _ => Scan.eq_comment)
    (Scan.step_ne_closing hne) (fun _ _ _ _ h => absurd h (fails_refuseAt _ _ _ _)) ?_
    (Nat.lt_succ_self _) (Nat.lt_succ_self _) hp
  exact fun q q' hq => mirrors_pure ⟨_, .nothing, hq⟩

theorem mirror_behindOpening :
    Mirror more base R (st.goto .behind) (Opening.ShiftsTo st verbose outer) behindOpening
      behindOpening := by
  have hne : (st.goto .behind).outer ≠ [] := by simp [Scan.goto, hst]
  refine mirror_next hoptions hnumber (fun h => by cases h) (fails_refuse _ _)
    (Scan.step_ne_closing hne) fun s st' _ hstep => ?_
  refine mirror_ite (fun hs => ?_) fun _ => mirror_ite (fun hs => ?_) fun _ =>
    (fails_refuse _ _).mirror (fails_refuse _ _)
  · rw [hs] at hstep
    cases hstep
    exact mirror_pure (.behind false)
  · rw [hs] at hstep
    cases hstep
    exact mirror_pure (.behind true)

theorem mirror_flagsOpening (start start' : Nat) (first first' : Bool) (s : Symbol) :
    Mirror more base R (st.goto (Zone.extend s)) (Opening.ShiftsTo st verbose outer)
      (flagsOpening start first s) (flagsOpening start' first' s) := by
  have hne : st.outer ≠ [] := by simp [hst]
  have hflags {c : Char} {f : Flags} {zone : Zone}
      (hc : c = '-' ∧ zone = .removing false false ∨ c ≠ '-' ∧ zone = .adding f.verbose) :
      Mirror more base R (st.goto zone) (Opening.ShiftsTo st verbose outer)
        (flagGroup c f >>= optionsOpening start first)
        (flagGroup c f >>= optionsOpening start' first') := by
    refine (mirror_flagGroup hoptions hnumber hne hc).bind ?_
    rintro _ _ _ ⟨added, removed, rfl, rfl, rfl⟩
    exact mirror_pure (.options added removed)
  unfold flagsOpening
  by_cases hdash : s = .plain '-'
  · rw [hdash]
    exact hflags (.inl ⟨rfl, rfl⟩)
  · rw [if_neg hdash]
    cases hflag : s.flag? with
    | none => exact (fails_refuse _ _).mirror (fails_refuse _ _)
    | some letter =>
      rw [Zone.extend_flag hflag]
      refine hflags (.inr ⟨?_, rfl⟩)
      cases s with
      | plain c =>
        obtain ⟨f, -, rfl⟩ := Option.map_eq_some_iff.mp hflag
        exact fun hc => hdash (congrArg Symbol.plain hc)
      | _ => cases hflag

theorem mirror_opening (scope : Flags) (start start' : Nat) (first first' : Bool) :
    Mirror more base R (st.goto .group) (Opening.ShiftsTo st verbose outer)
      (opening scope start first) (opening scope start' first') := by
  have hne : st.outer ≠ [] := by simp [hst]
  intro p p' hp
  rw [opening_eq, opening_eq]
  have hextension : (st.goto .group).step (.plain '?') = .ok (st.goto .extension) := rfl
  refine (mirrors_accept hoptions hnumber (.inl (by decide)) hextension hp).bind ?_
  rintro isSpecial q _ q' ⟨rfl, h⟩
  cases isSpecial with
  | false =>
    obtain ⟨rfl, rfl, hother⟩ := h
    exact mirrors_pure
      ⟨_, .capture none, hp.rescan ((Scan.run_group hne hother).symm.trans hp.scan)⟩
  | true =>
    have hmore : (st.goto .extension).finish ≠ .ok true := fun h => by cases h
    refine mirror_next hoptions hnumber hmore (fails_refuse _ _) (Scan.step_ne_closing hne) ?_
      q q' h.1
    intro s st' _ hstep
    obtain rfl := Scan.eq_extend hstep
    refine mirror_ite (fun hs => hs ▸ mirror_namedOpening hoptions hnumber hst scope) fun _ =>
      mirror_ite (fun hs => hs ▸ mirror_pure .together) fun _ =>
      mirror_ite (fun hs => hs ▸ mirror_commentOpening hoptions hnumber hst start start') fun _ =>
      mirror_ite (fun hs => hs ▸ mirror_pure (.ahead false)) fun _ =>
      mirror_ite (fun hs => hs ▸ mirror_pure (.ahead true)) fun _ =>
      mirror_ite (fun hs => hs ▸ mirror_behindOpening hoptions hnumber hst) fun _ =>
      mirror_ite (fun hs => ?condition) fun _ =>
      mirror_ite (fun hs => hs ▸ mirror_pure .atomic) fun _ =>
      mirror_flagsOpening hoptions hnumber hst start start' first first' s
    case condition =>
      rw [hs]
      refine (mirror_conditionGroup hoptions hnumber hne).bind ?_
      rintro index _ _ ⟨rfl, hpos, rfl⟩
      exact mirror_pure (.condition hpos)

end Opening

end Reader
end Regex
end QueryOptions
