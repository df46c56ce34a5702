import QueryOptions.Proofs.Retracing

/-!
# QueryOptions.Proofs.Beginnings

What a text says about options before its first item. Letters for the whole expression may only
stand there, and nothing has been read under any options by then. So the options that a text brings
may as well hold from its beginning.

* `Keeps`, `keeps_sequence`: after an item no more options come;
* `group_none_iff`, `opening_nothing`: a group that is no item, whatever options hold;
* `Brings`, `brings_sequence`, `brings_alternatives`: what is read under the options that a text
  brings is read under them from its beginning, too;
* `options_hold`: options from the beginning still hold at the end.
-/

namespace QueryOptions
namespace Regex
namespace Reader

variable {α β : Type} {p p' q q' : Progress}

/-! ## Steps that leave the options as they are -/

/-- A step after which the given options still are those of the whole expression. -/
def Keeps (f : Flags) (m : Reader α) : Prop :=
  ∀ p a q, p.flags = f → m.run p = .ok (a, q) → q.flags = f

section Keeps

variable {f g : Flags} {m : Reader α} {k : α → Reader β}

theorem keeps_pure (a : α) : Keeps f (pure a) := by
  rintro p _ _ hp ⟨⟩
  exact hp

theorem Fails.keeps (h : Fails m) : Keeps f m := fun p _ _ _ ha => absurd ha (h p _)

theorem Keeps.bind (hm : Keeps f m) (hk : ∀ a, Keeps f (k a)) : Keeps f (m >>= k) := by
  intro p b r hp hr
  obtain ⟨a, q, ha, hb⟩ := run_bind_eq_ok.mp hr
  exact hk a q b r (hm p a q hp ha) hb

theorem keeps_get {k : Progress → Reader α} (h : ∀ p, Keeps f (k p)) : Keeps f (get >>= k) :=
  fun p => h p p

theorem keeps_ite {c : Prop} [Decidable c] {n : Reader α} (hm : Keeps f m) (hn : Keeps f n) :
    Keeps f (if c then m else n) := by
  split
  · exact hm
  · exact hn

theorem Repeats.keeps {R : α → α → Prop} (h : ∀ k, Repeats f f k R m m) : Keeps f m := by
  rintro p a q rfl ha
  exact (h _).flags ha

/-- After an item no options for the whole expression can come. -/
theorem keeps_sequence (fuel : Nat) {items : List Item} (h : items ≠ []) :
    Keeps f (sequence true fuel f items) := by
  rintro p pieces q rfl hq
  obtain ⟨_, _, -, hends⟩ := (retraces fuel).sequence (.refl p.flags) (fun _ => ⟨rfl, rfl⟩)
    (Nat.le_refl _) (.refl p) pieces q hq
  exact (hends.alike (.inr h)).2.1.flags

end Keeps

/-! ## Options that the text brings -/

/-- If the first step is taken and some options hold after it, the second one is taken, too, with
the same result, and both readers have the same options then. -/
def Brings (g : Flags) (m m' : Reader α) (p p' : Progress) : Prop :=
  ∀ a q, m.run p = .ok (a, q) → q.flags.union g = q.flags →
    ∃ q', m'.run p' = .ok (a, q') ∧ Alike q.flags q.flags q q' ∧ q'.rest.length ≤ p'.rest.length

section Brings

variable {f g : Flags} {m m' : Reader α} {k k' : α → Reader β}

theorem Leads.brings {kept : α → Prop} (hp : p'.rest = p.rest)
    (h : Leads m m' p p' (Ends f f kept p)) : Brings g m m' p p' := by
  intro a q ha _
  obtain ⟨_, q', ha', rfl, hle, added, -, hq⟩ := h a q ha
  refine ⟨q', ha', ?_, ?_⟩
  · rw [hq.flags]
    exact hq
  · rw [hq.rest, hp]
    exact hle

theorem brings_get {f f' : Progress → Reader α} (h : Brings g (f p) (f' p') p p') :
    Brings g (get >>= f) (get >>= f') p p' := h

/-- `Brings` is kept when both readers take a step that keeps them alike before. -/
theorem Brings.after (hm : Leads m m' p p' fun a q a' q' =>
      Brings g (k a) (k' a') q q' ∧ q'.rest.length ≤ p'.rest.length) :
    Brings g (m >>= k) (m' >>= k') p p' := by
  intro b r hr hg
  obtain ⟨a, q, ha, hb⟩ := run_bind_eq_ok.mp hr
  obtain ⟨a', q', ha', hbrings, hle⟩ := hm a q ha
  obtain ⟨r', hb', hrr', hle'⟩ := hbrings b r hb hg
  exact ⟨r', run_bind_eq_ok.mpr ⟨a', q', ha', hb'⟩, hrr', Nat.le_trans hle' hle⟩

/-- `Brings` for `next`: both read the same symbol and stay alike. -/
theorem brings_next {f' : Flags} {k k' : Option Symbol → Reader α} {s : Symbol} {rest : List Symbol}
    (hp : Alike f f' p p') (hrest : p.rest = s :: rest)
    (h : ∀ q q', Alike f f' q q' → q.rest = rest → Brings g (k (some s)) (k' (some s)) q q') :
    Brings g (next >>= k) (next >>= k') p p' := by
  refine .after ((leads_next hp).mono ?_)
  rintro a q _ q' ⟨rfl, hq, ⟨-, -, hnil⟩ | ⟨t, rfl, ht⟩⟩
  · cases hnil.symm.trans hrest
  · obtain ⟨rfl, hqrest⟩ := List.cons.inj (ht.symm.trans hrest)
    refine ⟨h q q' hq hqrest, ?_⟩
    rw [hq.rest, hp.rest, ht]
    exact Nat.le_succ _

/-- `Brings` for `skipPast`: both pass over the same stretch and stay alike. -/
theorem brings_skipPast {f' : Flags} {k k' : Bool → Reader α} {stop : Char} (hp : Alike f f' p p')
    (h : ∀ found q q', Alike f f' q q' → q.rest.length ≤ p.rest.length →
      Brings g (k found) (k' found) q q') :
    Brings g (get >>= fun s => skipPast stop (s.rest.length + 1) >>= k)
      (get >>= fun s => skipPast stop (s.rest.length + 1) >>= k') p p' := by
  apply brings_get
  rw [hp.rest]
  refine .after ((repeats_skipPast stop _ p p' hp (Nat.le_refl _)).mono ?_)
  rintro found q _ q' ⟨rfl, hq, hle⟩
  refine ⟨h found q q' hq hle, ?_⟩
  rw [hq.rest, hp.rest]
  exact hle

/-- `Brings` is kept by a step after it that leaves the options as they are. -/
theorem Brings.before (hm : Brings g m m' p p')
    (hk : ∀ a q q', Alike q.flags q.flags q q' → q'.rest.length ≤ p'.rest.length →
      Leads (k a) (k' a) q q' fun b r b' r' =>
        b = b' ∧ Alike q.flags q.flags r r' ∧ r.rest.length ≤ q.rest.length)
    (hkeeps : ∀ a q b r, (k a).run q = .ok (b, r) → r.flags = q.flags) :
    Brings g (m >>= k) (m' >>= k') p p' := by
  intro b r hr hg
  obtain ⟨a, q, ha, hb⟩ := run_bind_eq_ok.mp hr
  have hsame := hkeeps a q b r hb
  rw [hsame] at hg ⊢
  obtain ⟨q', ha', hq, hle⟩ := hm a q ha hg
  obtain ⟨_, r', hb', rfl, hrr', hle'⟩ := hk a q q' hq hle b r hb
  refine ⟨r', run_bind_eq_ok.mpr ⟨a, q', ha', hb'⟩, hrr', ?_⟩
  rw [hrr'.rest]
  rw [hq.rest] at hle
  exact Nat.le_trans hle' hle

/-- Options that a step keeps without them are none that it brings: `Brings` holds for want of a
run. -/
theorem Keeps.brings {m' : Reader α} (h : Keeps f m) (hp : p.flags = f) (hg : f.union g ≠ f) :
    Brings g m m' p p' := by
  intro a q ha hq
  rw [h p a q hp ha] at hq
  exact absurd hq hg

end Brings

/-! ## Before the first item -/

/-- A step whose result is something. -/
def Gives (m : Reader (Option α)) : Prop := ∀ p q, m.run p ≠ .ok (none, q)

theorem gives_some (a : α) : Gives (pure (some a)) := by
  rintro p _ ⟨⟩

theorem Gives.bind (m : Reader β) {k : β → Reader (Option α)} (h : ∀ b, Gives (k b)) :
    Gives (m >>= k) := by
  intro p r hr
  obtain ⟨b, q, -, hb⟩ := run_bind_eq_ok.mp hr
  exact h b q r hb

/-- A group is no item just if there is nothing in it that matches. -/
theorem group_none_iff {fuel : Nat} {scope : Flags} {start : Nat} {top noItems : Bool} :
    (group top (fuel + 1) scope start noItems).run p = .ok (none, q) ↔
      (opening scope start (top && noItems)).run p = .ok (.nothing, q) := by
  unfold group
  constructor
  · intro h
    obtain ⟨o, r, ho, h⟩ := run_bind_eq_ok.mp h
    cases o with
    | nothing =>
      cases h
      exact ho
    | reference piece => exact absurd h (gives_some _ r q)
    | capture name =>
      refine absurd h (Gives.bind _ (fun index => Gives.bind _ fun body => ?_) r q)
      exact .bind _ fun _ => .bind _ fun _ => gives_some _
    | together =>
      exact absurd h (Gives.bind _ (fun body => .bind _ fun _ => gives_some _) r q)
    | «scoped» added removed =>
      exact absurd h (Gives.bind _ (fun body => .bind _ fun _ => gives_some _) r q)
    | atomic =>
      exact absurd h (Gives.bind _ (fun body => .bind _ fun _ => gives_some _) r q)
    | ahead negated =>
      exact absurd h (Gives.bind _ (fun body => .bind _ fun _ => gives_some _) r q)
    | behind negated =>
      refine absurd h (Gives.bind _ (fun _ => .bind _ fun _ => .bind _ fun body => ?_) r q)
      exact .bind _ fun _ => .bind _ fun _ => .bind _ fun _ => gives_some _
    | condition index =>
      refine absurd h (Gives.bind _ (fun yes => .bind _ fun no => .bind _ fun _ => ?_) r q)
      exact gives_some _
  · intro h
    exact run_bind_eq_ok.mpr ⟨_, _, h, rfl⟩

/-- A group with a name or a reference to one matches something. -/
theorem namedOpening_ne (scope : Flags) : (namedOpening scope).run p ≠ .ok (.nothing, q) := by
  intro h
  obtain ⟨isName, p₁, -, h⟩ := run_bind_eq_ok.mp h
  cases isName with
  | true => obtain ⟨name, p₂, -, ⟨⟩⟩ := run_bind_eq_ok.mp h
  | false =>
    obtain ⟨isReference, p₂, -, h⟩ := run_bind_eq_ok.mp h
    cases isReference with
    | true => obtain ⟨piece, p₃, -, ⟨⟩⟩ := run_bind_eq_ok.mp h
    | false =>
      obtain ⟨t, p₃, -, h⟩ := run_bind_eq_ok.mp h
      cases t <;> exact fails_refuse _ _ _ _ h

/-- Options do not matter to what matches nothing. -/
theorem opening_nothing {scope : Flags} (scope' : Flags) {start : Nat} {first : Bool}
    (h : (opening scope start first).run p = .ok (.nothing, q)) :
    (opening scope' start first).run p = .ok (.nothing, q) := by
  rw [opening_eq] at h ⊢
  obtain ⟨isSpecial, p₁, hspecial, h⟩ := run_bind_eq_ok.mp h
  refine run_bind_eq_ok.mpr ⟨isSpecial, p₁, hspecial, ?_⟩
  cases isSpecial with
  | false => cases h
  | true =>
    obtain ⟨s, p₂, hs, h⟩ := run_bind_eq_ok.mp h
    refine run_bind_eq_ok.mpr ⟨s, p₂, hs, ?_⟩
    cases s with
    | none => exact h
    | some s =>
      dsimp only at h ⊢
      by_cases hnamed : s = .plain 'P'
      · rw [if_pos hnamed] at h
        exact absurd h (namedOpening_ne scope)
      · rw [if_neg hnamed] at h ⊢
        exact h

/-- Options that come before the first item may as well be there from the beginning. -/
theorem leads_group_none {fuel fuel' : Nat} {f f' : Flags} {start start' : Nat}
    (hp : Alike f f' p p') (h : (group true (fuel + 1) f start true).run p = .ok (none, q)) :
    ∃ q', (group true (fuel' + 1) f' start' true).run p' = .ok (none, q') ∧
      q.rest.length ≤ p.rest.length ∧
      ∃ added : Flags, Alike (f.union added) (f'.union added) q q' := by
  obtain ⟨_, q', hq', rfl, hle, added, -, hqq'⟩ :=
    leads_opening f start start' _ hp _ _ (group_none_iff.mp h)
  exact ⟨q', group_none_iff.mpr (opening_nothing f' hq'), hle, added, hqq'⟩

theorem flags_of_group {fuel start : Nat} {f : Flags} {item : Item} (hp : p.flags = f)
    (h : (group true fuel f start true).run p = .ok (some item, q)) : q.flags = f := by
  subst hp
  have hself : Leads (group true fuel p.flags start true)
      (group true (3 * p.rest.length + 3) p.flags start true) p p _ :=
    (retraces fuel).group (.refl p.flags) (Nat.le_refl _) (.refl p)
  obtain ⟨_, _, -, hends⟩ := hself _ _ h
  exact (hends.alike (.inl nofun)).2.1.flags

/-- A group that comes first: if it is no item, the text goes on with the options it brings. -/
theorem brings_group {fuel fuel' : Nat} {f g : Flags} {start start' : Nat} (hg : f.union g ≠ f)
    (hp : Alike f (f.union g) p p')
    (hafter : ∀ (added : Flags) {q q' : Progress}, q.rest.length ≤ p.rest.length →
      Alike (f.union added) ((f.union added).union g) q q' →
      Brings g (sequence true fuel (f.union added) [])
        (sequence true (fuel' + 1) ((f.union added).union g) []) q q') :
    Brings g (group true fuel f start true >>= afterGroup true fuel f [])
      (group true (fuel' + 1) (f.union g) start' true
        >>= afterGroup true (fuel' + 1) (f.union g) [])
      p p' := by
  intro pieces r hr hfinal
  obtain ⟨item, q, hitem, hr⟩ := run_bind_eq_ok.mp hr
  cases item with
  | some item =>
    have hflags := flags_of_group hp.flags hitem
    rw [keeps_sequence fuel (List.cons_ne_nil item []) q pieces r hflags hr] at hfinal
    exact absurd hfinal hg
  | none =>
    obtain ⟨fuel, rfl⟩ : ∃ n, fuel = n + 1 := by
      refine Nat.exists_eq_succ_of_ne_zero ?_
      rintro rfl
      exact fails_refuse _ _ _ _ hitem
    obtain ⟨q', hq', hle, added, hqq'⟩ := leads_group_none hp hitem
    have hrest : (sequence true (fuel + 1) (f.union added) []).run q = .ok (pieces, r) := by
      rw [← hqq'.flags]
      exact hr
    rw [Flags.union_right_comm] at hqq'
    obtain ⟨r', hr', hrr', hle'⟩ := hafter added hle hqq' pieces r hrest hfinal
    rw [← hqq'.flags'] at hr'
    refine ⟨r', run_bind_eq_ok.mpr ⟨none, q', hq', hr'⟩, hrr', ?_⟩
    rw [hqq'.rest] at hle'
    rw [hp.rest]
    exact Nat.le_trans hle' hle

/-- A character that begins an item is followed by no options for the whole expression. -/
theorem keeps_fromCharacter (fuel : Nat) {f : Flags} {c : Char}
    (hskip : ¬(f.verbose && isSkipped c) = true) (hcomment : ¬(f.verbose && c = '#') = true)
    (hgroup : c ≠ '(') : Keeps f (fromCharacter true fuel f [] c) := by
  have hmore {items : List Item} (h : items ≠ []) : Keeps f (sequence true fuel f items) :=
    keeps_sequence fuel h
  refine keeps_get fun p => Keeps.bind (Repeats.keeps fun _ => repeats_next) fun _ => ?_
  simp only [if_neg hskip, if_neg hcomment, if_neg hgroup]
  refine keeps_ite ?set <| keeps_ite (hmore (List.cons_ne_nil _ _)) <|
    keeps_ite (hmore (List.cons_ne_nil _ _)) <| keeps_ite (hmore (List.cons_ne_nil _ _)) <|
    keeps_ite ?repetition (hmore (List.cons_ne_nil _ _))
  case set =>
    exact Keeps.bind (Repeats.keeps fun _ => repeats_characterSet f) fun piece =>
      hmore (List.cons_ne_nil _ _)
  case repetition =>
    refine Keeps.bind (Repeats.keeps fun _ => repeats_bounds c) fun counts => ?_
    cases counts with
    | none => exact hmore (List.cons_ne_nil _ _)
    | some counts => exact ((fails_refuseAt _ _).bind _).keeps

theorem brings_fromCharacter {fuel fuel' : Nat} {f g : Flags} {c : Char} {rest : List Symbol}
    (hg : f.union g ≠ f) (hp : Alike f (f.union g) p p') (hrest : p.rest = .plain c :: rest)
    (hfuel : 3 * p.rest.length ≤ fuel')
    (ih : ∀ {f : Flags} {fuel' : Nat} {p p' : Progress}, 3 * p.rest.length + 1 ≤ fuel' →
      Alike f (f.union g) p p' →
      Brings g (sequence true fuel f []) (sequence true fuel' (f.union g) []) p p') :
    Brings g (fromCharacter true fuel f [] c) (fromCharacter true fuel' (f.union g) [] c) p p' := by
  have hlength : p.rest.length = rest.length + 1 := by rw [hrest, List.length_cons]
  have hverbose (h : f.verbose = true) : (f.union g).verbose = true := by simp [Flags.union, h]
  by_cases hskip : (f.verbose && isSkipped c) = true
  · have hskip' : ((f.union g).verbose && isSkipped c) = true := by
      rw [Bool.and_eq_true] at hskip ⊢
      exact ⟨hverbose hskip.1, hskip.2⟩
    unfold fromCharacter
    simp only [if_pos hskip, if_pos hskip']
    refine brings_get (brings_next hp hrest fun q q' hq hqrest => ih ?_ hq)
    rw [hqrest]
    omega
  by_cases hcomment : (f.verbose && c = '#') = true
  · rw [Bool.and_eq_true, decide_eq_true_eq] at hcomment
    obtain ⟨hf, rfl⟩ := hcomment
    have hskip' : isSkipped '#' = false := by decide
    unfold fromCharacter
    simp only [hf, hverbose hf, hskip', Bool.and_false, Bool.false_eq_true, decide_true,
      Bool.and_self, if_false, if_true]
    refine brings_get (brings_next hp hrest fun q q' hq hqrest => ?_)
    refine brings_skipPast hq fun _ r r' hr hle => ?_
    rw [hqrest] at hle
    exact ih (by omega) hr
  by_cases hgroup : c = '('
  · subst hgroup
    have hskip' : isSkipped '(' = false := by decide
    obtain ⟨fuel', rfl⟩ := Nat.exists_eq_succ_of_ne_zero (show fuel' ≠ 0 by omega)
    unfold fromCharacter
    simp only [hskip', Bool.and_false, Bool.false_eq_true, Char.reduceEq, decide_false,
      if_false, if_true]
    refine brings_get (brings_next hp hrest fun q q' hq hqrest => ?_)
    refine brings_group hg hq fun added r r' hle hr => ?_
    rw [hqrest] at hle
    exact ih (by omega) hr
  · exact (keeps_fromCharacter fuel hskip hcomment hgroup).brings hp.flags hg

/-- Options that a text brings may as well hold from its beginning: its first item is read under
them in either case, and so is what comes after it. -/
theorem brings_sequence (fuel : Nat) {f g : Flags} {fuel' : Nat}
    (hfuel : 3 * p.rest.length + 1 ≤ fuel') (hp : Alike f (f.union g) p p') :
    Brings g (sequence true fuel f []) (sequence true fuel' (f.union g) []) p p' := by
  induction fuel generalizing f fuel' p p' with
  | zero => exact fun _ _ h => absurd h (fails_refuse _ _ _ _)
  | succ fuel ih =>
    by_cases hg : f.union g = f
    · rw [hg] at hp ⊢
      exact ((retraces _).sequence (.refl f) (fun _ => ⟨rfl, rfl⟩) hfuel hp).brings hp.rest
    obtain ⟨fuel', rfl⟩ := Nat.exists_eq_succ_of_ne_zero (show fuel' ≠ 0 by omega)
    rw [sequence_eq, sequence_eq]
    -- The options come before any item.
    have hitem {m m' : Reader (List Piece)} (hm : Keeps f m) : Brings g m m' p p' :=
      hm.brings hp.flags hg
    apply brings_get
    rw [hp.rest]
    cases hrest : p.rest with
    | nil => exact hitem (keeps_pure _)
    | cons s rest =>
      cases s with
      | dangling => exact hitem (fails_refuse _ _).keeps
      | escaped c =>
        refine hitem (Keeps.bind (Repeats.keeps fun _ => repeats_next) fun _ => Keeps.bind ?_ ?_)
        · exact Repeats.keeps fun _ => repeats_escape f c
        · exact fun piece => keeps_sequence fuel (List.cons_ne_nil _ _)
      | plain c =>
        by_cases hend : c = '|' ∨ c = ')'
        · simp only [List.head?_cons, if_pos hend]
          exact hitem (keeps_pure _)
        · simp only [List.head?_cons, if_neg hend]
          exact brings_fromCharacter hg hp hrest (by omega) ih

/-! ## From the first item on -/

/-- The alternatives after the first one leave the options as they are. -/
theorem flags_of_choice {fuel : Nat} {scope : Flags} {first pieces : List Piece}
    (h : (do
        let inner ← (do if true then return (← get).flags else return scope)
        let others ← moreAlternatives fuel inner
        return piecesOfAlternatives inner.fold first others : Reader (List Piece)).run p
      = .ok (pieces, q)) : q.flags = p.flags := by
  obtain ⟨_, _, -, -, hq, -⟩ :=
    @Retraces.choice fuel _ p.flags p.flags scope scope p p (retraces fuel) true first (.refl _)
      (Nat.le_refl _) (.refl p) pieces q h
  exact hq.flags

theorem brings_alternatives {g scope scope' : Flags} {fuel fuel' : Nat}
    (h : Brings g (sequence true fuel scope []) (sequence true fuel' scope' []) p p')
    (hfuel : 3 * p'.rest.length + 1 ≤ fuel') :
    Brings g (alternatives true (fuel + 1) scope) (alternatives true (fuel' + 1) scope') p p' := by
  unfold alternatives
  refine h.before (fun first q q' hq hle => ?_) fun first q pieces r hr => ?_
  · have hle' : q.rest.length ≤ p'.rest.length := by
      rw [← hq.rest]
      exact hle
    refine (retraces fuel).choice first ?_ (by omega) hq
    exact .refl _
  · exact flags_of_choice hr

/-- The options that an expression begins with still hold at its end. -/
theorem options_hold {fuel : Nat} {f : Flags} {pieces : List Piece} (hp : p.flags = f)
    (h : (alternatives true fuel f).run p = .ok (pieces, q)) : f.union q.flags = q.flags := by
  subst hp
  obtain ⟨_, _, -, -, -, added, -, hq⟩ :=
    (retraces fuel).alternatives (.refl p.flags) (fun _ => ⟨rfl, rfl⟩) (Nat.le_refl _) (.refl p)
      pieces q h
  rw [hq.flags, Flags.union_left_idem]

end Reader
end Regex
end QueryOptions
