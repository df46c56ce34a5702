import QueryOptions.Proofs.ParallelReaders

/-!
# QueryOptions.Proofs.Repeating

A reader that repeats what another one did. Both have the same symbols before them and know the same
groups, but they count characters from different places, and different options may hold for the
whole expression. Whatever step the first one takes, the second one takes it too, with the same
outcome: a position is only ever told in what a reader refuses.

* `Leads`, `Repeats`: a step that is taken if another one is, with rules for how they are put
  together;
* `leads_next`, `leads_accept`, `repeats_takeClass`, `repeats_skipPast`: symbols;
* `repeats_enter`, `repeats_leave`, `repeats_checkBehind`: groups.
-/

namespace QueryOptions
namespace Regex

namespace Flags

theorem union_none (f : Flags) : f.union {} = f := by simp [union]

theorem union_assoc (f g h : Flags) : (f.union g).union h = f.union (g.union h) := by
  simp only [union, Bool.or_assoc]

theorem union_comm (f g : Flags) : f.union g = g.union f := by
  simp only [union, Bool.or_comm]

theorem union_left_idem (f g : Flags) : f.union (f.union g) = f.union g := by
  rw [← union_assoc]
  simp only [union, Bool.or_self]

theorem union_right_comm (f g h : Flags) : (f.union g).union h = (f.union h).union g := by
  rw [union_assoc, union_comm g, ← union_assoc]

end Flags

namespace Reader

variable {α β γ δ : Type} {m : Reader α} {m' : Reader β} {p p' : Progress}

/-! ## Steps that are taken if another one is -/

/-- If the first step is taken, so is the second one, and what comes out of them is so related. -/
def Leads (m : Reader α) (m' : Reader β) (p p' : Progress)
    (post : α → Progress → β → Progress → Prop) : Prop :=
  ∀ a q, m.run p = .ok (a, q) → ∃ a' q', m'.run p' = .ok (a', q') ∧ post a q a' q'

section Leads

variable {post mid : α → Progress → β → Progress → Prop} {f : α → Reader γ} {f' : β → Reader δ}
  {last : γ → Progress → δ → Progress → Prop}

theorem leads_pure {a : α} {a' : β} (h : post a p a' p') :
    Leads (pure a) (pure a') p p' post := by
  rintro _ _ ⟨⟩
  exact ⟨a', p', rfl, h⟩

theorem Leads.bind (hm : Leads m m' p p' mid)
    (hf : ∀ a q a' q', mid a q a' q' → Leads (f a) (f' a') q q' last) :
    Leads (m >>= f) (m' >>= f') p p' last := by
  intro c r h
  obtain ⟨a, q, ha, hr⟩ := run_bind_eq_ok.mp h
  obtain ⟨a', q', ha', hmid⟩ := hm a q ha
  obtain ⟨c', r', hr', hlast⟩ := hf a q a' q' hmid c r hr
  exact ⟨c', r', run_bind_eq_ok.mpr ⟨a', q', ha', hr'⟩, hlast⟩

theorem Leads.mono (h : Leads m m' p p' mid)
    (himp : ∀ a q a' q', mid a q a' q' → post a q a' q') : Leads m m' p p' post := by
  intro a q ha
  obtain ⟨a', q', ha', hmid⟩ := h a q ha
  exact ⟨a', q', ha', himp a q a' q' hmid⟩

theorem Fails.leads (h : Fails m) : Leads m m' p p' post := fun _ _ ha => absurd ha (h p _)

theorem leads_ite {c : Prop} [Decidable c] {m n : Reader α} {m' n' : Reader β}
    (h : c → Leads m m' p p' post) (hn : ¬c → Leads n n' p p' post) :
    Leads (if c then m else n) (if c then m' else n') p p' post := by
  split <;> rename_i hc
  · exact h hc
  · exact hn hc

theorem leads_get {f : Progress → Reader γ} {f' : Progress → Reader δ}
    (h : Leads (f p) (f' p') p p' last) : Leads (get >>= f) (get >>= f') p p' last := h

end Leads

/-! ## Readers that differ in where they are -/

/-- Two readers with the same symbols before them, which know the same groups. They may be at
different places of different texts, under the options that are given for each. -/
structure Alike (base base' : Flags) (p p' : Progress) : Prop where
  rest : p'.rest = p.rest
  groups : p'.groups = p.groups
  names : p'.names = p.names
  behindFrom : p'.behindFrom = p.behindFrom
  asked : p'.asked.map Prod.fst = p.asked.map Prod.fst
  flags : p.flags = base
  flags' : p'.flags = base'

namespace Alike

variable {base base' : Flags}

theorem refl (p : Progress) : Alike p.flags p.flags p p := ⟨rfl, rfl, rfl, rfl, rfl, rfl, rfl⟩

theorem symm (h : Alike base base' p p') : Alike base' base p' p :=
  ⟨h.rest.symm, h.groups.symm, h.names.symm, h.behindFrom.symm, h.asked.symm, h.flags', h.flags⟩

end Alike

/-- Whenever readers are alike and have at most so many symbols before them, the second step is
taken if the first one is. The results are related, the readers are alike again, and there is no
more to read than before. -/
def Repeats (base base' : Flags) (k : Nat) (R : α → β → Prop) (m : Reader α) (m' : Reader β) :
    Prop :=
  ∀ p p', Alike base base' p p' → p.rest.length ≤ k →
    Leads m m' p p' fun a q a' q' =>
      R a a' ∧ Alike base base' q q' ∧ q.rest.length ≤ p.rest.length

section Repeats

variable {base base' : Flags} {k : Nat} {R : γ → δ → Prop} {S : α → β → Prop} {f : α → Reader γ}
  {f' : β → Reader δ} {n : Reader γ} {n' : Reader δ}

theorem repeats_pure {c : γ} {c' : δ} (h : R c c') : Repeats base base' k R (pure c) (pure c') :=
  fun _ _ hp _ => leads_pure ⟨h, hp, Nat.le_refl _⟩

theorem Repeats.bind (hm : Repeats base base' k S m m')
    (hf : ∀ a a', S a a' → Repeats base base' k R (f a) (f' a')) :
    Repeats base base' k R (m >>= f) (m' >>= f') := by
  intro p p' hp hk
  refine (hm p p' hp hk).bind ?_
  rintro a q a' q' ⟨ha, hq, hle⟩
  refine (hf a a' ha q q' hq (Nat.le_trans hle hk)).mono ?_
  rintro c r c' r' ⟨hc, hr, hle'⟩
  exact ⟨hc, hr, Nat.le_trans hle' hle⟩

theorem repeats_get {f : Progress → Reader γ} {f' : Progress → Reader δ}
    (h : ∀ p p', Alike base base' p p' → Repeats base base' k R (f p) (f' p')) :
    Repeats base base' k R (get >>= f) (get >>= f') :=
  fun p p' hp hk => leads_get (h p p' hp p p' hp hk)

theorem Fails.repeats (h : Fails n) : Repeats base base' k R n n' := fun _ _ _ _ => h.leads

theorem repeats_ite {c : Prop} [Decidable c] {a b : Reader γ} {a' b' : Reader δ}
    (h : c → Repeats base base' k R a a') (hn : ¬c → Repeats base base' k R b b') :
    Repeats base base' k R (if c then a else b) (if c then a' else b') :=
  fun p p' hp hk => leads_ite (fun hc => h hc p p' hp hk) fun hc => hn hc p p' hp hk

/-- `Repeats` under a check at which the first reader fails. -/
theorem repeats_unless {c : Prop} [Decidable c] {u : Reader γ} {u' : Reader δ} (hu : Fails u)
    (h : Repeats base base' k R n n') :
    Repeats base base' k R (if c then u else n) (if c then u' else n') :=
  repeats_ite (fun _ => hu.repeats) fun _ => h

/-- A reader that repeats itself leaves the options as they are. -/
theorem Repeats.flags {m : Reader α} {R : α → α → Prop}
    (h : Repeats p.flags p.flags p.rest.length R m m) {a : α} {q : Progress}
    (ha : m.run p = .ok (a, q)) : q.flags = p.flags := by
  obtain ⟨_, _, -, -, hq, -⟩ := h p p (.refl p) (Nat.le_refl _) a q ha
  exact hq.flags

end Repeats

/-! ## More options than before -/

/-- Both readers have come to the same place with the same result. More options may hold for the
whole expression than before, but the same ones on both sides, and none if the result is such that
they are `kept`. -/
def Ends (base base' : Flags) (kept : α → Prop) (p : Progress) (a : α) (q : Progress) (a' : α)
    (q' : Progress) : Prop :=
  a = a' ∧ q.rest.length ≤ p.rest.length ∧
    ∃ added : Flags, (kept a → added = {}) ∧ Alike (base.union added) (base'.union added) q q'

section Ends

variable {base base' : Flags} {kept : α → Prop} {a a' : α} {q q' : Progress}

theorem ends_of_alike (hq : Alike base base' q q') (hle : q.rest.length ≤ p.rest.length) :
    Ends base base' kept p a q a q' := by
  refine ⟨rfl, hle, {}, fun _ => rfl, ?_⟩
  rw [Flags.union_none, Flags.union_none]
  exact hq

theorem Ends.alike (h : Ends base base' kept p a q a' q') (hkept : kept a) :
    a = a' ∧ Alike base base' q q' ∧ q.rest.length ≤ p.rest.length := by
  obtain ⟨rfl, hle, added, hadded, hq⟩ := h
  obtain rfl := hadded hkept
  rw [Flags.union_none, Flags.union_none] at hq
  exact ⟨rfl, hq, hle⟩

theorem Ends.mono {kept' : α → Prop} {o : Progress} (h : Ends base base' kept p a q a' q')
    (hle : p.rest.length ≤ o.rest.length) (hkept : kept' a → kept a) :
    Ends base base' kept' o a q a' q' := by
  obtain ⟨ha, hle', added, hadded, hq⟩ := h
  exact ⟨ha, Nat.le_trans hle' hle, added, fun h => hadded (hkept h), hq⟩

/-- `Ends` over two stretches: the options that the first one adds join those that the second one
adds. -/
theorem Ends.after {kept' : α → Prop} {o : Progress} {added : Flags}
    (h : Ends (base.union added) (base'.union added) kept p a q a' q')
    (hle : p.rest.length ≤ o.rest.length) (hkept : kept' a → kept a ∧ added = {}) :
    Ends base base' kept' o a q a' q' := by
  obtain ⟨ha, hle', more, hmore, hq⟩ := h
  rw [Flags.union_assoc, Flags.union_assoc] at hq
  refine ⟨ha, Nat.le_trans hle' hle, added.union more, fun h => ?_, hq⟩
  obtain ⟨hfirst, rfl⟩ := hkept h
  rw [hmore hfirst, Flags.union_none]

theorem Repeats.ends {k : Nat} {m m' : Reader α} (h : Repeats base base' k Eq m m')
    (hq : Alike base base' q q') (hk : q.rest.length ≤ k) (hle : q.rest.length ≤ p.rest.length) :
    Leads m m' q q' (Ends base base' kept p) := by
  refine (h q q' hq hk).mono ?_
  rintro a r _ r' ⟨rfl, hr, hle'⟩
  exact ends_of_alike hr (Nat.le_trans hle' hle)

end Ends

/-! ## Symbols -/

section Symbols

variable {base base' : Flags} {k : Nat}

theorem leads_checkDangling (h : Alike base base' p p') :
    Leads checkDangling checkDangling p p' fun _ q _ q' => q = p ∧ q' = p' := by
  unfold checkDangling
  apply leads_get
  rw [h.rest]
  split
  · exact (fails_refuse _ _).leads
  · exact leads_pure ⟨rfl, rfl⟩

/-- `Leads` for `next`: both read the same symbol, or both are at the end. -/
theorem leads_next (h : Alike base base' p p') :
    Leads next next p p' fun a q a' q' =>
      a = a' ∧ Alike base base' q q' ∧
        ((a = none ∧ q.rest = [] ∧ p.rest = []) ∨ ∃ s, a = some s ∧ p.rest = s :: q.rest) := by
  unfold next
  apply leads_get
  rw [h.rest]
  cases hrest : p.rest with
  | nil => exact leads_pure ⟨rfl, h, .inl ⟨rfl, hrest, rfl⟩⟩
  | cons s rest =>
    let q : Progress := { p with rest, position := p.position + s.size }
    let q' : Progress := { p' with rest, position := p'.position + s.size }
    have hmoved : Alike base base' q q' :=
      ⟨rfl, h.groups, h.names, h.behindFrom, h.asked, h.flags, h.flags'⟩
    have hset : Leads (set q) (set q') p p' fun _ r _ r' => r = q ∧ r' = q' := by
      rintro _ _ ⟨⟩
      exact ⟨_, _, rfl, rfl, rfl⟩
    refine hset.bind ?_
    rintro _ _ _ _ ⟨rfl, rfl⟩
    refine (leads_checkDangling hmoved).bind ?_
    rintro _ _ _ _ ⟨rfl, rfl⟩
    exact leads_pure ⟨rfl, hmoved, .inr ⟨s, rfl, rfl⟩⟩

/-- `Leads` for `next`, where a symbol is there. -/
theorem leads_next_cons {f : Option Symbol → Reader α} {f' : Option Symbol → Reader β} {s : Symbol}
    {rest : List Symbol} {post : α → Progress → β → Progress → Prop} (hp : Alike base base' p p')
    (hrest : p.rest = s :: rest)
    (h : ∀ q q', Alike base base' q q' → q.rest = rest →
      Leads (f (some s)) (f' (some s)) q q' post) :
    Leads (next >>= f) (next >>= f') p p' post := by
  refine (leads_next hp).bind ?_
  rintro a q _ q' ⟨rfl, hq, ⟨-, -, hnil⟩ | ⟨t, rfl, ht⟩⟩
  · cases hnil.symm.trans hrest
  · obtain ⟨rfl, hqrest⟩ := List.cons.inj (ht.symm.trans hrest)
    exact h q q' hq hqrest

theorem repeats_next : Repeats base base' k Eq next next := by
  intro p p' hp _
  refine (leads_next hp).mono ?_
  rintro a q a' q' ⟨rfl, hq, ⟨-, hnil, -⟩ | ⟨s, -, hrest⟩⟩
  · exact ⟨rfl, hq, hnil ▸ Nat.zero_le _⟩
  · exact ⟨rfl, hq, hrest ▸ Nat.le_succ _⟩

/-- A character is accepted by both or by neither. -/
theorem leads_accept (c : Char) (h : Alike base base' p p') :
    Leads (accept c) (accept c) p p' fun a q a' q' =>
      a = a' ∧ Alike base base' q q' ∧
        if a then q.rest.length < p.rest.length else q.rest.length = p.rest.length := by
  unfold accept
  apply leads_get
  rw [h.rest]
  have hstays : Leads (pure false) (pure false) p p' fun a q a' q' =>
      a = a' ∧ Alike base base' q q' ∧
        if a then q.rest.length < p.rest.length else q.rest.length = p.rest.length :=
    leads_pure ⟨rfl, h, rfl⟩
  split
  · rename_i d rest hrest
    refine leads_ite (fun _ => (leads_next h).bind ?_) fun _ => hstays
    rintro a q a' q' ⟨-, hq, ⟨-, -, hnil⟩ | ⟨s, -, hs⟩⟩
    · rw [hnil] at hrest
      cases hrest
    · exact leads_pure ⟨rfl, hq, hs ▸ Nat.lt_succ_self _⟩
  · exact hstays

theorem repeats_accept (c : Char) : Repeats base base' k Eq (accept c) (accept c) := by
  intro p p' hp _
  refine (leads_accept c hp).mono ?_
  rintro a q a' q' ⟨ha, hq, hle⟩
  refine ⟨ha, hq, ?_⟩
  cases a with
  | false => exact Nat.le_of_eq hle
  | true => exact Nat.le_of_lt hle

theorem repeats_takeClass (inClass : Char → Bool) (n : Nat) :
    Repeats base base' k Eq (takeClass inClass n) (takeClass inClass n) := by
  induction n with
  | zero => exact repeats_pure rfl
  | succ n ih =>
    refine repeats_get fun p p' hp => ?_
    rw [hp.rest]
    split
    · refine repeats_ite (fun _ => repeats_next.bind fun _ _ _ => ?_) fun _ => repeats_pure rfl
      refine ih.bind ?_
      rintro more _ rfl
      exact repeats_pure rfl
    · exact repeats_pure rfl

theorem repeats_takeUntil (terminator : Char) (what : String) (fuel : Nat) (taken : List Char) :
    Repeats base base' k Eq (takeUntil terminator what fuel taken)
      (takeUntil terminator what fuel taken) := by
  induction fuel generalizing taken with
  | zero => exact (fails_refuse _ _).repeats
  | succ fuel ih =>
    refine repeats_next.bind ?_
    rintro s _ rfl
    cases s with
    | none => exact repeats_ite (fun _ => (fails_refuse _ _).repeats) fun _ =>
        (fails_refuse _ _).repeats
    | some s =>
      refine repeats_ite (fun _ => ?_) fun _ => ih _
      exact repeats_unless (fails_refuse _ _) (repeats_pure rfl)

theorem repeats_nameUntil (terminator : Char) (what : String) :
    Repeats base base' k Eq (nameUntil terminator what) (nameUntil terminator what) := by
  refine repeats_get fun p p' hp => ?_
  rw [hp.rest]
  exact repeats_takeUntil terminator what _ []

theorem repeats_skipPast (stop : Char) (fuel : Nat) :
    Repeats base base' k Eq (skipPast stop fuel) (skipPast stop fuel) := by
  induction fuel with
  | zero => exact repeats_pure rfl
  | succ fuel ih =>
    refine repeats_next.bind ?_
    rintro s _ rfl
    cases s with
    | none => exact repeats_pure rfl
    | some s => exact repeats_ite (fun _ => repeats_pure rfl) fun _ => ih

end Symbols

/-! ## Groups -/

section Groups

variable {base base' : Flags} {k : Nat}

theorem repeats_isClosed (index : Nat) :
    Repeats base base' k Eq (isClosed index) (isClosed index) := by
  refine repeats_get fun p p' hp => ?_
  rw [hp.groups]
  exact repeats_pure rfl

theorem repeats_groupCount : Repeats base base' k Eq groupCount groupCount := by
  refine repeats_get fun p p' hp => ?_
  rw [hp.groups]
  exact repeats_pure rfl

theorem repeats_enter (name : Option (List Char)) :
    Repeats base base' k Eq (enter name) (enter name) := by
  intro p p' hp _
  apply leads_get
  cases name with
  | none =>
    rintro _ _ ⟨⟩
    refine ⟨_, _, rfl, by rw [hp.groups], ?_, Nat.le_refl _⟩
    exact ⟨hp.rest, by rw [hp.groups], hp.names, hp.behindFrom, hp.asked, hp.flags, hp.flags'⟩
  | some cs =>
    dsimp only
    rw [hp.names]
    split
    · exact (fails_refuse _ _).leads
    · rintro _ _ ⟨⟩
      refine ⟨_, _, rfl, by rw [hp.groups], ?_, Nat.le_refl _⟩
      exact ⟨hp.rest, by rw [hp.groups], by rw [hp.groups], hp.behindFrom, hp.asked, hp.flags,
        hp.flags'⟩

theorem widths_of_alike (h : Alike base base' p p') : widths p' = widths p := by
  funext index
  unfold widths
  rw [h.groups]

theorem repeats_leave (index : Nat) (body : Node) :
    Repeats base base' k Eq (leave index body) (leave index body) := by
  rintro p p' hp - _ _ ⟨⟩
  have hgroups : p'.groups.set (index - 1) (some (body.width (widths p')))
      = p.groups.set (index - 1) (some (body.width (widths p))) := by
    rw [hp.groups, widths_of_alike hp]
  exact ⟨_, _, rfl, rfl, ⟨hp.rest, hgroups, hp.names, hp.behindFrom, hp.asked, hp.flags, hp.flags'⟩,
    Nat.le_refl _⟩

theorem repeats_checkBehind (index : Nat) :
    Repeats base base' k Eq (checkBehind index) (checkBehind index) := by
  refine repeats_get fun p p' hp => ?_
  rw [hp.behindFrom]
  split
  · exact repeats_pure rfl
  · refine (repeats_isClosed index).bind ?_
    rintro closed _ rfl
    refine repeats_unless ((fails_refuse _ _).bind _) ?_
    exact repeats_unless (fails_refuse _ _) (repeats_pure rfl)

/-- Both note where a look-behind began, or that it has ended. -/
theorem repeats_setBehind {first : Progress → Option Nat}
    (h : ∀ p p', Alike base base' p p' → first p' = first p) :
    Repeats base base' k Eq (modify fun p => { p with behindFrom := first p })
      (modify fun p => { p with behindFrom := first p }) := by
  rintro p p' hp - _ _ ⟨⟩
  exact ⟨_, _, rfl, rfl, ⟨hp.rest, hp.groups, hp.names, h p p' hp, hp.asked, hp.flags, hp.flags'⟩,
    Nat.le_refl _⟩

end Groups

end Reader
end Regex
end QueryOptions
