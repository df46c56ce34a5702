import QueryOptions.Regex.Parser

/-!
# QueryOptions.Proofs.ParallelReaders

Two readers side by side. One reads a text to its end; the other reads the same text inside of a
group, so that a closing parenthesis follows where the first one ends. As long as both move on, they
read the same symbols, and what they make of them is related (`Agree`). What one of them refuses
does not matter.

The second reader counts one group more than the first one, and other names and positions; whether a
group is asked about rightly may therefore differ between the two, but not what is read.

* `InStep`, `Agree`: steps of the two readers, with rules for how they are put together;
* `continues_symbolsOf`: how the symbols of a text go on when it is put into a group;
* `inStep_next`, `inStep_accept`, `inStep_takeClass`, `inStep_skipPast`: reading symbols.
-/

namespace QueryOptions
namespace Regex
namespace Reader

variable {α β γ δ : Type} {m : Reader α} {m' : Reader β} {p p' : Progress}

/-! ## Refusals -/

/-- A step that is never taken. -/
def Fails (m : Reader α) : Prop := ∀ p r, m.run p ≠ .ok r

theorem run_bind_eq_ok {f : α → Reader γ} {r : γ × Progress} :
    (m >>= f).run p = .ok r ↔ ∃ a q, m.run p = .ok (a, q) ∧ (f a).run q = .ok r := by
  rw [StateT.run_bind]
  cases h : m.run p with
  | error e => simp [bind, Except.bind]
  | ok x =>
    obtain ⟨a, q⟩ := x
    simp only [bind, Except.bind, Except.ok.injEq, Prod.mk.injEq]
    exact ⟨fun hr => ⟨a, q, ⟨rfl, rfl⟩, hr⟩, fun ⟨_, _, ⟨ha, hq⟩, hr⟩ => ha ▸ hq ▸ hr⟩

theorem fails_refuse (reason : Reason) (offset : Nat) :
    Fails (refuse reason offset : Reader α) := by
  intro p r h
  have herror : (refuse reason offset : Reader α).run p
      = .error (.fault ⟨reason, some (p.position - offset)⟩) := rfl
  rw [herror] at h
  cases h

theorem fails_refuseAt (reason : Reason) (position : Nat) :
    Fails (refuseAt reason position : Reader α) := by
  intro p r h
  have herror : (refuseAt reason position : Reader α).run p
      = .error (.fault ⟨reason, some position⟩) := rfl
  rw [herror] at h
  cases h

theorem fails_throw (e : Problem) : Fails (throw e : Reader α) := by
  intro p r h
  have herror : (throw e : Reader α).run p = .error e := rfl
  rw [herror] at h
  cases h

theorem Fails.bind (h : Fails m) (f : α → Reader γ) : Fails (m >>= f) := by
  intro p r hr
  obtain ⟨a, q, hm, -⟩ := run_bind_eq_ok.mp hr
  exact h p _ hm

/-! ## Steps that read nothing -/

/-- A step that reads no symbols, opens no groups and leaves the options as they are. -/
def Stays (m : Reader α) : Prop :=
  ∀ p a q, m.run p = .ok (a, q) →
    q.rest = p.rest ∧ q.groups.length = p.groups.length ∧ q.flags = p.flags

theorem stays_pure (a : α) : Stays (pure a) := by
  rintro p _ _ ⟨⟩
  exact ⟨rfl, rfl, rfl⟩

theorem Fails.stays (h : Fails m) : Stays m := fun p _ _ hm => absurd hm (h p _)

theorem Stays.bind {f : α → Reader γ} (hm : Stays m) (hf : ∀ a, Stays (f a)) :
    Stays (m >>= f) := by
  intro p c r hr
  obtain ⟨a, q, ha, hr⟩ := run_bind_eq_ok.mp hr
  obtain ⟨hrest, hgroups, hflags⟩ := hm p a q ha
  obtain ⟨hrest', hgroups', hflags'⟩ := hf a q c r hr
  exact ⟨hrest'.trans hrest, hgroups'.trans hgroups, hflags'.trans hflags⟩

theorem stays_get {f : Progress → Reader γ} (h : ∀ p, Stays (f p)) : Stays (get >>= f) :=
  fun p => h p p

theorem stays_ite {c : Prop} [Decidable c] {n : Reader α} (hm : Stays m) (hn : Stays n) :
    Stays (if c then m else n) := by
  split
  · exact hm
  · exact hn

/-! ## Steps that go back nowhere -/

/-- A step after which there are no more symbols to read than before it. -/
def Advances (m : Reader α) : Prop :=
  ∀ p a q, m.run p = .ok (a, q) → q.rest.length ≤ p.rest.length

theorem advances_pure (a : α) : Advances (pure a) := by
  rintro p _ _ ⟨⟩
  exact Nat.le_refl _

theorem Advances.bind {f : α → Reader γ} (hm : Advances m) (hf : ∀ a, Advances (f a)) :
    Advances (m >>= f) := by
  intro p c r hr
  obtain ⟨a, q, ha, hc⟩ := run_bind_eq_ok.mp hr
  exact Nat.le_trans (hf a q c r hc) (hm p a q ha)

/-! ## Two steps -/

/-- If both steps are taken, what comes out of them is so related. -/
def InStep (m : Reader α) (m' : Reader β) (p p' : Progress)
    (post : α → Progress → β → Progress → Prop) : Prop :=
  ∀ a q a' q', m.run p = .ok (a, q) → m'.run p' = .ok (a', q') → post a q a' q'

section InStep

variable {post mid : α → Progress → β → Progress → Prop} {f : α → Reader γ} {f' : β → Reader δ}
  {last : γ → Progress → δ → Progress → Prop}

theorem inStep_pure {a : α} {a' : β} (h : post a p a' p') :
    InStep (pure a) (pure a') p p' post := by
  rintro _ _ _ _ ⟨⟩ ⟨⟩
  exact h

theorem InStep.bind (hm : InStep m m' p p' mid)
    (hf : ∀ a q a' q', mid a q a' q' → InStep (f a) (f' a') q q' last) :
    InStep (m >>= f) (m' >>= f') p p' last := by
  intro c r c' r' h h'
  obtain ⟨a, q, ha, hr⟩ := run_bind_eq_ok.mp h
  obtain ⟨a', q', ha', hr'⟩ := run_bind_eq_ok.mp h'
  exact hf a q a' q' (hm a q a' q' ha ha') c r c' r' hr hr'

theorem InStep.mono (h : InStep m m' p p' mid)
    (himp : ∀ a q a' q', mid a q a' q' → post a q a' q') : InStep m m' p p' post :=
  fun a q a' q' ha ha' => himp a q a' q' (h a q a' q' ha ha')

theorem InStep.advance (h : InStep m m' p p' post) (hm : Advances m) (hm' : Advances m') :
    InStep m m' p p' fun a q a' q' =>
      post a q a' q' ∧ q.rest.length ≤ p.rest.length ∧ q'.rest.length ≤ p'.rest.length :=
  fun a q a' q' ha ha' => ⟨h a q a' q' ha ha', hm p a q ha, hm' p' a' q' ha'⟩

theorem Fails.inStep (h : Fails m) : InStep m m' p p' post :=
  fun _ _ _ _ ha => absurd ha (h p _)

theorem Fails.inStep_right (h : Fails m') : InStep m m' p p' post :=
  fun _ _ _ _ _ ha => absurd ha (h p' _)

theorem inStep_ite {c : Prop} [Decidable c] {m n : Reader α} {m' n' : Reader β}
    (h : c → InStep m m' p p' post) (hn : ¬c → InStep n n' p p' post) :
    InStep (if c then m else n) (if c then m' else n') p p' post := by
  split <;> rename_i hc
  · exact h hc
  · exact hn hc

theorem inStep_get {f : Progress → Reader γ} {f' : Progress → Reader δ}
    (h : InStep (f p) (f' p') p p' last) : InStep (get >>= f) (get >>= f') p p' last := h

end InStep

/-! ## Side by side -/

/-- The second symbols are the first ones, and then a closing parenthesis and more. The first ones
may end with a lone backslash; it then escapes the parenthesis. -/
inductive Continues (more : List Symbol) : List Symbol → List Symbol → Prop where
  | close : Continues more [] (.plain ')' :: more)
  | dangling (s : Symbol) : Continues more [s, .dangling] (s :: .escaped ')' :: more)
  | cons (s : Symbol) {rest rest' : List Symbol} (h : Continues more rest rest') :
      Continues more (s :: rest) (s :: rest')

theorem Continues.head_ne_dangling {more rest rest' : List Symbol} (h : Continues more rest rest')
    (hd : rest.head? ≠ some .dangling) : rest'.head? ≠ some .dangling := by
  cases h with
  | close => nofun
  | dangling s => exact hd
  | cons s _ => exact hd

theorem Continues.length_le {more rest rest' : List Symbol} (h : Continues more rest rest') :
    rest.length ≤ rest'.length := by
  induction h with
  | close => exact Nat.zero_le _
  | dangling s => exact Nat.succ_le_succ (Nat.succ_le_succ (Nat.zero_le _))
  | cons s _ ih => exact Nat.succ_le_succ ih

theorem symbolsOf_plain {c : Char} (h : c ≠ Text.backslash) (rest : List Char) :
    symbolsOf (c :: rest) = .plain c :: symbolsOf rest := by
  cases rest <;> simp [symbolsOf, h]

theorem symbolsOf_escaped (c : Char) (rest : List Char) :
    symbolsOf (Text.backslash :: c :: rest) = .escaped c :: symbolsOf rest := by
  simp [symbolsOf]

/-- A text that is put into a group goes on with the closing parenthesis, unless it is a backslash
alone. -/
theorem continues_symbolsOf (text after : List Char) :
    (symbolsOf text = [.dangling] ∧
      symbolsOf (text ++ ')' :: after) = .escaped ')' :: symbolsOf after) ∨
      Continues (symbolsOf after) (symbolsOf text) (symbolsOf (text ++ ')' :: after)) := by
  have hclose : ')' ≠ Text.backslash := by decide
  fun_induction symbolsOf text with
  | case1 =>
    rw [List.nil_append, symbolsOf_plain hclose]
    exact .inr .close
  | case2 => exact .inl ⟨rfl, symbolsOf_escaped ')' after⟩
  | case3 c hc =>
    rw [List.singleton_append, symbolsOf_plain hc, symbolsOf_plain hclose]
    exact .inr (.cons _ .close)
  | case4 d rest ih =>
    rw [List.cons_append, List.cons_append, symbolsOf_escaped]
    rcases ih with ⟨hrest, hafter⟩ | ih
    · rw [hrest, hafter]
      exact .inr (.dangling _)
    · exact .inr (.cons _ ih)
  | case5 c d rest hc ih =>
    rw [List.cons_append, symbolsOf_plain hc]
    rcases ih with ⟨hrest, hafter⟩ | ih
    · rw [hrest, hafter]
      exact .inr (.dangling _)
    · exact .inr (.cons _ ih)

/-- One reader is as far as another one whose text goes on where its own one ends, and which has
opened one group more. -/
structure Abreast (more : List Symbol) (base : Flags) (p p' : Progress) : Prop where
  rest : Continues more p.rest p'.rest
  groups : p'.groups.length = p.groups.length + 1
  flags : p.flags = base

namespace Abreast

variable {more : List Symbol} {base : Flags}

/-- `Abreast` readers have the same symbol before them, or the first one is at its end and the
second one before the closing parenthesis. -/
theorem head (h : Abreast more base p p') :
    (p.rest = [] ∧ p'.rest = .plain ')' :: more) ∨
      ∃ s rest rest', p.rest = s :: rest ∧ p'.rest = s :: rest' := by
  have hrest := h.rest
  generalize p.rest = symbols at hrest ⊢
  generalize p'.rest = symbols' at hrest ⊢
  cases hrest with
  | close => exact .inl ⟨rfl, rfl⟩
  | dangling s => exact .inr ⟨s, _, _, rfl, rfl⟩
  | cons s h => exact .inr ⟨s, _, _, rfl, rfl⟩

/-- Where the first one is at its end, the parenthesis comes next. -/
theorem rest_of_nil (h : Abreast more base p p') (hnil : p.rest = []) :
    p'.rest = .plain ')' :: more := by
  rcases h.head with ⟨-, hclose⟩ | ⟨s, rest, -, hrest, -⟩
  · exact hclose
  · rw [hnil] at hrest
    cases hrest

end Abreast

/-- Whenever the readers are side by side and both steps are taken, the results are related and the
readers are side by side again. -/
def Agree (more : List Symbol) (base : Flags) (R : α → β → Prop) (m : Reader α) (m' : Reader β) :
    Prop :=
  ∀ p p', Abreast more base p p' →
    InStep m m' p p' fun a q a' q' => R a a' ∧ Abreast more base q q'

section Agree

variable {more : List Symbol} {base : Flags} {R : γ → δ → Prop} {S : α → β → Prop}
  {f : α → Reader γ} {f' : β → Reader δ} {n : Reader γ} {n' : Reader δ}

theorem agree_pure {c : γ} {c' : δ} (h : R c c') : Agree more base R (pure c) (pure c') :=
  fun _ _ hp => inStep_pure ⟨h, hp⟩

theorem Agree.bind (hm : Agree more base S m m')
    (hf : ∀ a a', S a a' → Agree more base R (f a) (f' a')) :
    Agree more base R (m >>= f) (m' >>= f') :=
  fun p p' hp => (hm p p' hp).bind fun a q a' q' ha => hf a a' ha.1 q q' ha.2

theorem agree_get {f : Progress → Reader γ} {f' : Progress → Reader δ}
    (h : ∀ p p', Agree more base R (f p) (f' p')) : Agree more base R (get >>= f) (get >>= f') :=
  fun p p' hp => inStep_get (h p p' p p' hp)

theorem Fails.agree (h : Fails n) : Agree more base R n n' := fun _ _ _ => h.inStep

theorem Fails.agree_right (h : Fails n') : Agree more base R n n' := fun _ _ _ => h.inStep_right

theorem Stays.agree (h : Stays m) (h' : Stays m') :
    Agree more base (fun _ _ => True) m m' := by
  intro p p' hp a q a' q' ha ha'
  obtain ⟨hrest, hgroups, hflags⟩ := h p a q ha
  obtain ⟨hrest', hgroups', -⟩ := h' p' a' q' ha'
  refine ⟨trivial, ?_, ?_, hflags.trans hp.flags⟩
  · rw [hrest, hrest']
    exact hp.rest
  · rw [hgroups, hgroups']
    exact hp.groups

theorem agree_ite {c : Prop} [Decidable c] {a b : Reader γ} {a' b' : Reader δ}
    (h : c → Agree more base R a a') (hn : ¬c → Agree more base R b b') :
    Agree more base R (if c then a else b) (if c then a' else b') :=
  fun p p' hp => inStep_ite (fun hc => h hc p p' hp) fun hc => hn hc p p' hp

/-- Where both check something first, only what comes after the checks matters. -/
theorem agree_unless {c c' : Prop} [Decidable c] [Decidable c'] {u : Reader γ} {u' : Reader δ}
    (hu : Fails u) (hu' : Fails u') (h : Agree more base R n n') :
    Agree more base R (if c then u else n) (if c' then u' else n') := by
  split
  · exact hu.agree
  · split
    · exact hu'.agree_right
    · exact h

end Agree

/-! ## Symbols -/

theorem next_run_nil (h : p.rest = []) : next.run p = .ok (none, p) := by
  unfold next
  simp only [StateT.run_bind, StateT.run_get, pure_bind, h]
  rfl

theorem next_run_eq {s : Symbol} {rest : List Symbol} (h : p.rest = s :: rest)
    (hd : rest.head? ≠ some .dangling) :
    next.run p = .ok (some s, { p with rest, position := p.position + s.size }) := by
  unfold next checkDangling
  simp only [StateT.run_bind, StateT.run_get, pure_bind, h, StateT.run_set]
  cases rest with
  | nil => rfl
  | cons t rest =>
    cases t with
    | dangling => exact absurd rfl hd
    | _ => rfl

/-- After a symbol that was read there is no backslash at the very end. -/
theorem head_of_next {s : Symbol} {rest : List Symbol} {r : Option Symbol × Progress}
    (h : p.rest = s :: rest) (hr : next.run p = .ok r) : rest.head? ≠ some .dangling := by
  unfold next checkDangling at hr
  simp only [StateT.run_bind, StateT.run_get, pure_bind, h, StateT.run_set] at hr
  intro hd
  obtain ⟨tail, rfl⟩ := List.head?_eq_some_iff.mp hd
  cases hr

theorem next_run_cons {s : Symbol} {rest : List Symbol} {r : Option Symbol × Progress}
    (h : p.rest = s :: rest) (hr : next.run p = .ok r) :
    rest ≠ [.dangling] ∧ r = (some s, { p with rest, position := p.position + s.size }) := by
  have hd := head_of_next h hr
  rw [next_run_eq h hd] at hr
  exact ⟨fun hrest => hd (hrest ▸ rfl), (Except.ok.inj hr).symm⟩

theorem advances_next : Advances next := by
  intro p a q h
  cases hrest : p.rest with
  | nil =>
    rw [next_run_nil hrest] at h
    cases h
    exact hrest ▸ Nat.le_refl _
  | cons s rest =>
    obtain ⟨-, ⟨⟩⟩ := next_run_cons hrest h
    exact Nat.le_succ _

theorem advances_accept (c : Char) : Advances (accept c) := by
  intro p a q h
  unfold accept at h
  simp only [StateT.run_bind, StateT.run_get, pure_bind] at h
  split at h
  · split at h
    · exact advances_next.bind (fun _ => advances_pure true) p a q h
    · exact advances_pure false p a q h
  · exact advances_pure false p a q h

theorem advances_takeClass (inClass : Char → Bool) (n : Nat) : Advances (takeClass inClass n) := by
  induction n with
  | zero => exact advances_pure []
  | succ n ih =>
    intro p a q h
    simp only [takeClass, StateT.run_bind, StateT.run_get, pure_bind] at h
    split at h
    · split at h
      · exact advances_next.bind (fun _ => ih.bind fun _ => advances_pure _) p a q h
      · exact advances_pure [] p a q h
    · exact advances_pure [] p a q h

section Symbols

variable {more : List Symbol} {base : Flags}

/-- `InStep` for `next`: both read the same symbol, or the first one is at its end. -/
theorem inStep_next (h : Abreast more base p p') :
    InStep next next p p' fun a q a' q' =>
      (a = none ∧ q = p ∧ p.rest = []) ∨
        ∃ s, a = some s ∧ a' = some s ∧ p.rest = s :: q.rest ∧ p'.rest = s :: q'.rest ∧
          Abreast more base q q' := by
  intro a q a' q' hq hq'
  obtain ⟨hcontinues, hgroups, hflags⟩ := h
  generalize hrest : p.rest = symbols at hcontinues
  generalize hrest' : p'.rest = symbols' at hcontinues
  cases hcontinues with
  | close =>
    rw [next_run_nil hrest] at hq
    cases hq
    exact .inl ⟨rfl, rfl, rfl⟩
  | dangling s => exact absurd rfl (next_run_cons hrest hq).1
  | cons s h =>
    obtain ⟨-, ⟨⟩⟩ := next_run_cons hrest hq
    obtain ⟨-, ⟨⟩⟩ := next_run_cons hrest' hq'
    exact .inr ⟨s, rfl, rfl, rfl, rfl, h, hgroups, hflags⟩

variable {R : γ → δ → Prop} {f : Option Symbol → Reader γ} {f' : Option Symbol → Reader δ}

/-- `InStep` for `next`, where a symbol is there. -/
theorem inStep_next_cons {post : γ → Progress → δ → Progress → Prop} {s : Symbol}
    {rest : List Symbol} (hp : Abreast more base p p') (hrest : p.rest = s :: rest)
    (h : ∀ q q', p.rest = s :: q.rest → p'.rest = s :: q'.rest → Abreast more base q q' →
      InStep (f (some s)) (f' (some s)) q q' post) :
    InStep (next >>= f) (next >>= f') p p' post := by
  refine (inStep_next hp).bind ?_
  rintro a q a' q' (⟨-, -, hnil⟩ | ⟨t, rfl, rfl, hq, hq', habreast⟩)
  · cases hnil.symm.trans hrest
  · obtain ⟨rfl, -⟩ := List.cons.inj (hq.symm.trans hrest)
    exact h q q' hq hq' habreast

/-- `Agree` for `next`, where the end of the text is refused. -/
theorem agree_next (hnone : Fails (f none))
    (hsome : ∀ s, Agree more base R (f (some s)) (f' (some s))) :
    Agree more base R (next >>= f) (next >>= f') := by
  intro p p' hp
  refine (inStep_next hp).bind ?_
  rintro a q a' q' (⟨rfl, -, -⟩ | ⟨s, rfl, rfl, -, -, hq⟩)
  · exact hnone.inStep
  · exact hsome s q q' hq

theorem accept_run_plain {c : Char} {rest : List Symbol} (h : p.rest = .plain c :: rest) :
    (accept c).run p = (next >>= fun _ => pure true).run p := by
  unfold accept
  simp only [StateT.run_bind, StateT.run_get, pure_bind, h, if_true]

theorem accept_run_other {c : Char} (h : ∀ rest, p.rest ≠ .plain c :: rest) :
    (accept c).run p = .ok (false, p) := by
  unfold accept
  simp only [StateT.run_bind, StateT.run_get, pure_bind]
  split
  · rename_i d rest hrest
    have hne : c ≠ d := fun hcd => h rest (hcd ▸ hrest)
    rw [if_neg hne]
    rfl
  · rfl

theorem accept_run_nil (c : Char) (h : p.rest = []) : (accept c).run p = .ok (false, p) :=
  accept_run_other fun _ hrest => nomatch h.symm.trans hrest

/-- A character is accepted by both or by neither, except the parenthesis where the first reader is
at its end. -/
theorem inStep_accept {c : Char} (hc : c ≠ ')' ∨ p.rest ≠ []) (hp : Abreast more base p p') :
    InStep (accept c) (accept c) p p' fun a q a' q' => a = a' ∧ Abreast more base q q' := by
  unfold accept
  apply inStep_get
  rcases hp.head with ⟨hnil, hclose⟩ | ⟨s, rest, rest', hrest, hrest'⟩
  · have hother : c ≠ ')' := hc.elim id fun hne => absurd hnil hne
    rw [hnil, hclose]
    simp only [hother, if_false]
    exact inStep_pure ⟨rfl, hp⟩
  · rw [hrest, hrest']
    cases s with
    | plain d =>
      dsimp only
      split
      · exact inStep_next_cons hp hrest fun q q' _ _ hq => inStep_pure ⟨rfl, hq⟩
      · exact inStep_pure ⟨rfl, hp⟩
    | escaped d => exact inStep_pure ⟨rfl, hp⟩
    | dangling => exact inStep_pure ⟨rfl, hp⟩

theorem agree_accept {c : Char} (hc : c ≠ ')') :
    Agree more base Eq (accept c) (accept c) := fun _ _ hp => inStep_accept (.inl hc) hp

theorem takeClass_run_stop {inClass : Char → Bool} (n : Nat)
    (h : ∀ c rest, p.rest = .plain c :: rest → inClass c = false) :
    (takeClass inClass n).run p = .ok ([], p) := by
  cases n with
  | zero => rfl
  | succ n =>
    simp only [takeClass, StateT.run_bind, StateT.run_get, pure_bind]
    split
    · rename_i c rest hrest
      rw [h c rest hrest]
      rfl
    · rfl

/-- Both read as many characters of a class, if they may read equally many or as many as they
like. -/
theorem inStep_takeClass {inClass : Char → Bool} (hclose : inClass ')' = false) {n n' : Nat}
    (hn : n' = n ∨ (p.rest.length ≤ n ∧ p'.rest.length ≤ n')) (h : Abreast more base p p') :
    InStep (takeClass inClass n) (takeClass inClass n') p p' fun a q a' q' =>
      a = a' ∧ Abreast more base q q' := by
  induction n generalizing n' p p' with
  | zero =>
    have hstop : (takeClass inClass n').run p' = .ok ([], p') := by
      rcases hn with rfl | ⟨hlength, -⟩
      · rfl
      · refine takeClass_run_stop n' fun c rest hrest => ?_
        rcases h.head with ⟨-, hclosing⟩ | ⟨s, _, _, hs, -⟩
        · rw [hclosing] at hrest
          cases hrest
          exact hclose
        · simp [hs] at hlength
    intro a q a' q' hq hq'
    rw [hstop] at hq'
    cases hq
    cases hq'
    exact ⟨rfl, h⟩
  | succ n ih => 
    rcases h.head with ⟨hnil, hclosing⟩ | ⟨s, rest, rest', hrest, hrest'⟩
    · intro a q a' q' hq hq'
      rw [takeClass_run_stop _ (by simp [hnil])] at hq
      rw [takeClass_run_stop _ (by simp [hclosing, hclose])] at hq'
      cases hq
      cases hq'
      exact ⟨rfl, h⟩
    · by_cases hs : ∃ c, s = .plain c ∧ inClass c = true
      · obtain ⟨c, rfl, hc⟩ := hs
        obtain ⟨n', rfl⟩ : ∃ k, n' = k + 1 := by
          refine Nat.exists_eq_succ_of_ne_zero ?_
          rintro rfl
          simp [hrest'] at hn
        unfold takeClass
        apply inStep_get
        simp only [hrest, hrest', hc, if_true]
        refine inStep_next_cons h hrest fun q q' hq hq' hab => ?_
        refine (ih ?_ hab).bind ?_
        · rw [hq, hq'] at hn
          simpa using hn
        · rintro b r b' r' ⟨rfl, hr⟩
          exact inStep_pure ⟨rfl, hr⟩
      · intro a q a' q' hq hq'
        have hout (c : Char) (hc : s = .plain c) : inClass c = false := by
          simpa using fun h => hs ⟨c, hc, h⟩
        rw [takeClass_run_stop _ (by rw [hrest]; rintro c _ ⟨⟩; exact hout c rfl)] at hq
        rw [takeClass_run_stop _ (by rw [hrest']; rintro c _ ⟨⟩; exact hout c rfl)] at hq'
        cases hq
        cases hq'
        exact ⟨rfl, h⟩

theorem agree_takeClass {inClass : Char → Bool} (hclose : inClass ')' = false) (n : Nat) :
    Agree more base Eq (takeClass inClass n) (takeClass inClass n) :=
  fun _ _ h => inStep_takeClass hclose (.inl rfl) h

/-- A name is read by both: the first reader refuses one without its terminator. -/
theorem agree_takeUntil (terminator : Char) (what : String) (fuel fuel' : Nat) (taken : List Char) :
    Agree more base Eq (takeUntil terminator what fuel taken)
      (takeUntil terminator what fuel' taken) := by
  induction fuel generalizing fuel' taken with
  | zero => exact (fails_refuse _ _).agree
  | succ fuel ih =>
    cases fuel' with
    | zero => exact (fails_refuse _ _).agree_right
    | succ fuel' =>
      refine agree_next ?_ fun s => ?_
      · dsimp only
        split <;> exact fails_refuse _ _
      · refine agree_ite (fun _ => ?_) fun _ => ih fuel' _
        exact agree_ite (fun _ => (fails_refuse _ _).agree) fun _ => agree_pure rfl

theorem agree_nameUntil (terminator : Char) (what : String) :
    Agree more base Eq (nameUntil terminator what) (nameUntil terminator what) :=
  agree_get fun _ _ => agree_takeUntil terminator what _ _ []

/-- What is skipped is skipped by both, or the first reader gets to its end. -/
theorem inStep_skipPast (stop : Char) {fuel fuel' : Nat} (hf : p.rest.length < fuel)
    (hf' : p'.rest.length < fuel') (h : Abreast more base p p') :
    InStep (skipPast stop fuel) (skipPast stop fuel') p p' fun a q a' q' =>
      (a = true ∧ a' = true ∧ Abreast more base q q') ∨ (a = false ∧ q.rest = []) := by
  induction fuel generalizing fuel' p p' with
  | zero => omega
  | succ fuel ih =>
    cases fuel' with
    | zero => omega
    | succ fuel' =>
      refine (inStep_next h).bind ?_
      rintro a q a' q' (⟨rfl, rfl, hnil⟩ | ⟨s, rfl, rfl, hq, hq', hab⟩)
      · rintro a r a' r' ⟨⟩ -
        exact .inr ⟨rfl, hnil⟩
      · dsimp only
        split
        · exact inStep_pure (.inl ⟨rfl, rfl, hab⟩)
        · rw [hq, List.length_cons] at hf
          rw [hq', List.length_cons] at hf'
          exact ih (by omega) (by omega) hab

end Symbols

/-! ## Groups -/

theorem stays_groupCount : Stays groupCount := stays_get fun _ => stays_pure _

theorem stays_isClosed (index : Nat) : Stays (isClosed index) := stays_get fun _ => stays_pure _

theorem stays_checkBehind (index : Nat) : Stays (checkBehind index) := by
  refine stays_get fun p => ?_
  split
  · exact stays_pure _
  · refine (stays_isClosed index).bind fun closed => ?_
    refine stays_ite ((fails_refuse _ _).bind _).stays ?_
    exact stays_ite (fails_refuse _ _).stays (stays_pure _)

theorem stays_leave (index : Nat) (body : Node) : Stays (leave index body) := by
  rintro p _ _ ⟨⟩
  exact ⟨rfl, List.length_set, rfl⟩

/-- Both open the next group; it has the next number for the second reader. -/
theorem agree_enter {more : List Symbol} {base : Flags} (name : Option (List Char)) :
    Agree more base (fun index index' => index' = index + 1) (enter name) (enter name) := by
  have hnext {p q : Progress} {index : Nat} (h : (enter name).run p = .ok (index, q)) :
      index = p.groups.length + 1 ∧ q.rest = p.rest ∧ q.groups.length = p.groups.length + 1 ∧
        q.flags = p.flags := by
    cases name with
    | none =>
      cases h
      exact ⟨rfl, rfl, List.length_append, rfl⟩
    | some cs =>
      simp only [enter, StateT.run_bind, StateT.run_get, pure_bind] at h
      split at h
      · exact absurd h (fails_refuse _ _ p _)
      · cases h
        exact ⟨rfl, rfl, List.length_append, rfl⟩
  intro p p' hp index q index' q' h h'
  obtain ⟨rfl, hrest, hgroups, hflags⟩ := hnext h
  obtain ⟨rfl, hrest', hgroups', -⟩ := hnext h'
  refine ⟨by rw [hp.groups], ?_, by rw [hgroups, hgroups', hp.groups], hflags.trans hp.flags⟩
  rw [hrest, hrest']
  exact hp.rest

end Reader
end Regex
end QueryOptions
