import QueryOptions.Proofs.Intrusions
import QueryOptions.Proofs.Items
import QueryOptions.Proofs.Renumbered
import QueryOptions.Proofs.Repeating

/-!
# QueryOptions.Proofs.Mirrors

A text that is read on its own, and again inside of one more group that ends with it. As long as the
text is scanned without an intrusion, what one reader accepts the other one accepts, and what they
make of it differs in the numbers of groups only. The scan goes along with the readers: it says what
the next symbol belongs to, and that a text which ends in the middle of something is not closed. The
second reader would go on there, where the first one refuses; a text that the second one reads to
its end is therefore asked to be closed.

* `Node.ShiftsTo` and the like: what is read inside of the group;
* `Mirrors`: a step of both readers, with rules for how they are put together;
* `Twin`: two readers at the same symbol of the text;
* `Mirror`: the same for a step from any two twins, whose results say how the scan goes on;
* `mirrors_next`, `mirrors_accept`, `mirrors_takeClass`, `mirror_nameUntil`, `mirrors_skipPast`:
  symbols;
* `mirror_enter`, `mirror_leave`, `mirror_isClosed`, `mirror_checkBehind`: groups.
-/

namespace QueryOptions
namespace Regex

/-! ## One group more -/

/-- The second node is the first one after one more group has been opened. Groups are numbered from
one. -/
def Node.ShiftsTo (n n' : Node) : Prop :=
  n' = n.renumbered (· + 1) (· + 1) ∧ n.Numbered (0 < ·) (0 < ·)

/-- The second piece is the first one after one more group has been opened. -/
def Piece.ShiftsTo (p p' : Piece) : Prop :=
  p' = p.renumbered (· + 1) (· + 1) ∧ p.Numbered (0 < ·) (0 < ·)

/-- The second pieces are the first ones after one more group has been opened. -/
def ShiftTo (pieces pieces' : List Piece) : Prop :=
  pieces' = renumberedPieces (· + 1) (· + 1) pieces ∧ ∀ p ∈ pieces, p.Numbered (0 < ·) (0 < ·)

/-- The second item is the first one after one more group has been opened. -/
def Item.ShiftsTo (item item' : Item) : Prop :=
  item' = item.renumbered (· + 1) (· + 1) ∧ ∀ p ∈ item.pieces, p.Numbered (0 < ·) (0 < ·)

theorem Piece.shiftsTo_test (t : CharTest) : (Piece.test t).ShiftsTo (.test t) := ⟨rfl, trivial⟩

theorem Piece.shiftsTo_place (letter : Char) (a : Anchor) :
    (Piece.place letter a).ShiftsTo (.place letter a) := ⟨rfl, trivial⟩

theorem Piece.ShiftsTo.item {p p' : Piece} (h : p.ShiftsTo p') :
    (Item.piece p).ShiftsTo (.piece p') :=
  ⟨congrArg Item.piece h.1, List.forall_mem_singleton.mpr h.2⟩

theorem Node.ShiftsTo.whole {n n' : Node} (h : n.ShiftsTo n') :
    (Item.piece (.whole n)).ShiftsTo (.piece (.whole n')) :=
  Piece.ShiftsTo.item ⟨congrArg Piece.whole h.1, h.2⟩

theorem ShiftTo.group {pieces pieces' : List Piece} (h : ShiftTo pieces pieces') :
    (Item.group pieces).ShiftsTo (.group pieces') :=
  ⟨congrArg Item.group h.1, h.2⟩

theorem ShiftTo.node {pieces pieces' : List Piece} (h : ShiftTo pieces pieces') :
    (nodeOfPieces pieces).ShiftsTo (nodeOfPieces pieces') := by
  refine ⟨?_, numbered_nodeOfPieces.mpr h.2⟩
  rw [h.1, nodeOfPieces_renumbered]

theorem Item.ShiftsTo.node {item item' : Item} (h : item.ShiftsTo item') :
    item.node.ShiftsTo item'.node := by
  refine ShiftTo.node ⟨?_, h.2⟩
  rw [h.1, Item.pieces_renumbered]

/-- The items of a sequence become its pieces. -/
theorem shiftTo_flatMap {items items' : List Item} (h : List.Forall₂ Item.ShiftsTo items items') :
    ShiftTo (items.reverse.flatMap Item.pieces) (items'.reverse.flatMap Item.pieces) := by
  have hmap : items' = items.map (Item.renumbered (· + 1) (· + 1)) := by
    induction h with
    | nil => rfl
    | cons h _ ih => rw [h.1, ih, List.map_cons]
  have hnumbered : ∀ item ∈ items, ∀ p ∈ item.pieces, p.Numbered (0 < ·) (0 < ·) := by
    clear hmap
    induction h with
    | nil => nofun
    | cons h _ ih => exact List.forall_mem_cons.mpr ⟨h.2, ih⟩
  refine ⟨?_, fun p hp => ?_⟩
  · rw [hmap, Item.flatMap_pieces_renumbered]
  · obtain ⟨item, hitem, hp⟩ := List.mem_flatMap.mp hp
    exact hnumbered item (List.mem_reverse.mp hitem) p hp

/-- The alternatives of a choice become its pieces. -/
theorem ShiftTo.ofAlternatives (fold : Fold) {first first' : List Piece}
    {others others' : List (List Piece)} (h : ShiftTo first first')
    (ho : List.Forall₂ ShiftTo others others') :
    ShiftTo (piecesOfAlternatives fold first others)
      (piecesOfAlternatives fold first' others') := by
  have hmap : others' = others.map (renumberedPieces (· + 1) (· + 1)) := by
    induction ho with
    | nil => rfl
    | cons h _ ih => rw [h.1, ih, List.map_cons]
  have hnumbered : ∀ pieces ∈ others, ∀ p ∈ pieces, p.Numbered (0 < ·) (0 < ·) := by
    clear hmap
    induction ho with
    | nil => nofun
    | cons h _ ih => exact List.forall_mem_cons.mpr ⟨h.2, ih⟩
  refine ⟨?_, numbered_piecesOfAlternatives fold (List.forall_mem_cons.mpr ⟨h.2, hnumbered⟩)⟩
  rw [h.1, hmap, piecesOfAlternatives_renumbered _ (fun _ _ h => Nat.succ.inj h)]

namespace Reader

variable {α β γ δ : Type}

/-! ## Steps of both readers -/

/-- If one of the steps is taken, so is the other one, and what comes out of them is so related. The
second reader is only followed if the text is closed. Unless `ends`, the first one is only followed
if it does not get to the end of its text. -/
structure Mirrors (R : Except Intrusion Bool) (ends : Prop) (m : Reader α) (m' : Reader β)
    (p p' : Progress) (post : α → Progress → β → Progress → Prop) : Prop where
  forth : ∀ a q, m.run p = .ok (a, q) → (ends ∨ q.rest ≠ []) →
    ∃ a' q', m'.run p' = .ok (a', q') ∧ post a q a' q'
  back : R = .ok true → ∀ a' q', m'.run p' = .ok (a', q') →
    ∃ a q, m.run p = .ok (a, q) ∧ post a q a' q'

section Mirrors

variable {R : Except Intrusion Bool} {ends : Prop} {m : Reader α} {m' : Reader β}
  {p p' : Progress} {post mid : α → Progress → β → Progress → Prop} {f : α → Reader γ}
  {f' : β → Reader δ} {last : γ → Progress → δ → Progress → Prop}

theorem mirrors_of_run {a : α} {q : Progress} {a' : β} {q' : Progress}
    (h : m.run p = .ok (a, q)) (h' : m'.run p' = .ok (a', q')) (hpost : post a q a' q') :
    Mirrors R ends m m' p p' post where
  forth b r hb _ := by
    cases h.symm.trans hb
    exact ⟨a', q', h', hpost⟩
  back _ b' r' hb' := by
    cases h'.symm.trans hb'
    exact ⟨a, q, h, hpost⟩

theorem mirrors_pure {a : α} {a' : β} (h : post a p a' p') :
    Mirrors R ends (pure a) (pure a') p p' post := mirrors_of_run rfl rfl h

/-- If what comes after the first step ends with the text where that one does, or is not taken
there at all, the first step is followed whenever it has to be. -/
theorem Mirrors.bind_ends {before : Prop} (hm : Mirrors R before m m' p p' mid)
    (hend : ∀ a q c r, q.rest = [] → (f a).run q = .ok (c, r) → (ends ∨ r.rest ≠ []) → before)
    (hf : ∀ a q a' q', mid a q a' q' → Mirrors R ends (f a) (f' a') q q' last) :
    Mirrors R ends (m >>= f) (m' >>= f') p p' last where
  forth c r h hends := by
    obtain ⟨a, q, ha, hr⟩ := run_bind_eq_ok.mp h
    have hbefore : before ∨ q.rest ≠ [] := by
      by_cases hnil : q.rest = []
      · exact .inl (hend a q c r hnil hr hends)
      · exact .inr hnil
    obtain ⟨a', q', ha', hmid⟩ := hm.forth a q ha hbefore
    obtain ⟨c', r', hr', hlast⟩ := (hf a q a' q' hmid).forth c r hr hends
    exact ⟨c', r', run_bind_eq_ok.mpr ⟨a', q', ha', hr'⟩, hlast⟩
  back hR c' r' h := by
    obtain ⟨a', q', ha', hr'⟩ := run_bind_eq_ok.mp h
    obtain ⟨a, q, ha, hmid⟩ := hm.back hR a' q' ha'
    obtain ⟨c, r, hr, hlast⟩ := (hf a q a' q' hmid).back hR c' r' hr'
    exact ⟨c, r, run_bind_eq_ok.mpr ⟨a, q, ha, hr⟩, hlast⟩

theorem Mirrors.bind (hm : Mirrors R True m m' p p' mid)
    (hf : ∀ a q a' q', mid a q a' q' → Mirrors R ends (f a) (f' a') q q' last) :
    Mirrors R ends (m >>= f) (m' >>= f') p p' last :=
  hm.bind_ends (fun _ _ _ _ _ _ _ => trivial) hf

theorem Mirrors.bind_needsMore {before : Prop} (hm : Mirrors R before m m' p p' mid)
    (hmore : ∀ a, NeedsMore (f a))
    (hf : ∀ a q a' q', mid a q a' q' → Mirrors R ends (f a) (f' a') q q' last) :
    Mirrors R ends (m >>= f) (m' >>= f') p p' last :=
  hm.bind_ends (fun a q _ _ hnil hr _ => absurd hr (hmore a q _ hnil)) hf

theorem Mirrors.mono (h : Mirrors R ends m m' p p' mid)
    (himp : ∀ a q a' q', mid a q a' q' → post a q a' q') : Mirrors R ends m m' p p' post where
  forth a q ha hends :=
    let ⟨a', q', ha', hmid⟩ := h.forth a q ha hends
    ⟨a', q', ha', himp a q a' q' hmid⟩
  back hR a' q' ha' :=
    let ⟨a, q, ha, hmid⟩ := h.back hR a' q' ha'
    ⟨a, q, ha, himp a q a' q' hmid⟩

theorem Mirrors.advance (h : Mirrors R ends m m' p p' post) (hm : Advances m) (hm' : Advances m') :
    Mirrors R ends m m' p p' fun a q a' q' =>
      post a q a' q' ∧ q.rest.length ≤ p.rest.length ∧ q'.rest.length ≤ p'.rest.length where
  forth a q ha hends :=
    let ⟨a', q', ha', hpost⟩ := h.forth a q ha hends
    ⟨a', q', ha', hpost, hm p a q ha, hm' p' a' q' ha'⟩
  back hR a' q' ha' :=
    let ⟨a, q, ha, hpost⟩ := h.back hR a' q' ha'
    ⟨a, q, ha, hpost, hm p a q ha, hm' p' a' q' ha'⟩

theorem Mirrors.congr {n : Reader α} {n' : Reader β} (h : Mirrors R ends n n' p p' post)
    (hm : m.run p = n.run p) (hm' : m'.run p' = n'.run p') : Mirrors R ends m m' p p' post where
  forth a q ha hends :=
    let ⟨a', q', ha', hpost⟩ := h.forth a q (hm.symm.trans ha) hends
    ⟨a', q', hm'.trans ha', hpost⟩
  back hR a' q' ha' :=
    let ⟨a, q, ha, hpost⟩ := h.back hR a' q' (hm'.symm.trans ha')
    ⟨a, q, hm.trans ha, hpost⟩

theorem Fails.mirrors (h : Fails m) (h' : Fails m') : Mirrors R ends m m' p p' post where
  forth _ _ ha := absurd ha (h p _)
  back _ _ _ ha' := absurd ha' (h' p' _)

theorem mirrors_ite {c : Prop} [Decidable c] {n : Reader α} {n' : Reader β}
    (h : c → Mirrors R ends m m' p p' post) (hn : ¬c → Mirrors R ends n n' p p' post) :
    Mirrors R ends (if c then m else n) (if c then m' else n') p p' post := by
  split <;> rename_i hc
  · exact h hc
  · exact hn hc

/-- `Mirrors` under a check at which both readers fail, or neither does. -/
theorem mirrors_unless {c c' : Prop} [Decidable c] [Decidable c'] {u : Reader α} {u' : Reader β}
    (hc : c ↔ c') (hu : Fails u) (hu' : Fails u') (h : Mirrors R ends m m' p p' post) :
    Mirrors R ends (if c then u else m) (if c' then u' else m') p p' post := by
  rw [if_congr hc.symm rfl rfl]
  exact mirrors_ite (fun _ => hu.mirrors hu') fun _ => h

theorem mirrors_get {f : Progress → Reader γ} {f' : Progress → Reader δ}
    (h : Mirrors R ends (f p) (f' p') p p' last) :
    Mirrors R ends (get >>= f) (get >>= f') p p' last :=
  h.congr rfl rfl

end Mirrors

/-! ## Twins -/

/-- Two readers at the same symbol of a text. The second one has opened one group more, which is
still open, and more symbols follow for it after the closing parenthesis. What is left of the text
is scanned from `st` on, with the outcome `R`. -/
structure Twin (more : List Symbol) (base : Flags) (R : Except Intrusion Bool) (st : Scan)
    (p p' : Progress) : Prop where
  rest : Continues more p.rest p'.rest
  first : p.rest.head? ≠ some .dangling
  scan : st.run p.rest = R
  groups : p'.groups = none :: p.groups
  names : p'.names = p.names.map fun e => (e.1, e.2 + 1)
  numbered : ∀ e ∈ p.names, 0 < e.2
  behindFrom : p'.behindFrom = p.behindFrom.map (· + 1)
  asked : p.asked = []
  asked' : p'.asked = []
  flags : p.flags = base
  flags' : p'.flags = base

namespace Twin

variable {more : List Symbol} {base : Flags} {R : Except Intrusion Bool} {st : Scan}
  {p p' : Progress}

/-- No backslash at the very end comes next. -/
theorem ne_dangling (h : Twin more base R st p p') {s : Symbol} {rest : List Symbol}
    (hrest : p.rest = s :: rest) : s ≠ .dangling := by
  rintro rfl
  exact h.first (by rw [hrest]; rfl)

/-- A text that ends in the middle of something is not closed. -/
theorem ne_nil (h : Twin more base R st p p') (hopen : st.finish ≠ .ok true) (hR : R = .ok true) :
    p.rest ≠ [] := by
  intro hnil
  have hscan := h.scan
  rw [hnil, hR] at hscan
  exact hopen hscan

/-- Where the first reader is at its end, the parenthesis comes next. -/
theorem rest_of_nil (h : Twin more base R st p p') (hnil : p.rest = []) :
    p'.rest = .plain ')' :: more := by
  have hrest := h.rest
  rw [hnil] at hrest
  generalize p'.rest = rest' at hrest ⊢
  cases hrest
  rfl

/-- `Twin` readers have the same symbol before them, as long as the first one is not at its end. -/
theorem head_eq (h : Twin more base R st p p') {s : Symbol} {rest : List Symbol}
    (hrest : p.rest = s :: rest) : ∃ rest', p'.rest = s :: rest' := by
  have hcontinues := h.rest
  rw [hrest] at hcontinues
  generalize p'.rest = rest' at hcontinues ⊢
  cases hcontinues with
  | dangling s => exact ⟨_, rfl⟩
  | cons s _ => exact ⟨_, rfl⟩

/-- What comes next to both is the same character, if it is not the parenthesis. -/
theorem head_iff (h : Twin more base R st p p') {c : Char} (hc : c ≠ ')') :
    p.rest.head? = some (.plain c) ↔ p'.rest.head? = some (.plain c) := by
  cases hrest : p.rest with
  | nil =>
    rw [h.rest_of_nil hrest]
    exact iff_of_false nofun fun hclose => hc (by simpa using hclose.symm)
  | cons s rest =>
    obtain ⟨rest', hrest'⟩ := h.head_eq hrest
    rw [hrest']
    rfl

theorem rest_ne_plain (h : Twin more base R st p p') {c : Char} (hc : c ≠ ')')
    (hrest : ∀ rest, p.rest ≠ .plain c :: rest) (rest : List Symbol) :
    p'.rest ≠ .plain c :: rest := by
  cases hp : p.rest with
  | nil =>
    rw [h.rest_of_nil hp]
    rintro ⟨⟩
    exact hc rfl
  | cons s tail =>
    obtain ⟨rest', hrest'⟩ := h.head_eq hp
    rw [hrest']
    rintro ⟨⟩
    exact hrest tail hp

/-- Nothing but the zone decides what comes of the rest. -/
theorem rescan (h : Twin more base R st p p') {st' : Scan} (hscan : st'.run p.rest = R) :
    Twin more base R st' p p' := { h with scan := hscan }

end Twin

/-! ## Symbols -/

/-- Whenever the readers are twins at a place that is scanned from `st` on, each of the steps is
taken if the other one is. Their results, and how far the scan is then, are so related. -/
def Mirror (more : List Symbol) (base : Flags) (R : Except Intrusion Bool) (st : Scan)
    (S : α → β → Scan → Prop) (m : Reader α) (m' : Reader β) : Prop :=
  ∀ p p', Twin more base R st p p' →
    Mirrors R True m m' p p' fun a q a' q' => ∃ st', S a a' st' ∧ Twin more base R st' q q'

/-- Both readers make the same of it, after which the rest is scanned from `st` on. -/
def Same (st : Scan) (a a' : α) (next : Scan) : Prop := a = a' ∧ next = st

section Mirror

variable {more : List Symbol} {base : Flags} {R : Except Intrusion Bool} {st : Scan}
  {S : α → β → Scan → Prop} {T : γ → δ → Scan → Prop} {m : Reader α} {m' : Reader β}
  {f : α → Reader γ} {f' : β → Reader δ} {n : Reader γ} {n' : Reader δ}

theorem mirror_pure {c : γ} {c' : δ} (h : T c c' st) : Mirror more base R st T (pure c) (pure c') :=
  fun _ _ hp => mirrors_pure ⟨st, h, hp⟩

theorem Mirror.bind (hm : Mirror more base R st S m m')
    (hf : ∀ a a' st', S a a' st' → Mirror more base R st' T (f a) (f' a')) :
    Mirror more base R st T (m >>= f) (m' >>= f') := by
  intro p p' hp
  refine (hm p p' hp).bind ?_
  rintro a q a' q' ⟨st', ha, hq⟩
  exact hf a a' st' ha q q' hq

theorem Fails.mirror (h : Fails n) (h' : Fails n') : Mirror more base R st T n n' :=
  fun _ _ _ => h.mirrors h'

theorem mirror_get {f : Progress → Reader γ} {f' : Progress → Reader δ}
    (h : ∀ p p', Twin more base R st p p' → Mirror more base R st T (f p) (f' p')) :
    Mirror more base R st T (get >>= f) (get >>= f') :=
  fun p p' hp => mirrors_get (h p p' hp p p' hp)

theorem mirror_ite {c : Prop} [Decidable c] {a b : Reader γ} {a' b' : Reader δ}
    (h : c → Mirror more base R st T a a') (hn : ¬c → Mirror more base R st T b b') :
    Mirror more base R st T (if c then a else b) (if c then a' else b') :=
  fun p p' hp => mirrors_ite (fun hc => h hc p p' hp) fun hc => hn hc p p' hp

/-- `Mirror` under a check at which both readers fail, or neither does. -/
theorem mirror_unless {c c' : Prop} [Decidable c] [Decidable c'] {u : Reader γ} {u' : Reader δ}
    (hc : c ↔ c') (hu : Fails u) (hu' : Fails u') (h : Mirror more base R st T n n') :
    Mirror more base R st T (if c then u else n) (if c' then u' else n') :=
  fun p p' hp => mirrors_unless hc hu hu' (h p p' hp)

end Mirror

section Symbols

variable {more : List Symbol} {base : Flags} {R : Except Intrusion Bool} {st : Scan}
  {p p' : Progress} {ends : Prop} {post : γ → Progress → δ → Progress → Prop}
  (hoptions : R ≠ .error .options) (hnumber : R ≠ .error .number)
include hoptions hnumber

/-- Both read a symbol that is there, and it is scanned. -/
theorem mirrors_next_cons {f : Option Symbol → Reader γ} {f' : Option Symbol → Reader δ}
    {s : Symbol} {rest : List Symbol} (hp : Twin more base R st p p') (hrest : p.rest = s :: rest)
    (hclosing : st.step s ≠ .error .closing)
    (hsome : ∀ st' q q', st.step s = .ok st' → p.rest = s :: q.rest → p'.rest = s :: q'.rest →
      Twin more base R st' q q' → Mirrors R ends (f (some s)) (f' (some s)) q q' post) :
    Mirrors R ends (next >>= f) (next >>= f') p p' post := by
  have hcontinues := hp.rest
  have hscan := hp.scan
  rw [hrest] at hcontinues hscan
  cases hstep : st.step s with
  | error i =>
    -- What is no intrusion of the text can be scanned.
    exfalso
    rw [Scan.run_cons_error hstep] at hscan
    cases i with
    | options => exact hoptions hscan.symm
    | number => exact hnumber hscan.symm
    | closing => exact hclosing hstep
  | ok st' =>
    rw [Scan.run_cons_ok hstep] at hscan
    by_cases hd : rest.head? = some .dangling
    · refine ⟨fun c r h _ => ?_, fun hR => ?_⟩
      · obtain ⟨a, q, ha, -⟩ := run_bind_eq_ok.mp h
        exact absurd hd (head_of_next hrest ha)
      · obtain ⟨tail, rfl⟩ := List.head?_eq_some_iff.mp hd
        exact absurd (hscan.trans hR) (st'.run_dangling tail)
    · generalize hrest' : p'.rest = rest' at hcontinues
      cases hcontinues with
      | dangling s => exact absurd rfl hd
      | cons s hcontinues =>
        rename_i rest'
        have hnext := next_run_eq hrest hd
        have hnext' := next_run_eq hrest' (hcontinues.head_ne_dangling hd)
        have htwin : Twin more base R st' { p with rest, position := p.position + s.size }
            { p' with rest := rest', position := p'.position + s.size } :=
          { hp with rest := hcontinues, first := hd, scan := hscan }
        have hsome := hsome st' _ _ hstep hrest hrest' htwin
        constructor
        · intro c r h hends
          obtain ⟨a, q, ha, hr⟩ := run_bind_eq_ok.mp h
          rw [hnext] at ha
          cases ha
          obtain ⟨c', r', hr', hpost⟩ := hsome.forth c r hr hends
          exact ⟨c', r', run_bind_eq_ok.mpr ⟨_, _, hnext', hr'⟩, hpost⟩
        · intro hR c' r' h
          obtain ⟨a', q', ha', hr'⟩ := run_bind_eq_ok.mp h
          rw [hnext'] at ha'
          cases ha'
          obtain ⟨c, r, hr, hpost⟩ := hsome.back hR c' r' hr'
          exact ⟨c, r, run_bind_eq_ok.mpr ⟨_, _, hnext, hr⟩, hpost⟩

/-- Both read the next symbol. What the first reader makes of the end is never what it ends with,
and a text that ends here is not closed. -/
theorem mirrors_next {f : Option Symbol → Reader γ} {f' : Option Symbol → Reader δ}
    (hp : Twin more base R st p p') (hopen : st.finish ≠ .ok true)
    (hnone : p.rest = [] → ∀ c r, (f none).run p = .ok (c, r) → ¬(ends ∨ r.rest ≠ []))
    (hclosing : ∀ s, st.step s ≠ .error .closing)
    (hsome : ∀ s st' q q', s ≠ .dangling → st.step s = .ok st' → p.rest = s :: q.rest →
      p'.rest = s :: q'.rest → Twin more base R st' q q' →
      Mirrors R ends (f (some s)) (f' (some s)) q q' post) :
    Mirrors R ends (next >>= f) (next >>= f') p p' post := by
  cases hrest : p.rest with
  | nil =>
    refine ⟨fun c r h hends => ?_, fun hR => absurd hrest (hp.ne_nil hopen hR)⟩
    obtain ⟨a, q, ha, hr⟩ := run_bind_eq_ok.mp h
    rw [next_run_nil hrest] at ha
    cases ha
    exact absurd hends (hnone hrest c r hr)
  | cons s rest =>
    refine mirrors_next_cons hoptions hnumber hp hrest (hclosing s) ?_
    exact fun st' q q' => hsome s st' q q' (hp.ne_dangling hrest)

/-- `Mirror` for `next`, where the end of the text is refused. -/
theorem mirror_next {T : γ → δ → Scan → Prop} {f : Option Symbol → Reader γ}
    {f' : Option Symbol → Reader δ} (hopen : st.finish ≠ .ok true) (hnone : Fails (f none))
    (hclosing : ∀ s, st.step s ≠ .error .closing)
    (hsome : ∀ s st', s ≠ .dangling → st.step s = .ok st' →
      Mirror more base R st' T (f (some s)) (f' (some s))) :
    Mirror more base R st T (next >>= f) (next >>= f') := fun _ _ hp =>
  mirrors_next hoptions hnumber hp hopen (fun _ _ _ h => absurd h (hnone _ _)) hclosing
    fun s st' q q' hs hstep _ _ hq => hsome s st' hs hstep q q' hq

/-- A character is accepted by both or by neither, except the parenthesis where the first reader is
at its end. -/
theorem mirrors_accept {c : Char} {st' : Scan} (hc : c ≠ ')' ∨ p.rest ≠ [])
    (hstep : st.step (.plain c) = .ok st') (hp : Twin more base R st p p') :
    Mirrors R True (accept c) (accept c) p p' fun a q a' q' =>
      a = a' ∧
        if a then Twin more base R st' q q' ∧ p.rest = .plain c :: q.rest ∧
          p'.rest = .plain c :: q'.rest
        else q = p ∧ q' = p' ∧ ∀ rest, p.rest ≠ .plain c :: rest := by
  by_cases hhead : ∃ rest, p.rest = .plain c :: rest
  · obtain ⟨rest, hrest⟩ := hhead
    obtain ⟨rest', hrest'⟩ := hp.head_eq hrest
    refine Mirrors.congr ?_ (accept_run_plain hrest) (accept_run_plain hrest')
    refine mirrors_next_cons hoptions hnumber hp hrest (by rw [hstep]; nofun) ?_
    intro st₁ q q' hst₁ hq hq' htwin
    obtain rfl : st' = st₁ := Except.ok.inj (hstep.symm.trans hst₁)
    exact mirrors_pure ⟨rfl, htwin, hq, hq'⟩
  · have hother : ∀ rest, p.rest ≠ .plain c :: rest := fun rest hrest => hhead ⟨rest, hrest⟩
    have hother' : ∀ rest, p'.rest ≠ .plain c :: rest := by
      rcases hc with hc | hne
      · exact hp.rest_ne_plain hc hother
      · intro rest hrest
        obtain ⟨s, tail, hs⟩ := List.exists_cons_of_ne_nil hne
        obtain ⟨rest', hrest'⟩ := hp.head_eq hs
        rw [hrest'] at hrest
        cases hrest
        exact hother tail hs
    exact mirrors_of_run (accept_run_other hother) (accept_run_other hother')
      ⟨rfl, rfl, rfl, hother⟩

theorem mirror_accept {c : Char} {st' : Scan} (hc : c ≠ ')')
    (hstep : st.step (.plain c) = .ok st') :
    Mirror more base R st (fun a a' next => a = a' ∧ next = if a then st' else st) (accept c)
      (accept c) := by
  intro p p' hp
  refine (mirrors_accept hoptions hnumber (.inl hc) hstep hp).mono ?_
  rintro a q _ q' ⟨rfl, h⟩
  cases a with
  | true => exact ⟨st', ⟨rfl, rfl⟩, h.1⟩
  | false =>
    obtain ⟨rfl, rfl, -⟩ := h
    exact ⟨st, ⟨rfl, rfl⟩, hp⟩

/-- Both read as many characters of a class, if they may read equally many or as many as they
like. -/
theorem mirrors_takeClass {inClass : Char → Bool} (hclose : inClass ')' = false)
    (hclass : ∀ c, inClass c = true → st.step (.plain c) = .ok st) {n n' : Nat}
    (hn : n' = n ∨ (p.rest.length ≤ n ∧ p'.rest.length ≤ n')) (hp : Twin more base R st p p') :
    Mirrors R True (takeClass inClass n) (takeClass inClass n') p p' fun a q a' q' =>
      a = a' ∧ Twin more base R st q q' := by
  have hstay {n n' : Nat} {p p' : Progress} (hp : Twin more base R st p p')
      (h : ∀ c rest, p.rest = .plain c :: rest → inClass c = false) :
      Mirrors R True (takeClass inClass n) (takeClass inClass n') p p' fun a q a' q' =>
        a = a' ∧ Twin more base R st q q' := by
    refine mirrors_of_run (takeClass_run_stop n h)
      (takeClass_run_stop n' fun c rest hrest => ?_) ⟨rfl, hp⟩
    rw [← Bool.not_eq_true]
    intro hc
    refine hp.rest_ne_plain ?_ (fun rest hrest => ?_) rest hrest
    · rintro rfl
      rw [hclose] at hc
      cases hc
    · rw [h c rest hrest] at hc
      cases hc
  induction n generalizing n' p p' with
  | zero =>
    rcases hn with rfl | ⟨hlength, -⟩
    · exact mirrors_pure ⟨rfl, hp⟩
    · refine hstay hp fun c rest hrest => ?_
      simp [hrest] at hlength
  | succ n ih =>
    by_cases hhead : ∃ c rest, p.rest = .plain c :: rest ∧ inClass c = true
    · obtain ⟨c, rest, hrest, hc⟩ := hhead
      obtain ⟨rest', hrest'⟩ := hp.head_eq hrest
      obtain ⟨n', rfl⟩ : ∃ k, n' = k + 1 := by
        refine Nat.exists_eq_succ_of_ne_zero ?_
        rintro rfl
        simp [hrest'] at hn
      unfold takeClass
      apply mirrors_get
      simp only [hrest, hrest', hc, if_true]
      refine mirrors_next_cons hoptions hnumber hp hrest (by simp [hclass c hc]) ?_
      intro st₁ q q' hst₁ hq hq' htwin
      obtain rfl : st = st₁ := Except.ok.inj ((hclass c hc).symm.trans hst₁)
      refine (ih ?_ htwin).bind ?_
      · rw [hq, hq'] at hn
        simpa using hn
      · rintro b r _ r' ⟨rfl, hr⟩
        exact mirrors_pure ⟨rfl, hr⟩
    · refine hstay hp fun c rest hrest => ?_
      simpa using fun hc => hhead ⟨c, rest, hrest, hc⟩

theorem mirror_takeClass {inClass : Char → Bool} (hclose : inClass ')' = false)
    (hclass : ∀ c, inClass c = true → st.step (.plain c) = .ok st) (n : Nat) :
    Mirror more base R st (Same st) (takeClass inClass n)
      (takeClass inClass n) := by
  intro p p' hp
  refine (mirrors_takeClass hoptions hnumber hclose hclass (.inl rfl) hp).mono ?_
  rintro a q _ q' ⟨rfl, hq⟩
  exact ⟨st, ⟨rfl, rfl⟩, hq⟩

/-- An octal digit that has to come, because there is no reference by a number. -/
theorem mirror_octal {inClass : Char → Bool} (hclass : ∀ c, isOctal c = true → inClass c = true)
    (k : Nat) :
    Mirror more base R (st.goto (.octal k))
      (fun a a' next => ∃ d, a = [d] ∧ a' = [d] ∧ isOctal d = true ∧
        next = st.goto (if k = 0 then .items else .octal (k - 1)))
      (takeClass inClass 1) (takeClass inClass 1) := by
  intro p p' hp
  have hscan := hp.scan
  cases hrest : p.rest with
  | nil =>
    rw [hrest] at hscan
    exact absurd hscan.symm hnumber
  | cons s rest =>
    by_cases hs : ∃ d, s = .plain d ∧ isOctal d = true
    · obtain ⟨d, rfl, hd⟩ := hs
      obtain ⟨rest', hrest'⟩ := hp.head_eq hrest
      have hstep : (st.goto (.octal k)).step (.plain d)
          = .ok (st.goto (if k = 0 then .items else .octal (k - 1))) := st.step_octal k hd
      unfold takeClass
      apply mirrors_get
      simp only [hrest, hrest', hclass d hd, if_true]
      refine mirrors_next_cons hoptions hnumber hp hrest (by simp [hstep]) ?_
      intro st₁ q q' hst₁ hq hq' htwin
      obtain rfl := Except.ok.inj (hstep.symm.trans hst₁)
      exact mirrors_pure ⟨_, ⟨d, rfl, rfl, hd, rfl⟩, htwin⟩
    · have hother (d : Char) (hd : s = .plain d) : isOctal d = false := by
        simpa using fun h => hs ⟨d, hd, h⟩
      rw [hrest, Scan.run_cons_error (st.step_octal_other k hother)] at hscan
      exact absurd hscan.symm hnumber

/-- A name and its terminator are read by both. -/
theorem mirrors_takeUntil (l : Label) (what : String)
    (hclosing : ∀ taken, st.named taken l ≠ .error .closing) {fuel fuel' : Nat} {taken : List Char}
    (hf : p.rest.length < fuel) (hf' : p'.rest.length < fuel')
    (hp : Twin more base R (st.goto (.name l taken)) p p') :
    Mirrors R True (takeUntil l.terminator what fuel taken)
      (takeUntil l.terminator what fuel' taken)
      p p' fun a q a' q' =>
        ∃ st', (a = a' ∧ st.named a l = .ok st') ∧ Twin more base R st' q q' := by
  induction fuel generalizing fuel' taken p p' with
  | zero => omega
  | succ fuel ih =>
    cases fuel' with
    | zero => omega
    | succ fuel' =>
      cases hrest : p.rest with
      | nil =>
        refine ⟨fun c r h => ?_, fun hR => absurd hrest (hp.ne_nil (st.finish_name l taken) hR)⟩
        obtain ⟨a, q, ha, hr⟩ := run_bind_eq_ok.mp h
        rw [next_run_nil hrest] at ha
        cases ha
        dsimp only at hr
        split at hr
        · exact absurd hr (fails_refuse _ _ _ _)
        · exact absurd hr (fails_refuse _ _ _ _)
      | cons s rest =>
        by_cases hs : s = .plain l.terminator
        · rw [hs] at hrest
          have hstep := st.step_terminator l taken
          refine mirrors_next_cons hoptions hnumber hp hrest (hstep ▸ hclosing taken) ?_
          intro st₁ q q' hst₁ _ _ htwin
          simp only [if_true]
          refine mirrors_ite (fun _ => (fails_refuse _ _).mirrors (fails_refuse _ _)) fun _ => ?_
          exact mirrors_pure ⟨st₁, ⟨rfl, hstep.symm.trans hst₁⟩, htwin⟩
        · have hstep := st.step_name l taken (hp.ne_dangling hrest) hs
          refine mirrors_next_cons hoptions hnumber hp hrest (by rw [hstep]; nofun) ?_
          intro st₁ q q' hst₁ hq hq' htwin
          obtain rfl := Except.ok.inj (hstep.symm.trans hst₁)
          rw [hq, List.length_cons] at hf
          rw [hq', List.length_cons] at hf'
          simp only [hs, if_false]
          exact ih (by omega) (by omega) htwin

theorem mirror_nameUntil (l : Label) (what : String)
    (hclosing : ∀ taken, st.named taken l ≠ .error .closing) :
    Mirror more base R (st.goto (.name l []))
      (fun a a' next => a = a' ∧ st.named a l = .ok next)
      (nameUntil l.terminator what) (nameUntil l.terminator what) := fun _ _ hp =>
  mirrors_get (mirrors_takeUntil hoptions hnumber l what hclosing (Nat.lt_succ_self _)
    (Nat.lt_succ_self _) hp)

/-- What is skipped is skipped by both, unless the first reader gets to its end. -/
theorem mirrors_skipPast {stop : Char} {st' : Scan} {f : Bool → Reader γ} {f' : Bool → Reader δ}
    (hopen : st.finish ≠ .ok true) (hstop : st.step (.plain stop) = .ok st')
    (hloop : ∀ s next, s ≠ .dangling → s ≠ .plain stop → st.step s = .ok next → next = st)
    (hclosing : ∀ s, st.step s ≠ .error .closing)
    (hend : ∀ q c r, q.rest = [] → (f false).run q = .ok (c, r) → ¬(ends ∨ r.rest ≠ []))
    (hfound : ∀ q q', Twin more base R st' q q' → Mirrors R ends (f true) (f' true) q q' post)
    {fuel fuel' : Nat} (hf : p.rest.length < fuel) (hf' : p'.rest.length < fuel')
    (hp : Twin more base R st p p') :
    Mirrors R ends (skipPast stop fuel >>= f) (skipPast stop fuel' >>= f') p p' post := by
  induction fuel generalizing fuel' p p' with
  | zero => omega
  | succ fuel ih =>
    cases fuel' with
    | zero => omega
    | succ fuel' =>
      unfold skipPast
      rw [bind_assoc, bind_assoc]
      refine mirrors_next hoptions hnumber hp hopen ?_ hclosing ?_
      · intro hnil c r h
        exact hend p c r hnil h
      · intro s st₁ q q' hfirst hstep hq hq' htwin
        rw [hq, List.length_cons] at hf
        rw [hq', List.length_cons] at hf'
        by_cases hs : s = .plain stop
        · obtain rfl : st' = st₁ := by
            rw [hs, hstop] at hstep
            exact Except.ok.inj hstep
          simp only [hs, if_true, pure_bind]
          exact hfound q q' htwin
        · obtain rfl := hloop s st₁ hfirst hs hstep
          simp only [hs, if_false]
          exact ih (by omega) (by omega) htwin

end Symbols

/-! ## Groups -/

section Groups

variable {more : List Symbol} {base : Flags} {R : Except Intrusion Bool} {st : Scan}
  {p p' : Progress}

/-- The widths of the groups are the same, each under a number that is one more. -/
theorem Twin.widths_succ (hp : Twin more base R st p p') {index : Nat} (hindex : 0 < index) :
    widths p' (index + 1) = widths p index := by
  obtain ⟨k, rfl⟩ := Nat.exists_eq_succ_of_ne_zero (Nat.pos_iff_ne_zero.mp hindex)
  unfold widths
  rw [hp.groups]
  rfl

theorem Twin.width (hp : Twin more base R st p p') {n n' : Node} (hn : n.ShiftsTo n') :
    n'.width (widths p') = n.width (widths p) := by
  rw [hn.1]
  exact Node.width_renumbered _ _ hn.2 fun _ => hp.widths_succ

/-- The same names are known. -/
theorem Twin.lookup (hp : Twin more base R st p p') (name : String) :
    p'.names.lookup name = (p.names.lookup name).map (· + 1) := by
  rw [hp.names]
  induction p.names with
  | nil => rfl
  | cons e names ih =>
    rw [List.map_cons, List.lookup_cons, List.lookup_cons, ih]
    split <;> rfl

theorem Twin.lookup_pos (hp : Twin more base R st p p') {name : String} {index : Nat}
    (h : p.names.lookup name = some index) : 0 < index :=
  let ⟨before, _, hnames, _⟩ := List.lookup_eq_some_iff.mp h
  hp.numbered (name, index) (hnames ▸ List.mem_append_right before (List.mem_cons_self ..))

theorem mirror_isClosed {index : Nat} (hindex : 0 < index) :
    Mirror more base R st (Same st) (isClosed index)
      (isClosed (index + 1)) := by
  obtain ⟨k, rfl⟩ := Nat.exists_eq_succ_of_ne_zero (Nat.pos_iff_ne_zero.mp hindex)
  refine mirror_get fun p p' hp => ?_
  rw [hp.groups]
  exact mirror_pure ⟨rfl, rfl⟩

theorem mirror_checkBehind {index : Nat} (hindex : 0 < index) :
    Mirror more base R st (fun _ _ next => next = st) (checkBehind index)
      (checkBehind (index + 1)) := by
  refine mirror_get fun p p' hp => ?_
  rw [hp.behindFrom]
  cases p.behindFrom with
  | none => exact mirror_pure rfl
  | some first =>
    refine (mirror_isClosed hindex).bind ?_
    rintro closed _ _ ⟨rfl, rfl⟩
    refine mirror_unless .rfl ((fails_refuse _ _).bind _) ((fails_refuse _ _).bind _) ?_
    exact mirror_unless Nat.succ_le_succ_iff.symm (fails_refuse _ _) (fails_refuse _ _)
      (mirror_pure rfl)

/-- `Mirror` for `enter`: both open the next group. -/
theorem mirror_enter (name : Option (List Char)) :
    Mirror more base R st (fun a a' next => a' = a + 1 ∧ 0 < a ∧ next = st) (enter name)
      (enter name) := by
  intro p p' hp
  have hgroups : p'.groups ++ [none] = none :: (p.groups ++ [none]) := by
    rw [hp.groups, List.cons_append]
  have hindex : p'.groups.length + 1 = p.groups.length + 1 + 1 := by
    rw [hp.groups, List.length_cons]
  cases name with
  | none =>
    have hrun (p : Progress) : (enter none).run p
        = .ok (p.groups.length + 1, { p with groups := p.groups ++ [none] }) := rfl
    exact mirrors_of_run (hrun p) (hrun p')
      ⟨st, ⟨hindex, Nat.succ_pos _, rfl⟩, { hp with groups := hgroups }⟩
  | some cs =>
    unfold enter
    apply mirrors_get
    dsimp only
    rw [hp.lookup]
    cases p.names.lookup (String.ofList cs) with
    | some previous => exact (fails_refuse _ _).mirrors (fails_refuse _ _)
    | none =>
      refine mirrors_of_run rfl rfl ⟨st, ⟨hindex, Nat.succ_pos _, rfl⟩,
        { hp with groups := hgroups, names := ?_, numbered := ?_ }⟩
      · rw [hp.names, hindex, List.map_append]
        rfl
      · intro e he
        rcases List.mem_append.mp he with he | he
        · exact hp.numbered e he
        · rw [List.mem_singleton.mp he]
          exact Nat.succ_pos _

/-- `Mirror` for `leave`: both close the group. -/
theorem mirror_leave {index : Nat} (hindex : 0 < index) {body body' : Node}
    (hbody : body.ShiftsTo body') :
    Mirror more base R st (fun _ _ next => next = st) (leave index body)
      (leave (index + 1) body') := by
  obtain ⟨k, rfl⟩ := Nat.exists_eq_succ_of_ne_zero (Nat.pos_iff_ne_zero.mp hindex)
  intro p p' hp
  refine mirrors_of_run rfl rfl ⟨st, rfl, { hp with groups := ?_ }⟩
  dsimp only
  rw [hp.width hbody, hp.groups]
  rfl

/-- Both note where a look-behind began, or that it has ended. -/
theorem mirror_setBehind {first first' : Progress → Option Nat}
    (h : ∀ p p', Twin more base R st p p' → first' p' = (first p).map (· + 1)) :
    Mirror more base R st (fun _ _ next => next = st)
      (modify fun p => { p with behindFrom := first p })
      (modify fun p => { p with behindFrom := first' p }) := fun p p' hp =>
  mirrors_of_run rfl rfl ⟨st, rfl, { hp with behindFrom := h p p' hp }⟩

end Groups
end Reader
end Regex
end QueryOptions
