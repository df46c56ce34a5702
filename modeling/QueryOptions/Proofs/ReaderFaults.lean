import QueryOptions.Proofs.Beginnings

/-!
# QueryOptions.Proofs.ReaderFaults

What can go wrong while the parts of a text are read. A reader goes on in the text (`Reached`), and
what it finds wrong is a fault of the grammar, or a number of repetitions beyond the limit that
stands in braces of the text (`Blamed`). An alphabet is asked for only where the text has a group of
options with its letter.

* `HugeCount`, `AsksFor`: texts with such braces and with such options;
* `Heeds`, `Follows`: what a step does from a place on, and from every place in a text, with rules
  for how steps are put together;
* `heeds_next`, `heeds_braceBounds`, `heeds_flagGroup`: symbols, braces and options; the rest
  follows from the rules.
-/

namespace QueryOptions
namespace Regex

def braces (inside : List Char) : List Symbol :=
  (Char.ofNat 0x7B :: (inside ++ [Char.ofNat 0x7D])).map .plain

/-- A text with a number of repetitions beyond the limit, alone in its braces or as a bound of a
range. -/
inductive HugeCount (text : List Symbol) : Prop where
  | alone {count : List Char} (hcount : repeatLimit ≤ numeral 10 count)
      (hdigits : count.all isDigit = true) (hbraces : braces count <:+: text)
  | bound {low high : List Char}
      (hcount : repeatLimit ≤ numeral 10 low ∨ repeatLimit ≤ numeral 10 high)
      (hdigits : (low ++ high).all isDigit = true) (hbraces : braces (low ++ ',' :: high) <:+: text)

def optionGroup (letters : List Char) : List Symbol :=
  ('(' :: '?' :: (letters ++ [')'])).map .plain

/-- A text that asks for the option of a letter. -/
def AsksFor (letter : Char) (text : List Symbol) : Prop :=
  ∃ letters, letter ∈ letters ∧ optionGroup letters <:+: text

namespace Reader

variable {α β : Type} {blame : Problem → Prop} {text : List Symbol} {p q : Progress}

/-! ## Steps that go on in a text -/

/-- A problem that a text is to blame for while it is read. -/
def Blamed (text : List Symbol) (problem : Problem) : Prop :=
  problem = .tooManyRepeats ∧ HugeCount text

/-- The reader is somewhere in a text, under no alphabet that the text does not ask for. -/
structure Reached (text : List Symbol) (p : Progress) : Prop where
  rest : p.rest <:+ text
  ascii : p.flags.ascii = true → AsksFor 'a' text
  unicode : p.flags.unicode = true → AsksFor 'u' text

/-- From here the step ends as told, in a fault of the text, or in a problem that is put so. -/
def Heeds (blame : Problem → Prop) (m : Reader α) (p : Progress) (post : α → Progress → Prop) :
    Prop :=
  match m.run p with
  | .ok (a, q) => post a q
  | .error (.fault _) => True
  | .error problem => blame problem

/-- The step goes on in the text, or ends in a problem of it. -/
def Follows (text : List Symbol) (m : Reader α) : Prop :=
  ∀ p, Reached text p → Heeds (Blamed text) m p fun _ => Reached text

/-- A step that ends in a fault. -/
def Refuses (m : Reader α) : Prop := ∀ p, ∃ f, m.run p = .error (.fault f)

/-- The symbols between two places, under the same options. -/
structure Passed (p : Progress) (between : List Symbol) (q : Progress) : Prop where
  rest : p.rest = between ++ q.rest
  flags : q.flags = p.flags

theorem Passed.refl (p : Progress) : Passed p [] p := ⟨rfl, rfl⟩

theorem Passed.trans {r : Progress} {between more : List Symbol} (h : Passed p between q)
    (h' : Passed q more r) : Passed p (between ++ more) r :=
  ⟨by rw [h.rest, h'.rest, List.append_assoc], h'.flags.trans h.flags⟩

theorem Reached.drop {between : List Symbol} (h : Reached text p) (hq : Passed p between q) :
    Reached text q where
  rest := by
    refine .trans ?_ h.rest
    rw [hq.rest]
    exact List.suffix_append _ _
  ascii := hq.flags ▸ h.ascii
  unicode := hq.flags ▸ h.unicode

theorem Reached.stay (h : Reached text p) (hrest : q.rest = p.rest) (hflags : q.flags = p.flags) :
    Reached text q :=
  ⟨hrest ▸ h.rest, hflags ▸ h.ascii, hflags ▸ h.unicode⟩

section Heeds

variable {m n : Reader α} {k : α → Reader β} {post mid : α → Progress → Prop}
  {last : β → Progress → Prop}

theorem heeds_pure {a : α} (h : post a p) : Heeds blame (pure a) p post := h

theorem heeds_get {f : Progress → Reader β} (h : Heeds blame (f p) p last) :
    Heeds blame (get >>= f) p last := h

theorem heeds_set_pure {a : α} (h : post a q) : Heeds blame (do set q; return a) p post := h

theorem heeds_ite {c : Prop} [Decidable c] (hm : c → Heeds blame m p post)
    (hn : ¬c → Heeds blame n p post) : Heeds blame (if c then m else n) p post := by
  split <;> rename_i hc
  · exact hm hc
  · exact hn hc

theorem Heeds.bind (hm : Heeds blame m p mid) (hk : ∀ a q, mid a q → Heeds blame (k a) q last) :
    Heeds blame (m >>= k) p last := by
  unfold Heeds at hm ⊢
  rw [StateT.run_bind]
  cases hrun : m.run p with
  | ok r =>
    rw [hrun] at hm
    exact hk r.1 r.2 hm
  | error problem =>
    rw [hrun] at hm
    cases problem <;> exact hm

theorem Heeds.mono {blame' : Problem → Prop} (h : Heeds blame m p mid)
    (hpost : ∀ a q, m.run p = .ok (a, q) → mid a q → post a q)
    (hblame : ∀ problem, blame problem → blame' problem) : Heeds blame' m p post := by
  unfold Heeds at h ⊢
  cases hrun : m.run p with
  | ok r =>
    rw [hrun] at h
    exact hpost r.1 r.2 hrun h
  | error problem =>
    rw [hrun] at h
    cases problem with
    | fault f => trivial
    | _ => exact hblame _ h

theorem Heeds.imp (h : Heeds blame m p mid) (hpost : ∀ a q, mid a q → post a q) :
    Heeds blame m p post :=
  h.mono (fun a q _ => hpost a q) fun _ => id

theorem refuses_refuse (reason : Reason) (offset : Nat) :
    Refuses (refuse reason offset : Reader α) :=
  fun _ => ⟨_, rfl⟩

theorem refuses_refuseAt (reason : Reason) (position : Nat) :
    Refuses (refuseAt reason position : Reader α) :=
  fun _ => ⟨_, rfl⟩

theorem Refuses.bind (h : Refuses m) (k : α → Reader β) : Refuses (m >>= k) := by
  intro p
  obtain ⟨f, hf⟩ := h p
  exact ⟨f, by rw [StateT.run_bind, hf]; rfl⟩

theorem Heeds.ends {a : α} (h : Heeds blame m p post) (hrun : m.run p = .ok (a, q)) : post a q := by
  unfold Heeds at h
  rw [hrun] at h
  exact h

theorem Refuses.heeds (h : Refuses m) : Heeds blame m p post := by
  obtain ⟨f, hf⟩ := h p
  unfold Heeds
  rw [hf]
  trivial

end Heeds

section Follows

variable {m n : Reader α} {k : α → Reader β}

theorem follows_pure (a : α) : Follows text (pure a) := fun _ hp => heeds_pure hp

theorem Follows.bind (hm : Follows text m) (hk : ∀ a, Follows text (k a)) :
    Follows text (m >>= k) :=
  fun p hp => (hm p hp).bind fun a q hq => hk a q hq

theorem follows_get {f : Progress → Reader β} (h : ∀ p, Follows text (f p)) :
    Follows text (get >>= f) :=
  fun p hp => heeds_get (h p p hp)

theorem follows_ite {c : Prop} [Decidable c] (hm : Follows text m) (hn : Follows text n) :
    Follows text (if c then m else n) := by
  split
  · exact hm
  · exact hn

theorem Follows.heeds (h : Follows text m) (hp : Reached text p) :
    Heeds (Blamed text) m p fun _ => Reached text :=
  h p hp

theorem Refuses.follows (h : Refuses m) : Follows text m := fun _ _ => h.heeds

/-- A step that changes neither the place nor the options. -/
theorem follows_modify {f : Progress → Progress} (hrest : ∀ p, (f p).rest = p.rest)
    (hflags : ∀ p, (f p).flags = p.flags) : Follows text (modify f) := by
  intro p hp
  have hq : Reached text (f p) := hp.stay (hrest p) (hflags p)
  exact hq

end Follows

/-! ## Symbols -/

theorem heeds_checkDangling : Heeds blame checkDangling p fun _ q => q = p := by
  unfold checkDangling
  apply heeds_get
  split
  · exact (refuses_refuse _ _).heeds
  · exact heeds_pure rfl

theorem heeds_next :
    Heeds blame next p fun a q => a = p.rest.head? ∧ Passed p a.toList q := by
  unfold next
  apply heeds_get
  split
  · rename_i hrest
    exact heeds_pure ⟨hrest ▸ rfl, .refl p⟩
  · rename_i s rest hrest
    let moved : Progress := { p with rest, position := p.position + s.size }
    have hmoved : Heeds blame (set moved) p fun _ q => q = moved := rfl
    refine hmoved.bind fun _ q hq => heeds_checkDangling.bind fun _ r hr => ?_
    subst hr hq
    exact heeds_pure ⟨hrest ▸ rfl, hrest, rfl⟩

theorem follows_next : Follows text next := fun _ hp =>
  heeds_next.imp fun _ _ hq => hp.drop hq.2

theorem heeds_accept (c : Char) :
    Heeds blame (accept c) p fun b q => Passed p (if b then [.plain c] else []) q := by
  unfold accept
  apply heeds_get
  split
  · rename_i d rest hrest
    refine heeds_ite (fun hc => heeds_next.bind fun a q hq => ?_) fun _ => heeds_pure (.refl p)
    subst hc
    obtain ⟨rfl, hpassed⟩ := hq
    rw [hrest] at hpassed
    exact heeds_pure hpassed
  · exact heeds_pure (.refl p)

theorem follows_accept (c : Char) : Follows text (accept c) := fun _ hp =>
  (heeds_accept c).imp fun _ _ hq => hp.drop hq

/-- Characters of a class that come next. -/
theorem heeds_takeClass (inClass : Char → Bool) (n : Nat) :
    Heeds blame (takeClass inClass n) p fun taken q =>
      taken.all inClass = true ∧ Passed p (taken.map .plain) q := by
  induction n generalizing p with
  | zero => exact heeds_pure ⟨rfl, .refl p⟩
  | succ n ih =>
    apply heeds_get
    split
    · rename_i c rest hrest
      refine heeds_ite (fun hc => heeds_next.bind fun a q hq => ih.bind fun taken r hr => ?_)
        fun _ => heeds_pure ⟨rfl, .refl p⟩
      obtain ⟨rfl, hpassed⟩ := hq
      rw [hrest] at hpassed
      refine heeds_pure ⟨?_, hpassed.trans hr.2⟩
      rw [List.all_cons, hc, hr.1]
      rfl
    · exact heeds_pure ⟨rfl, .refl p⟩

theorem follows_takeClass (inClass : Char → Bool) (n : Nat) : Follows text (takeClass inClass n) :=
  fun _ hp => (heeds_takeClass inClass n).imp fun _ _ hq => hp.drop hq.2

theorem follows_takeUntil (terminator : Char) (what : String) (fuel : Nat) (taken : List Char) :
    Follows text (takeUntil terminator what fuel taken) := by
  induction fuel generalizing taken with
  | zero => exact (refuses_refuse _ _).follows
  | succ fuel ih =>
    refine follows_next.bind fun s => ?_
    cases s with
    | none => exact follows_ite (refuses_refuse _ _).follows (refuses_refuse _ _).follows
    | some s =>
      refine follows_ite ?_ (ih _)
      exact follows_ite (refuses_refuse _ _).follows (follows_pure _)

theorem follows_nameUntil (terminator : Char) (what : String) :
    Follows text (nameUntil terminator what) :=
  follows_get fun _ => follows_takeUntil terminator what _ []

theorem follows_skipPast (stop : Char) (fuel : Nat) : Follows text (skipPast stop fuel) := by
  induction fuel with
  | zero => exact follows_pure _
  | succ fuel ih =>
    refine follows_next.bind fun s => ?_
    cases s with
    | none => exact follows_pure _
    | some s => exact follows_ite (follows_pure _) ih

/-! ## Groups that were read -/

theorem follows_isClosed (index : Nat) : Follows text (isClosed index) :=
  follows_get fun _ => follows_pure _

theorem follows_groupCount : Follows text groupCount := follows_get fun _ => follows_pure _

theorem follows_enter (name : Option (List Char)) : Follows text (enter name) := by
  intro p hp
  apply heeds_get
  cases name with
  | none => exact heeds_set_pure (hp.stay rfl rfl)
  | some cs =>
    dsimp only
    split
    · exact (refuses_refuse _ _).heeds
    · exact heeds_set_pure (hp.stay rfl rfl)

theorem follows_leave (index : Nat) (body : Node) : Follows text (leave index body) :=
  follows_modify (fun _ => rfl) fun _ => rfl

theorem follows_checkBehind (index : Nat) : Follows text (checkBehind index) := by
  refine follows_get fun p => ?_
  split
  · exact follows_pure _
  · refine (follows_isClosed index).bind fun _ => ?_
    refine follows_ite ((refuses_refuse _ _).bind _).follows ?_
    exact follows_ite (refuses_refuse _ _).follows (follows_pure _)

/-! ## Escapes and sets -/

theorem follows_hexCode (letter : Char) (count : Nat) : Follows text (hexCode letter count) := by
  refine (follows_takeClass isHex count).bind fun _ => ?_
  refine follows_ite ((refuses_refuse _ _).bind _).follows ?_
  exact follows_ite ((refuses_refuse _ _).bind _).follows (follows_pure _)

theorem follows_namedCode : Follows text namedCode := by
  refine (follows_accept _).bind fun _ => ?_
  refine follows_ite ((refuses_refuse _ _).bind _).follows ?_
  refine (follows_nameUntil _ _).bind fun _ => ?_
  split
  · exact (refuses_refuse _ _).follows
  · exact follows_pure _

theorem follows_longEscape {c : Char} {code : Reader Nat} (h : longEscape? c = some code) :
    Follows text code := by
  unfold longEscape? at h
  split at h <;> cases h
  · exact follows_hexCode 'x' 2
  · exact follows_hexCode 'u' 4
  · exact follows_hexCode 'U' 8
  · exact follows_namedCode

theorem follows_selfEscape (c : Char) : Follows text (selfEscape c) :=
  follows_ite ((refuses_refuse _ _).bind _).follows (follows_pure _)

theorem follows_octalCode (digits : List Char) : Follows text (octalCode digits) :=
  follows_ite ((refuses_refuse _ _).bind _).follows (follows_pure _)

theorem follows_setEscape (scope : Flags) (c : Char) : Follows text (setEscape scope c) := by
  unfold setEscape
  split
  · exact follows_pure _
  split
  · exact follows_pure _
  split
  · rename_i code hcode
    exact (follows_longEscape hcode).bind fun _ => follows_pure _
  refine follows_ite ?_ (follows_ite (refuses_refuse _ _).follows ?_)
  · refine (follows_takeClass isOctal 2).bind fun _ => ?_
    exact (follows_octalCode _).bind fun _ => follows_pure _
  · exact (follows_selfEscape c).bind fun _ => follows_pure _

theorem follows_numberedReference (scope : Flags) (digits : List Char) :
    Follows text (numberedReference scope digits) := by
  refine follows_groupCount.bind fun _ => ?_
  refine follows_ite ((refuses_refuse _ _).bind _).follows ?_
  refine (follows_isClosed _).bind fun _ => ?_
  refine follows_ite ((refuses_refuse _ _).bind _).follows ?_
  exact (follows_checkBehind _).bind fun _ => follows_pure _

theorem follows_digitEscape (scope : Flags) (c : Char) : Follows text (digitEscape scope c) := by
  refine (follows_takeClass isDigit 1).bind fun _ => ?_
  split
  · exact follows_numberedReference scope _
  refine follows_ite ?_ (follows_numberedReference scope _)
  refine (follows_takeClass isOctal 1).bind fun _ => ?_
  split
  · exact follows_numberedReference scope _
  · exact (follows_octalCode _).bind fun _ => follows_pure _

theorem follows_escape (scope : Flags) (c : Char) : Follows text (escape scope c) := by
  unfold escape
  split
  · exact follows_pure _
  split
  · exact follows_pure _
  split
  · exact follows_pure _
  split
  · rename_i code hcode
    exact (follows_longEscape hcode).bind fun _ => follows_pure _
  refine follows_ite ?_ (follows_ite (follows_digitEscape scope c) ?_)
  · exact (follows_takeClass isOctal 2).bind fun _ => follows_pure _
  · exact (follows_selfEscape c).bind fun _ => follows_pure _

theorem follows_setMember (scope : Flags) (s : Symbol) : Follows text (setMember scope s) := by
  cases s with
  | plain c => exact follows_pure _
  | escaped c => exact follows_setEscape scope c
  | dangling => exact (refuses_refuse _ _).follows

theorem follows_setItems (scope : Flags) (start fuel : Nat) (items : List SetItem) :
    Follows text (setItems scope start fuel items) := by
  induction fuel generalizing items with
  | zero => exact (refuses_refuseAt _ _).follows
  | succ fuel ih =>
    refine follows_next.bind fun low => ?_
    cases low with
    | none => exact (refuses_refuseAt _ _).follows
    | some low =>
      refine follows_ite (follows_pure _) ((follows_setMember scope low).bind fun first => ?_)
      refine (follows_accept '-').bind fun _ =>
        follows_ite (follows_next.bind fun high => ?_) (ih _)
      cases high with
      | none => exact (refuses_refuseAt _ _).follows
      | some high =>
        refine follows_ite (follows_pure _) ((follows_setMember scope high).bind fun second => ?_)
        dsimp only
        split
        · exact follows_ite ((refuses_refuse _ _).bind _).follows (ih _)
        · exact (refuses_refuse _ _).follows

theorem follows_characterSet (scope : Flags) : Follows text (characterSet scope) := by
  refine follows_get fun _ => (follows_accept '^').bind fun _ => follows_get fun _ => ?_
  refine (follows_setItems scope _ _ []).bind fun _ => ?_
  split <;> exact follows_pure _

/-! ## Repetitions -/

theorem follows_appetite : Follows text appetite := by
  refine (follows_accept '?').bind fun _ => follows_ite (follows_pure _) ?_
  exact (follows_accept '+').bind fun _ => follows_ite (follows_pure _) (follows_pure _)

theorem follows_repetition (start least : Nat) (most : Option Nat) (items : List Item) :
    Follows text (repetition start least most items) := by
  unfold repetition
  split
  · exact (refuses_refuseAt _ _).follows
  · exact (refuses_refuseAt _ _).follows
  · exact (refuses_refuseAt _ _).follows
  · exact follows_appetite.bind fun _ => follows_pure _

/-- The upper bound in braces: it is the lower one, or comes after a comma. -/
theorem heeds_upperBound (low : List Char) (n : Nat) :
    Heeds blame (do if ← accept ',' then takeClass isDigit n else return low) p fun high q =>
      (high = low ∧ Passed p [] q) ∨
        (high.all isDigit = true ∧ Passed p ((',' :: high).map .plain) q) := by
  refine (heeds_accept ',').bind fun isRange q hq => ?_
  cases isRange with
  | false => exact heeds_pure (.inl ⟨rfl, hq⟩)
  | true =>
    refine (heeds_takeClass isDigit n).imp fun high r hr => .inr ⟨hr.1, ?_⟩
    exact hq.trans hr.2

/-- Bounds in braces: what is beyond the limit is one of them. -/
theorem heeds_braceBounds (hp : Reached text p)
    (hbrace : .plain (Char.ofNat 0x7B) :: p.rest <:+ text) :
    Heeds (Blamed text) braceBounds p fun _ => Reached text := by
  apply heeds_get
  refine heeds_ite (fun _ => heeds_pure hp) fun _ => ?_
  refine (heeds_takeClass isDigit _).bind ?_
  rintro low q ⟨hlow, hq⟩
  refine (heeds_upperBound low _).bind fun high r hhigh => ?_
  refine (heeds_accept _).bind fun isClosed s hs => ?_
  refine heeds_ite (fun _ => heeds_set_pure hp) fun hclosed => ?_
  obtain rfl : isClosed = true := by simpa using hclosed
  have hbraces {inside : List Char} (hr : Passed p (inside.map .plain) r) :
      braces inside <:+: text := by
    have hwhole := (hr.trans hs).rest
    rw [hwhole] at hbrace
    refine .trans ⟨[], s.rest, ?_⟩ hbrace.isInfix
    simp [braces]
  have hhuge (hcount : repeatLimit ≤ numeral 10 low ∨ repeatLimit ≤ numeral 10 high) :
      HugeCount text := by
    rcases hhigh with ⟨rfl, hr⟩ | ⟨hdigits, hr⟩
    · have hr := hq.trans hr
      rw [List.append_nil] at hr
      exact .alone (or_self_iff.mp hcount) hlow (hbraces hr)
    · have hr := hq.trans hr
      rw [← List.map_append] at hr
      refine .bound hcount ?_ (hbraces hr)
      rw [List.all_append, hlow, hdigits]
      rfl
  have hs : Reached text s := by
    rcases hhigh with ⟨-, hr⟩ | ⟨-, hr⟩ <;> exact ((hp.drop hq).drop hr).drop hs
  refine heeds_ite (fun hcount => ?_) fun _ => heeds_ite (fun _ => heeds_pure hs) fun _ =>
    heeds_ite (fun hcount => ?_) fun _ => heeds_ite (fun _ => ?_) fun _ => heeds_pure hs
  · rw [Bool.and_eq_true, decide_eq_true_eq] at hcount
    exact ⟨rfl, hhuge (.inl hcount.2)⟩
  · exact ⟨rfl, hhuge (.inr hcount)⟩
  · exact ((refuses_refuseAt _ _).bind _).heeds

theorem heeds_bounds {c : Char} (hp : Reached text p) (hc : .plain c :: p.rest <:+ text)
    (hother : c = '?' ∨ c = '*' ∨ c = '+' ∨ c = Char.ofNat 0x7B) :
    Heeds (Blamed text) (bounds c) p fun _ => Reached text := by
  refine heeds_ite (fun _ => heeds_pure hp) fun hone =>
    heeds_ite (fun _ => heeds_pure hp) fun hany =>
    heeds_ite (fun _ => heeds_pure hp) fun hsome => heeds_braceBounds hp ?_
  rw [((hother.resolve_left hone).resolve_left hany).resolve_left hsome] at hc
  exact hc

/-! ## Options -/

theorem follows_removedFlags (fuel : Nat) (removed : Flags) :
    Follows text (removedFlags fuel removed) := by
  induction fuel generalizing removed with
  | zero => exact (refuses_refuse _ _).follows
  | succ fuel ih =>
    refine follows_next.bind fun s => ?_
    cases s with
    | none => exact (refuses_refuse _ _).follows
    | some s =>
      refine follows_ite (follows_pure _) ?_
      split
      · exact (refuses_refuse _ _).follows
      · exact follows_ite ((refuses_refuse _ _).bind _).follows (ih _)

theorem follows_minusFlags : Follows text minusFlags := by
  refine follows_next.bind fun s => ?_
  cases s with
  | none => exact (refuses_refuse _ _).follows
  | some s =>
    dsimp only
    split
    · exact (refuses_refuse _ _).follows
    · refine follows_ite ((refuses_refuse _ _).bind _).follows (follows_get fun _ => ?_)
      exact follows_removedFlags _ _

/-- The alphabets among some options are those of their letters. -/
def Lettered (letters : List Char) (f : Flags) : Prop :=
  (f.ascii = true → 'a' ∈ letters) ∧ (f.unicode = true → 'u' ∈ letters)

theorem lettered_of_flag {c : Char} {f : Flags} (h : flag? c = some f) : Lettered [c] f := by
  unfold flag? at h
  split at h <;> cases h <;> exact ⟨by decide, by decide⟩

theorem Lettered.union {letters more : List Char} {f g : Flags} (hf : Lettered letters f)
    (hg : Lettered more g) : Lettered (letters ++ more) (f.union g) := by
  constructor
  · intro h
    exact List.mem_append.mpr ((Bool.or_eq_true_iff.mp h).imp hf.1 hg.1)
  · intro h
    exact List.mem_append.mpr ((Bool.or_eq_true_iff.mp h).imp hf.2 hg.2)

theorem plain_of_flag {s : Symbol} {c : Char} {f : Flags} (h : s.flag? = some (c, f)) :
    s = .plain c ∧ flag? c = some f := by
  cases s with
  | plain d =>
    obtain ⟨g, hg, heq⟩ := Option.map_eq_some_iff.mp h
    cases heq
    exact ⟨rfl, hg⟩
  | _ => cases h

/-- Options that are turned on are given by their letters, up to the symbol that ends them. -/
theorem heeds_addedFlags (fuel : Nat) {c : Char} {f added : Flags} {letters : List Char}
    (hc : flag? c = some f) (hadded : Lettered letters added) :
    Heeds blame (addedFlags fuel c f added) p fun a q =>
      ∃ more, Passed p ((more ++ [a.2]).map .plain) q ∧ Lettered (letters ++ c :: more) a.1 := by
  induction fuel generalizing c f added letters p with
  | zero => exact (refuses_refuse _ _).heeds
  | succ fuel ih =>
    have hall := hadded.union (lettered_of_flag hc)
    refine heeds_ite (fun _ => ((refuses_refuse _ _).bind _).heeds) fun _ => ?_
    refine heeds_ite (fun _ => ((refuses_refuse _ _).bind _).heeds) fun _ => ?_
    refine heeds_next.bind fun a q hq => ?_
    cases a with
    | none => exact (refuses_refuse _ _).heeds
    | some s =>
      have hends (stop : Char) (hs : s = .plain stop) :
          Heeds blame (pure (added.union f, stop) : Reader (Flags × Char)) q fun a q =>
            ∃ more, Passed p ((more ++ [a.2]).map .plain) q ∧ Lettered (letters ++ c :: more) a.1 :=
        heeds_pure ⟨[], by rw [hs] at hq; exact hq.2, hall⟩
      refine heeds_ite (hends _) fun _ => heeds_ite (hends _) fun _ => ?_
      refine heeds_ite (hends _) fun _ => ?_
      split
      · exact (refuses_refuse _ _).heeds
      · rename_i d g hflag
        obtain ⟨rfl, hd⟩ := plain_of_flag hflag
        refine (ih hd hall).imp ?_
        rintro a r ⟨more, hr, hletters⟩
        refine ⟨d :: more, hq.2.trans hr, ?_⟩
        rw [List.append_assoc] at hletters
        exact hletters

/-- Options for the whole expression are asked for where they are turned on. -/
theorem heeds_flagGroup {c : Char} {f : Flags} (hp : Reached text p)
    (hopened : .plain '(' :: .plain '?' :: .plain c :: p.rest <:+ text)
    (hc : c = '-' ∨ flag? c = some f) :
    Heeds (Blamed text) (flagGroup c f) p fun _ => Reached text := by
  have hadded : Heeds (Blamed text)
      (do
        if c = '-' then return (({} : Flags), '-')
        else addedFlags ((← get).rest.length + 1) c f {}) p fun a q =>
        Reached text q ∧ (a.2 = ')' →
          (a.1.ascii = true → AsksFor 'a' text) ∧ (a.1.unicode = true → AsksFor 'u' text)) := by
    refine heeds_ite (fun _ => heeds_pure ⟨hp, nofun⟩) fun hdash => heeds_get ?_
    have hnone : Lettered [] {} := ⟨nofun, nofun⟩
    refine (heeds_addedFlags _ (hc.resolve_left hdash) hnone).imp ?_
    rintro ⟨all, stop⟩ q ⟨more, hq, hletters⟩
    refine ⟨hp.drop hq, ?_⟩
    rintro rfl
    have hgroup : optionGroup (c :: more) <:+: text := by
      rw [hq.rest] at hopened
      refine .trans ⟨[], q.rest, ?_⟩ hopened.isInfix
      simp [optionGroup]
    exact ⟨fun h => ⟨_, hletters.1 h, hgroup⟩, fun h => ⟨_, hletters.2 h, hgroup⟩⟩
  refine hadded.bind ?_
  rintro ⟨added, stop⟩ q ⟨hq, hasked⟩
  refine heeds_ite (fun hstop => ?_) fun _ => Follows.heeds ?_ hq
  · obtain ⟨hascii, hunicode⟩ := hasked hstop
    have hunion : Reached text { q with flags := q.flags.union added } := by
      refine ⟨hq.rest, fun h => ?_, fun h => ?_⟩
      · exact (Bool.or_eq_true_iff.mp h).elim hq.ascii hascii
      · exact (Bool.or_eq_true_iff.mp h).elim hq.unicode hunicode
    exact hunion
  · refine follows_ite ((refuses_refuse _ _).bind _).follows ?_
    refine follows_ite (follows_pure _) (follows_minusFlags.bind fun _ => ?_)
    refine follows_ite ((refuses_refuse _ _).bind _).follows ?_
    exact follows_ite ((refuses_refuse _ _).bind _).follows (follows_pure _)

end Reader
end Regex
end QueryOptions
