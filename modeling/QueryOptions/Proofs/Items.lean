import QueryOptions.Proofs.ParallelReaders
import QueryOptions.Proofs.Enclosed
import QueryOptions.Proofs.GrammarSteps

/-!
# QueryOptions.Proofs.Items

Items of a regular expression, read by two readers side by side, of whom one reads the expression
inside of one more group. Characters, sets, bounds and options are the same to both. What a
reference refers to may differ: a number is that of another group, and a group has another number.

* `agree_escape`, `agree_characterSet`: escapes and sets;
* `agree_braceBounds`, `agree_repetition`: what is repeated, and how often;
* `inStep_flagGroup`, `agree_opening`: what an opening parenthesis announces.
-/

namespace QueryOptions
namespace Regex
namespace Reader

variable {more : List Symbol} {base : Flags}

/-! ## Escapes -/

theorem agree_hexCode (letter : Char) (count : Nat) :
    Agree more base Eq (hexCode letter count) (hexCode letter count) := by
  refine (agree_takeClass rfl count).bind ?_
  rintro digits _ rfl
  refine agree_unless ((fails_refuse _ _).bind _) ((fails_refuse _ _).bind _) ?_
  exact agree_unless ((fails_refuse _ _).bind _) ((fails_refuse _ _).bind _) (agree_pure rfl)

theorem agree_namedCode : Agree more base Eq namedCode namedCode := by
  refine (agree_accept (by decide)).bind ?_
  rintro opened _ rfl
  refine agree_unless ((fails_refuse _ _).bind _) ((fails_refuse _ _).bind _) ?_
  refine (agree_nameUntil _ _).bind ?_
  rintro name _ rfl
  split
  · exact (fails_refuse _ _).agree
  · exact agree_pure rfl

theorem agree_longEscape {c : Char} {code : Reader Nat} (h : longEscape? c = some code) :
    Agree more base Eq code code := by
  unfold longEscape? at h
  split at h <;> cases h
  · exact agree_hexCode 'x' 2
  · exact agree_hexCode 'u' 4
  · exact agree_hexCode 'U' 8
  · exact agree_namedCode

theorem agree_selfEscape (c : Char) : Agree more base Eq (selfEscape c) (selfEscape c) :=
  agree_unless ((fails_refuse _ _).bind _) ((fails_refuse _ _).bind _) (agree_pure rfl)

theorem agree_octalCode (digits : List Char) :
    Agree more base Eq (octalCode digits) (octalCode digits) :=
  agree_unless ((fails_refuse _ _).bind _) ((fails_refuse _ _).bind _) (agree_pure rfl)

theorem agree_setEscape (scope : Flags) (c : Char) :
    Agree more base Eq (setEscape scope c) (setEscape scope c) := by
  unfold setEscape
  split
  · exact agree_pure rfl
  split
  · exact agree_pure rfl
  split
  · rename_i code hcode
    refine (agree_longEscape hcode).bind ?_
    rintro code _ rfl
    exact agree_pure rfl
  refine agree_ite (fun _ => ?_) fun _ => agree_ite (fun _ => (fails_refuse _ _).agree) fun _ => ?_
  · refine (agree_takeClass rfl 2).bind ?_
    rintro digits _ rfl
    refine (agree_octalCode _).bind ?_
    rintro code _ rfl
    exact agree_pure rfl
  · refine (agree_selfEscape c).bind ?_
    rintro code _ rfl
    exact agree_pure rfl

/-- A reference by a number is to that number in both texts. -/
theorem agree_numberedReference (scope : Flags) (digits : List Char) :
    Agree more base Piece.EnclosedAs (numberedReference scope digits)
      (numberedReference scope digits) := by
  refine (stays_groupCount.agree stays_groupCount).bind fun count count' _ => ?_
  refine agree_unless ((fails_refuse _ _).bind _) ((fails_refuse _ _).bind _) ?_
  refine ((stays_isClosed _).agree (stays_isClosed _)).bind fun closed closed' _ => ?_
  refine agree_unless ((fails_refuse _ _).bind _) ((fails_refuse _ _).bind _) ?_
  exact ((stays_checkBehind _).agree (stays_checkBehind _)).bind fun _ _ _ =>
    agree_pure (.back _ _ _)

theorem agree_digitEscape (scope : Flags) (c : Char) :
    Agree more base Piece.EnclosedAs (digitEscape scope c) (digitEscape scope c) := by
  refine (agree_takeClass rfl 1).bind ?_
  rintro digits _ rfl
  split
  · exact agree_numberedReference scope _
  refine agree_ite (fun _ => ?_) fun _ => agree_numberedReference scope _
  refine (agree_takeClass rfl 1).bind ?_
  rintro digits _ rfl
  split
  · exact agree_numberedReference scope _
  · refine (agree_octalCode _).bind ?_
    rintro code _ rfl
    exact agree_pure (.test _)

theorem agree_escape (scope : Flags) (c : Char) :
    Agree more base Piece.EnclosedAs (escape scope c) (escape scope c) := by
  unfold escape
  split
  · exact agree_pure (.place _ _)
  split
  · exact agree_pure (.test _)
  split
  · exact agree_pure (.test _)
  split
  · rename_i code hcode
    refine (agree_longEscape hcode).bind ?_
    rintro code _ rfl
    exact agree_pure (.test _)
  refine agree_ite (fun _ => ?_) fun _ => agree_ite (fun _ => agree_digitEscape scope c) fun _ => ?_
  · refine (agree_takeClass rfl 2).bind ?_
    rintro digits _ rfl
    exact agree_pure (.test _)
  · refine (agree_selfEscape c).bind ?_
    rintro code _ rfl
    exact agree_pure (.test _)

/-! ## Sets -/

theorem agree_setMember (scope : Flags) (s : Symbol) :
    Agree more base Eq (setMember scope s) (setMember scope s) := by
  cases s with
  | plain c => exact agree_pure rfl
  | escaped c => exact agree_setEscape scope c
  | dangling => exact (fails_refuse _ _).agree

theorem agree_setItems (scope : Flags) (start start' fuel fuel' : Nat) (items : List SetItem) :
    Agree more base Eq (setItems scope start fuel items) (setItems scope start' fuel' items) := by
  induction fuel generalizing fuel' items with
  | zero => exact (fails_refuseAt _ _).agree
  | succ fuel ih =>
    cases fuel' with
    | zero => exact (fails_refuseAt _ _).agree_right
    | succ fuel' =>
      refine agree_next (fails_refuseAt _ _) fun low => ?_
      refine agree_ite (fun _ => agree_pure rfl) fun _ => ?_
      refine (agree_setMember scope low).bind ?_
      rintro first _ rfl
      refine (agree_accept (by decide)).bind ?_
      rintro isSpan _ rfl
      refine agree_ite (fun _ => ?_) fun _ => ih fuel' _
      refine agree_next (fails_refuseAt _ _) fun high => ?_
      refine agree_ite (fun _ => agree_pure rfl) fun _ => ?_
      refine (agree_setMember scope high).bind ?_
      rintro second _ rfl
      dsimp only
      split
      · exact agree_unless ((fails_refuse _ _).bind _) ((fails_refuse _ _).bind _) (ih fuel' _)
      · exact (fails_refuse _ _).agree

theorem agree_characterSet (scope : Flags) :
    Agree more base Piece.EnclosedAs (characterSet scope) (characterSet scope) := by
  refine agree_get fun _ _ => (agree_accept (by decide)).bind ?_
  rintro negated _ rfl
  refine agree_get fun _ _ => (agree_setItems scope _ _ _ _ []).bind ?_
  rintro items _ rfl
  split <;> exact agree_pure (.test _)

/-! ## Repetition -/

theorem agree_appetite : Agree more base Eq appetite appetite := by
  refine (agree_accept (by decide)).bind ?_
  rintro isLazy _ rfl
  refine agree_ite (fun _ => agree_pure rfl) fun _ => (agree_accept (by decide)).bind ?_
  rintro isPossessive _ rfl
  exact agree_ite (fun _ => agree_pure rfl) fun _ => agree_pure rfl

theorem agree_braceBounds : Agree more base Eq braceBounds braceBounds := by
  intro p p' hp
  apply inStep_get
  -- The braces are bounds for both or for neither.
  have hbrace : p.rest.head? = some (.plain (Char.ofNat 0x7D)) ↔
      p'.rest.head? = some (.plain (Char.ofNat 0x7D)) := by
    rcases hp.head with ⟨hnil, hclose⟩ | ⟨s, rest, rest', hrest, hrest'⟩
    · rw [hnil, hclose]
      exact iff_of_false nofun (by simp)
    · rw [hrest, hrest']
      rfl
  have hclose : isDigit ')' = false := rfl
  have hdigits {n n' : Nat} {q q' : Progress} (hn : q.rest.length ≤ n) (hn' : q'.rest.length ≤ n')
      (hq : Abreast more base q q') :=
    inStep_takeClass hclose (.inr ⟨hn, hn'⟩) hq
  dsimp only
  rw [if_congr hbrace rfl rfl]
  split
  · exact inStep_pure ⟨rfl, hp⟩
  refine ((hdigits (Nat.le_refl _) (Nat.le_refl _) hp).advance (advances_takeClass _ _)
    (advances_takeClass _ _)).bind ?_
  rintro low q _ q' ⟨⟨rfl, hq⟩, hle, hle'⟩
  have hhigh : InStep
      (do if ← accept ',' then takeClass isDigit p.rest.length else return low)
      (do if ← accept ',' then takeClass isDigit p'.rest.length else return low) q q'
      fun a r a' r' => a = a' ∧ Abreast more base r r' := by
    refine ((agree_accept (by decide) q q' hq).advance (advances_accept _)
      (advances_accept _)).bind ?_
    rintro isOpen r _ r' ⟨⟨rfl, hr⟩, hle₂, hle₂'⟩
    split
    · exact hdigits (Nat.le_trans hle₂ hle) (Nat.le_trans hle₂' hle') hr
    · exact inStep_pure ⟨rfl, hr⟩
  refine hhigh.bind ?_
  rintro high r _ r' ⟨rfl, hr⟩
  refine (agree_accept (by decide) r r' hr).bind ?_
  rintro isClosed s _ s' ⟨rfl, hs⟩
  split
  · rintro _ _ _ _ ⟨⟩ ⟨⟩
    exact ⟨rfl, hp⟩
  refine agree_unless ((fails_throw _).bind _) ((fails_throw _).bind _) ?_ s s' hs
  refine agree_ite (fun _ => agree_pure rfl) fun _ => ?_
  refine agree_unless ((fails_throw _).bind _) ((fails_throw _).bind _) ?_
  exact agree_unless ((fails_refuseAt _ _).bind _) ((fails_refuseAt _ _).bind _) (agree_pure rfl)

theorem agree_bounds (c : Char) : Agree more base Eq (bounds c) (bounds c) :=
  agree_ite (fun _ => agree_pure rfl) fun _ => agree_ite (fun _ => agree_pure rfl) fun _ =>
    agree_ite (fun _ => agree_pure rfl) fun _ => agree_braceBounds

/-- What was read last is repeated by both. -/
theorem agree_repetition (start start' least : Nat) (most : Option Nat) {items items' : List Item}
    (h : List.Forall₂ Item.EnclosedAs items items') :
    Agree more base (List.Forall₂ Item.EnclosedAs) (repetition start least most items)
      (repetition start' least most items') := by
  have hrepeat {item item' : Item} {before before' : List Item} (hitem : item.EnclosedAs item')
      (hbefore : List.Forall₂ Item.EnclosedAs before before') :
      Agree more base (List.Forall₂ Item.EnclosedAs)
        (do
          let a ← appetite
          return .piece (.repetition (.repeated a least most item.node)) :: before)
        (do
          let a ← appetite
          return .piece (.repetition (.repeated a least most item'.node)) :: before') := by
    refine agree_appetite.bind ?_
    rintro a _ rfl
    refine agree_pure (.cons (.piece (.repetition fun hr => ?_)) hbefore)
    exact congrArg (Node.repeated a least most) (hitem.pieces.node hr)
  cases h with
  | nil => exact (fails_refuseAt _ _).agree
  | cons hitem hbefore =>
    cases hitem with
    | group h => exact hrepeat (.group h) hbefore
    | piece h =>
      cases h with
      | place letter a => exact (fails_refuseAt _ _).agree
      | repetition h => exact (fails_refuseAt _ _).agree
      | test t => exact hrepeat (.piece (.test t)) hbefore
      | back index index' fold => exact hrepeat (.piece (.back index index' fold)) hbefore
      | whole h => exact hrepeat (.piece (.whole h)) hbefore

/-! ## Options inside the expression -/

theorem agree_removedFlags (fuel fuel' : Nat) (removed : Flags) :
    Agree more base Eq (removedFlags fuel removed) (removedFlags fuel' removed) := by
  induction fuel generalizing fuel' removed with
  | zero => exact (fails_refuse _ _).agree
  | succ fuel ih =>
    cases fuel' with
    | zero => exact (fails_refuse _ _).agree_right
    | succ fuel' =>
      refine agree_next (fails_refuse _ _) fun s => agree_ite (fun _ => agree_pure rfl) fun _ => ?_
      split
      · exact (fails_refuse _ _).agree
      · exact agree_unless ((fails_refuse _ _).bind _) ((fails_refuse _ _).bind _) (ih fuel' _)

theorem agree_minusFlags : Agree more base Eq minusFlags minusFlags := by
  refine agree_next (fails_refuse _ _) fun s => ?_
  dsimp only
  split
  · exact (fails_refuse _ _).agree
  · exact agree_unless ((fails_refuse _ _).bind _) ((fails_refuse _ _).bind _)
      (agree_get fun _ _ => agree_removedFlags _ _ _)

theorem agree_addedFlags (fuel fuel' : Nat) (c : Char) (f added : Flags) :
    Agree more base Eq (addedFlags fuel c f added) (addedFlags fuel' c f added) := by
  induction fuel generalizing fuel' c f added with
  | zero => exact (fails_refuse _ _).agree
  | succ fuel ih =>
    cases fuel' with
    | zero => exact (fails_refuse _ _).agree_right
    | succ fuel' =>
      refine agree_unless ((fails_refuse _ _).bind _) ((fails_refuse _ _).bind _) ?_
      refine agree_unless ((fails_refuse _ _).bind _) ((fails_refuse _ _).bind _) ?_
      refine agree_next (fails_refuse _ _) fun s => ?_
      refine agree_ite (fun _ => agree_pure rfl) fun _ => agree_ite (fun _ => agree_pure rfl)
        fun _ => agree_ite (fun _ => agree_pure rfl) fun _ => ?_
      split
      · exact (fails_refuse _ _).agree
      · exact ih fuel' _ _ _

/-- Options for the whole expression, or those of a group. Only the first leave the reader with
other options than before. -/
theorem inStep_flagGroup {p p' : Progress} (c : Char) (f : Flags) (hp : Abreast more base p p') :
    InStep (flagGroup c f) (flagGroup c f) p p' fun a q a' q' =>
      a = a' ∧ (a ≠ none → Abreast more base q q') := by
  have hadded : Agree more base Eq
      (do
        if c = '-' then return (({} : Flags), '-')
        else addedFlags ((← get).rest.length + 1) c f {})
      (do
        if c = '-' then return (({} : Flags), '-')
        else addedFlags ((← get).rest.length + 1) c f {}) :=
    agree_ite (fun _ => agree_pure rfl) fun _ => agree_get fun _ _ => agree_addedFlags _ _ _ _ _
  have hgiven {x : Flags × Flags} : Agree more base
      (fun (a a' : Option (Flags × Flags)) => a = a' ∧ a ≠ none) (pure (some x)) (pure (some x)) :=
    agree_pure ⟨rfl, nofun⟩
  refine (hadded p p' hp).bind ?_
  rintro ⟨added, stop⟩ q _ q' ⟨rfl, hq⟩
  dsimp only
  split
  · rintro _ r _ r' ⟨⟩ ⟨⟩
    exact ⟨rfl, nofun⟩
  refine InStep.mono ?_ fun a r a' r' (h : (a = a' ∧ a ≠ none) ∧ Abreast more base r r') =>
    ⟨h.1.1, fun _ => h.2⟩
  refine agree_unless ((fails_refuse _ _).bind _) ((fails_refuse _ _).bind _) ?_ q q' hq
  refine agree_ite (fun _ => hgiven) fun _ => agree_minusFlags.bind ?_
  rintro removed _ rfl
  refine agree_unless ((fails_refuse _ _).bind _) ((fails_refuse _ _).bind _) ?_
  exact agree_unless ((fails_refuse _ _).bind _) ((fails_refuse _ _).bind _) hgiven

/-! ## Groups -/

theorem agree_groupName : Agree more base Eq groupName groupName := by
  refine (agree_nameUntil _ _).bind ?_
  rintro name _ rfl
  exact agree_unless ((fails_refuse _ _).bind _) ((fails_refuse _ _).bind _) (agree_pure rfl)

/-- A reference by a name is to a group in both texts. -/
theorem agree_namedReference (scope : Flags) :
    Agree more base Piece.EnclosedAs (namedReference scope) (namedReference scope) := by
  refine (agree_nameUntil _ _).bind ?_
  rintro name _ rfl
  refine agree_unless ((fails_refuse _ _).bind _) ((fails_refuse _ _).bind _) ?_
  refine agree_get fun p p' => ?_
  dsimp only
  split
  · exact (fails_refuse _ _).agree
  rename_i index _
  split
  · exact (fails_refuse _ _).agree_right
  rename_i index' _
  refine ((stays_isClosed _).agree (stays_isClosed _)).bind fun closed closed' _ => ?_
  refine agree_unless ((fails_refuse _ _).bind _) ((fails_refuse _ _).bind _) ?_
  exact ((stays_checkBehind _).agree (stays_checkBehind _)).bind fun _ _ _ =>
    agree_pure (.back index index' _)

/-- A question about a group is noted down. -/
theorem stays_ask (index size : Nat) :
    Stays (do
      let p ← get
      if (p.asked.lookup index).isNone then
        set { p with asked := p.asked ++ [(index, p.position - size)] }
      return index) := by
  intro p a q h
  simp only [StateT.run_bind, StateT.run_get, pure_bind] at h
  split at h <;> cases h <;> exact ⟨rfl, rfl, rfl⟩

theorem agree_conditionGroup :
    Agree more base (fun _ _ => True) conditionGroup conditionGroup := by
  refine (agree_nameUntil _ _).bind ?_
  rintro name _ rfl
  refine Stays.agree ?_ ?_
  all_goals
    refine Stays.bind ?_ fun index => (stays_checkBehind _).bind fun _ => stays_pure _
    refine stays_ite (stays_get fun p => ?_) ?_
    · split
      · exact (fails_refuse _ _).stays
      · exact stays_pure _
    · split
      · exact (fails_refuse _ _).stays
      · exact (fails_refuse _ _).stays
      · exact stays_ite ((fails_refuse _ _).bind _).stays (stays_ask _ _)

/-- A step that is not taken where the text ends. -/
def NeedsMore (m : Reader α) : Prop := ∀ p r, p.rest = [] → m.run p ≠ .ok r

theorem NeedsMore.bind {m : Reader α} (h : NeedsMore m) (f : α → Reader β) :
    NeedsMore (m >>= f) := by
  intro p r hnil hr
  obtain ⟨a, q, hm, -⟩ := run_bind_eq_ok.mp hr
  exact h p _ hnil hm

theorem Stays.needsMore {m : Reader α} {f : α → Reader β} (hm : Stays m)
    (hf : ∀ a, NeedsMore (f a)) : NeedsMore (m >>= f) := by
  intro p r hnil hr
  obtain ⟨a, q, ha, hq⟩ := run_bind_eq_ok.mp hr
  exact hf a q r ((hm p a q ha).1.trans hnil) hq

theorem needsMore_closing (start : Nat) : NeedsMore (closing start) := by
  intro p r hnil hr
  obtain ⟨a, q, ha, hq⟩ := run_bind_eq_ok.mp hr
  rw [accept_run_nil ')' hnil] at ha
  cases ha
  exact fails_refuseAt _ _ p r hq

theorem agree_closing (start start' : Nat) :
    Agree more base (fun _ _ => True) (closing start) (closing start') := by
  intro p p' hp
  by_cases hnil : p.rest = []
  · exact fun a q a' q' ha _ => absurd ha (needsMore_closing start p _ hnil)
  · refine (inStep_accept (.inr hnil) hp).bind ?_
    rintro isClosed q _ q' ⟨rfl, hq⟩
    exact agree_unless (fails_refuseAt _ _) (fails_refuseAt _ _) (agree_pure trivial) q q' hq

/-- What two readers see announced. -/
inductive Opening.EnclosedAs : Opening → Opening → Prop where
  | nothing : EnclosedAs .nothing .nothing
  | reference {p p' : Piece} (h : p.EnclosedAs p') : EnclosedAs (.reference p) (.reference p')
  | capture (name : Option (List Char)) : EnclosedAs (.capture name) (.capture name)
  | together : EnclosedAs .together .together
  | options (added removed : Flags) : EnclosedAs (.scoped added removed) (.scoped added removed)
  | atomic : EnclosedAs .atomic .atomic
  | ahead (negated : Bool) : EnclosedAs (.ahead negated) (.ahead negated)
  | behind (negated : Bool) : EnclosedAs (.behind negated) (.behind negated)
  | condition (index index' : Nat) : EnclosedAs (.condition index) (.condition index')

theorem agree_namedOpening (scope : Flags) :
    Agree more base Opening.EnclosedAs (namedOpening scope) (namedOpening scope) := by
  refine (agree_accept (by decide)).bind ?_
  rintro isName _ rfl
  refine agree_ite (fun _ => ?_) fun _ => (agree_accept (by decide)).bind ?_
  · refine agree_groupName.bind ?_
    rintro name _ rfl
    exact agree_pure (.capture (some name))
  · rintro isReference _ rfl
    refine agree_ite (fun _ => ?_) fun _ => ?_
    · exact (agree_namedReference scope).bind fun p p' h => agree_pure (.reference h)
    · exact agree_next (fails_refuse _ _) fun t => (fails_refuse _ _).agree

theorem agree_commentOpening (start start' : Nat) :
    Agree more base Opening.EnclosedAs (commentOpening start) (commentOpening start') := by
  intro p p' hp
  apply inStep_get
  refine (inStep_skipPast ')' (Nat.lt_succ_self _) (Nat.lt_succ_self _) hp).bind ?_
  rintro a q a' q' (⟨rfl, rfl, hq⟩ | ⟨rfl, -⟩)
  · exact inStep_pure ⟨.nothing, hq⟩
  · exact (fails_refuseAt _ _).inStep

theorem agree_behindOpening : Agree more base Opening.EnclosedAs behindOpening behindOpening :=
  agree_next (fails_refuse _ _) fun _ => agree_ite (fun _ => agree_pure (.behind false)) fun _ =>
    agree_ite (fun _ => agree_pure (.behind true)) fun _ => (fails_refuse _ _).agree

/-- Options for the whole expression cannot come inside of the group. -/
theorem agree_flagsOpening (start start' : Nat) (first : Bool) (s : Symbol) :
    Agree more base Opening.EnclosedAs (flagsOpening start first s)
      (flagsOpening start' false s) := by
  unfold flagsOpening
  split
  · exact (fails_refuse _ _).agree
  intro p p' hp
  refine (inStep_flagGroup _ _ hp).bind ?_
  rintro given q _ q' ⟨rfl, hq⟩
  cases given with
  | none => exact ((fails_refuseAt _ _).bind _).inStep_right
  | some flags => exact inStep_pure ⟨.options flags.1 flags.2, hq nofun⟩

theorem agree_opening (scope : Flags) (start start' : Nat) (first : Bool) :
    Agree more base Opening.EnclosedAs (opening scope start first)
      (opening scope start' false) := by
  rw [opening_eq, opening_eq]
  refine (agree_accept (by decide)).bind ?_
  rintro isSpecial _ rfl
  refine agree_ite (fun _ => agree_pure (.capture none)) fun _ => ?_
  refine agree_next (fails_refuse _ _) fun s => ?_
  refine agree_ite (fun _ => agree_namedOpening scope) fun _ =>
    agree_ite (fun _ => agree_pure .together) fun _ =>
    agree_ite (fun _ => agree_commentOpening start start') fun _ =>
    agree_ite (fun _ => agree_pure (.ahead false)) fun _ =>
    agree_ite (fun _ => agree_pure (.ahead true)) fun _ =>
    agree_ite (fun _ => agree_behindOpening) fun _ => agree_ite (fun _ => ?condition) fun _ =>
    agree_ite (fun _ => agree_pure .atomic) fun _ => agree_flagsOpening start start' first s
  case condition =>
    exact agree_conditionGroup.bind fun index index' _ => agree_pure (.condition index index')

end Reader
end Regex
end QueryOptions
