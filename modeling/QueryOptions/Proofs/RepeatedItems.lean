import QueryOptions.Proofs.GrammarSteps
import QueryOptions.Proofs.Repeating

/-!
# QueryOptions.Proofs.RepeatedItems

Items of a regular expression, read again by a reader that counts characters from another place.
Escapes, sets, bounds, names and references come out the same (`repeats_escape`,
`repeats_characterSet`, `repeats_bounds`), and so does what an opening parenthesis announces
(`leads_opening`): if it is options for the whole expression, both readers have them from then on.

The option for the full alphabet is on wherever the other alphabet is not, so that nothing is read
by it (`characterSet_alphabet`, `opening_alphabet`).
-/

namespace QueryOptions
namespace Regex
namespace Reader

variable {base base' : Flags} {k : Nat}

/-! ## Escapes -/

theorem repeats_hexCode (letter : Char) (count : Nat) :
    Repeats base base' k Eq (hexCode letter count) (hexCode letter count) := by
  refine (repeats_takeClass isHex count).bind ?_
  rintro digits _ rfl
  refine repeats_unless ((fails_refuse _ _).bind _) ?_
  exact repeats_unless ((fails_refuse _ _).bind _) (repeats_pure rfl)

theorem repeats_namedCode : Repeats base base' k Eq namedCode namedCode := by
  refine (repeats_accept _).bind ?_
  rintro opened _ rfl
  refine repeats_unless ((fails_refuse _ _).bind _) ?_
  refine (repeats_nameUntil _ _).bind ?_
  rintro name _ rfl
  split
  · exact (fails_refuse _ _).repeats
  · exact repeats_pure rfl

theorem repeats_longEscape {c : Char} {code : Reader Nat} (h : longEscape? c = some code) :
    Repeats base base' k Eq code code := by
  unfold longEscape? at h
  split at h <;> cases h
  · exact repeats_hexCode 'x' 2
  · exact repeats_hexCode 'u' 4
  · exact repeats_hexCode 'U' 8
  · exact repeats_namedCode

theorem repeats_selfEscape (c : Char) : Repeats base base' k Eq (selfEscape c) (selfEscape c) :=
  repeats_unless ((fails_refuse _ _).bind _) (repeats_pure rfl)

theorem repeats_octalCode (digits : List Char) :
    Repeats base base' k Eq (octalCode digits) (octalCode digits) :=
  repeats_unless ((fails_refuse _ _).bind _) (repeats_pure rfl)

theorem repeats_setEscape (scope : Flags) (c : Char) :
    Repeats base base' k Eq (setEscape scope c) (setEscape scope c) := by
  unfold setEscape
  split
  · exact repeats_pure rfl
  split
  · exact repeats_pure rfl
  split
  · rename_i code hcode
    refine (repeats_longEscape hcode).bind ?_
    rintro code _ rfl
    exact repeats_pure rfl
  refine repeats_ite (fun _ => ?_) fun _ => repeats_unless (fails_refuse _ _) ?_
  · refine (repeats_takeClass isOctal 2).bind ?_
    rintro digits _ rfl
    refine (repeats_octalCode _).bind ?_
    rintro code _ rfl
    exact repeats_pure rfl
  · refine (repeats_selfEscape c).bind ?_
    rintro code _ rfl
    exact repeats_pure rfl

theorem repeats_numberedReference (scope : Flags) (digits : List Char) :
    Repeats base base' k Eq (numberedReference scope digits) (numberedReference scope digits) := by
  refine repeats_groupCount.bind ?_
  rintro count _ rfl
  refine repeats_unless ((fails_refuse _ _).bind _) ?_
  refine (repeats_isClosed _).bind ?_
  rintro closed _ rfl
  refine repeats_unless ((fails_refuse _ _).bind _) ?_
  exact (repeats_checkBehind _).bind fun _ _ _ => repeats_pure rfl

theorem repeats_digitEscape (scope : Flags) (c : Char) :
    Repeats base base' k Eq (digitEscape scope c) (digitEscape scope c) := by
  refine (repeats_takeClass isDigit 1).bind ?_
  rintro digits _ rfl
  split
  · exact repeats_numberedReference scope _
  refine repeats_ite (fun _ => ?_) fun _ => repeats_numberedReference scope _
  refine (repeats_takeClass isOctal 1).bind ?_
  rintro digits _ rfl
  split
  · exact repeats_numberedReference scope _
  · refine (repeats_octalCode _).bind ?_
    rintro code _ rfl
    exact repeats_pure rfl

theorem repeats_escape (scope : Flags) (c : Char) :
    Repeats base base' k Eq (escape scope c) (escape scope c) := by
  unfold escape
  split
  · exact repeats_pure rfl
  split
  · exact repeats_pure rfl
  split
  · exact repeats_pure rfl
  split
  · rename_i code hcode
    refine (repeats_longEscape hcode).bind ?_
    rintro code _ rfl
    exact repeats_pure rfl
  refine repeats_ite (fun _ => ?_) fun _ => repeats_ite (fun _ => repeats_digitEscape scope c)
    fun _ => ?_
  · refine (repeats_takeClass isOctal 2).bind ?_
    rintro digits _ rfl
    exact repeats_pure rfl
  · refine (repeats_selfEscape c).bind ?_
    rintro code _ rfl
    exact repeats_pure rfl

/-! ## Sets -/

theorem repeats_setMember (scope : Flags) (s : Symbol) :
    Repeats base base' k Eq (setMember scope s) (setMember scope s) := by
  cases s with
  | plain c => exact repeats_pure rfl
  | escaped c => exact repeats_setEscape scope c
  | dangling => exact (fails_refuse _ _).repeats

theorem repeats_setItems (scope : Flags) (start start' fuel : Nat) (items : List SetItem) :
    Repeats base base' k Eq (setItems scope start fuel items)
      (setItems scope start' fuel items) := by
  induction fuel generalizing items with
  | zero => exact (fails_refuseAt _ _).repeats
  | succ fuel ih =>
    refine repeats_next.bind ?_
    rintro low _ rfl
    cases low with
    | none => exact (fails_refuseAt _ _).repeats
    | some low =>
      refine repeats_ite (fun _ => repeats_pure rfl) fun _ => (repeats_setMember scope low).bind ?_
      rintro first _ rfl
      refine (repeats_accept '-').bind ?_
      rintro isSpan _ rfl
      refine repeats_ite (fun _ => repeats_next.bind ?_) fun _ => ih _
      rintro high _ rfl
      cases high with
      | none => exact (fails_refuseAt _ _).repeats
      | some high =>
        refine repeats_ite (fun _ => repeats_pure rfl) fun _ =>
          (repeats_setMember scope high).bind ?_
        rintro second _ rfl
        dsimp only
        split
        · exact repeats_unless ((fails_refuse _ _).bind _) (ih _)
        · exact (fails_refuse _ _).repeats

theorem repeats_characterSet (scope : Flags) :
    Repeats base base' k Eq (characterSet scope) (characterSet scope) := by
  refine repeats_get fun _ _ _ => (repeats_accept '^').bind ?_
  rintro negated _ rfl
  refine repeats_get fun p p' hp => ?_
  rw [hp.rest]
  refine (repeats_setItems scope _ _ _ []).bind ?_
  rintro items _ rfl
  split <;> exact repeats_pure rfl

theorem setItems_alphabet (scope : Flags) (unicode : Bool) (start fuel : Nat)
    (items : List SetItem) :
    setItems { scope with unicode } start fuel items = setItems scope start fuel items := by
  have hmember (s : Symbol) : setMember { scope with unicode } s = setMember scope s := by
    cases s <;> rfl
  induction fuel generalizing items with
  | zero => rfl
  | succ fuel ih => simp only [setItems, hmember, ih]

theorem characterSet_alphabet (scope : Flags) (unicode : Bool) :
    characterSet { scope with unicode } = characterSet scope := by
  unfold characterSet
  simp only [setItems_alphabet]
  rfl

/-! ## Repetition -/

theorem repeats_appetite : Repeats base base' k Eq appetite appetite := by
  refine (repeats_accept '?').bind ?_
  rintro isLazy _ rfl
  refine repeats_ite (fun _ => repeats_pure rfl) fun _ => (repeats_accept '+').bind ?_
  rintro isPossessive _ rfl
  exact repeats_ite (fun _ => repeats_pure rfl) fun _ => repeats_pure rfl

theorem repeats_braceBounds : Repeats base base' k Eq braceBounds braceBounds := by
  intro p p' hp hk
  apply leads_get
  rw [hp.rest]
  refine leads_ite (fun _ => leads_pure ⟨rfl, hp, Nat.le_refl _⟩) fun _ => ?_
  -- Braces that are no bounds are given back, so that what was read of them does not count.
  have hdigits (n : Nat) : Repeats base base' k Eq (takeClass isDigit n) (takeClass isDigit n) :=
    repeats_takeClass isDigit n
  refine (hdigits _ p p' hp hk).bind ?_
  rintro low q _ q' ⟨rfl, hq, hle⟩
  have hhigh (n : Nat) : Repeats base base' k Eq
      (do if ← accept ',' then takeClass isDigit n else return low)
      (do if ← accept ',' then takeClass isDigit n else return low) := by
    refine (repeats_accept ',').bind ?_
    rintro isOpen _ rfl
    exact repeats_ite (fun _ => hdigits n) fun _ => repeats_pure rfl
  refine (hhigh _ q q' hq (by omega)).bind ?_
  rintro high r _ r' ⟨rfl, hr, hle'⟩
  refine (repeats_accept _ r r' hr (by omega)).bind ?_
  rintro isClosed s _ s' ⟨rfl, hs, hle''⟩
  refine leads_ite (fun _ => ?_) fun _ => ?_
  · rintro _ _ ⟨⟩
    exact ⟨_, _, rfl, rfl, hp, Nat.le_refl _⟩
  · have hbounds : Repeats base base' k Eq
        (do
          let least := numeral 10 low
          if !low.isEmpty && repeatLimit ≤ least then throw .tooManyRepeats
          if high.isEmpty then return some (least, none)
          let most := numeral 10 high
          if repeatLimit ≤ most then throw .tooManyRepeats
          if most < least then refuseAt .repeatOrder p.position
          return some (least, some most))
        (do
          let least := numeral 10 low
          if !low.isEmpty && repeatLimit ≤ least then throw .tooManyRepeats
          if high.isEmpty then return some (least, none)
          let most := numeral 10 high
          if repeatLimit ≤ most then throw .tooManyRepeats
          if most < least then refuseAt .repeatOrder p'.position
          return some (least, some most)) := by
      refine repeats_unless ((fails_throw _).bind _) ?_
      refine repeats_ite (fun _ => repeats_pure rfl) fun _ => ?_
      refine repeats_unless ((fails_throw _).bind _) ?_
      exact repeats_unless ((fails_refuseAt _ _).bind _) (repeats_pure rfl)
    refine (hbounds s s' hs (by omega)).mono ?_
    rintro a t a' t' ⟨ha, ht, hle'''⟩
    exact ⟨ha, ht, by omega⟩

theorem repeats_bounds (c : Char) : Repeats base base' k Eq (bounds c) (bounds c) :=
  repeats_ite (fun _ => repeats_pure rfl) fun _ => repeats_ite (fun _ => repeats_pure rfl) fun _ =>
    repeats_ite (fun _ => repeats_pure rfl) fun _ => repeats_braceBounds

theorem repeats_repetition (start start' least : Nat) (most : Option Nat) (items : List Item) :
    Repeats base base' k (fun items' items'' => items' = items'' ∧ items' ≠ [])
      (repetition start least most items) (repetition start' least most items) := by
  unfold repetition
  split
  · exact (fails_refuseAt _ _).repeats
  · exact (fails_refuseAt _ _).repeats
  · exact (fails_refuseAt _ _).repeats
  · refine repeats_appetite.bind ?_
    rintro a _ rfl
    exact repeats_pure ⟨rfl, nofun⟩

/-! ## Options inside the expression -/

theorem repeats_removedFlags (fuel : Nat) (removed : Flags) :
    Repeats base base' k Eq (removedFlags fuel removed) (removedFlags fuel removed) := by
  induction fuel generalizing removed with
  | zero => exact (fails_refuse _ _).repeats
  | succ fuel ih =>
    refine repeats_next.bind ?_
    rintro s _ rfl
    cases s with
    | none => exact (fails_refuse _ _).repeats
    | some s =>
      refine repeats_ite (fun _ => repeats_pure rfl) fun _ => ?_
      split
      · exact (fails_refuse _ _).repeats
      · exact repeats_unless ((fails_refuse _ _).bind _) (ih _)

theorem repeats_minusFlags : Repeats base base' k Eq minusFlags minusFlags := by
  refine repeats_next.bind ?_
  rintro s _ rfl
  cases s with
  | none => exact (fails_refuse _ _).repeats
  | some s =>
    dsimp only
    split
    · exact (fails_refuse _ _).repeats
    refine repeats_unless ((fails_refuse _ _).bind _) (repeats_get fun p p' hp => ?_)
    rw [hp.rest]
    exact repeats_removedFlags _ _

theorem repeats_addedFlags (fuel : Nat) (c : Char) (f added : Flags) :
    Repeats base base' k Eq (addedFlags fuel c f added) (addedFlags fuel c f added) := by
  induction fuel generalizing c f added with
  | zero => exact (fails_refuse _ _).repeats
  | succ fuel ih =>
    refine repeats_unless ((fails_refuse _ _).bind _) ?_
    refine repeats_unless ((fails_refuse _ _).bind _) ?_
    refine repeats_next.bind ?_
    rintro s _ rfl
    cases s with
    | none => exact (fails_refuse _ _).repeats
    | some s =>
      refine repeats_ite (fun _ => repeats_pure rfl) fun _ =>
        repeats_ite (fun _ => repeats_pure rfl) fun _ =>
        repeats_ite (fun _ => repeats_pure rfl) fun _ => ?_
      split
      · exact (fails_refuse _ _).repeats
      · exact ih _ _ _

/-- Options for the whole expression are added on both sides; those of a group are not. -/
theorem leads_flagGroup (c : Char) (f : Flags) {p p' : Progress} (hp : Alike base base' p p') :
    Leads (flagGroup c f) (flagGroup c f) p p' (Ends base base' (· ≠ none) p) := by
  have hadded : Repeats base base' p.rest.length Eq
      (do
        if c = '-' then return (({} : Flags), '-')
        else addedFlags ((← get).rest.length + 1) c f {})
      (do
        if c = '-' then return (({} : Flags), '-')
        else addedFlags ((← get).rest.length + 1) c f {}) := by
    refine repeats_ite (fun _ => repeats_pure rfl) fun _ => repeats_get fun p p' hp => ?_
    rw [hp.rest]
    exact repeats_addedFlags _ _ _ _
  refine (hadded p p' hp (Nat.le_refl _)).bind ?_
  rintro ⟨added, stop⟩ q _ q' ⟨rfl, hq, hle⟩
  refine leads_ite (fun _ => ?_) fun _ => Repeats.ends ?_ hq (Nat.le_refl _) hle
  · rintro _ _ ⟨⟩
    refine ⟨_, _, rfl, rfl, hle, added, fun h => absurd rfl h, ?_⟩
    exact ⟨hq.rest, hq.groups, hq.names, hq.behindFrom, hq.asked,
      congrArg (Flags.union · added) hq.flags, congrArg (Flags.union · added) hq.flags'⟩
  · refine repeats_unless ((fails_refuse _ _).bind _) ?_
    refine repeats_ite (fun _ => repeats_pure rfl) fun _ => repeats_minusFlags.bind ?_
    rintro removed _ rfl
    refine repeats_unless ((fails_refuse _ _).bind _) ?_
    exact repeats_unless ((fails_refuse _ _).bind _) (repeats_pure rfl)

/-! ## Groups -/

theorem repeats_groupName : Repeats base base' k Eq groupName groupName := by
  refine (repeats_nameUntil _ _).bind ?_
  rintro name _ rfl
  exact repeats_unless ((fails_refuse _ _).bind _) (repeats_pure rfl)

theorem repeats_namedReference (scope : Flags) :
    Repeats base base' k Eq (namedReference scope) (namedReference scope) := by
  refine (repeats_nameUntil _ _).bind ?_
  rintro name _ rfl
  refine repeats_unless ((fails_refuse _ _).bind _) (repeats_get fun p p' hp => ?_)
  rw [hp.names]
  split
  · exact (fails_refuse _ _).repeats
  · refine (repeats_isClosed _).bind ?_
    rintro closed _ rfl
    refine repeats_unless ((fails_refuse _ _).bind _) ?_
    exact (repeats_checkBehind _).bind fun _ _ _ => repeats_pure rfl

theorem isNone_lookup_congr {asked asked' : List (Nat × Nat)}
    (h : asked'.map Prod.fst = asked.map Prod.fst) (index : Nat) :
    (asked'.lookup index).isNone = (asked.lookup index).isNone := by
  induction asked generalizing asked' with
  | nil =>
    rw [List.map_nil, List.map_eq_nil_iff] at h
    rw [h]
  | cons entry asked ih =>
    cases asked' with
    | nil => cases h
    | cons entry' asked' =>
      rw [List.map_cons, List.map_cons, List.cons.injEq] at h
      rw [List.lookup_cons, List.lookup_cons, h.1]
      split
      · rfl
      · exact ih h.2

/-- Where a group was asked about for the first time does not matter to what is read. -/
theorem repeats_ask (index size : Nat) :
    Repeats base base' k Eq
      (do
        let p ← get
        if (p.asked.lookup index).isNone then
          set { p with asked := p.asked ++ [(index, p.position - size)] }
        return index)
      (do
        let p ← get
        if (p.asked.lookup index).isNone then
          set { p with asked := p.asked ++ [(index, p.position - size)] }
        return index) := by
  intro p p' hp _
  apply leads_get
  dsimp only
  rw [isNone_lookup_congr hp.asked]
  refine leads_ite (fun _ => ?_) fun _ => leads_pure ⟨rfl, hp, Nat.le_refl _⟩
  rintro _ _ ⟨⟩
  refine ⟨_, _, rfl, rfl, ⟨hp.rest, hp.groups, hp.names, hp.behindFrom, ?_, hp.flags, hp.flags'⟩,
    Nat.le_refl _⟩
  simp only [List.map_append, hp.asked, List.map_cons, List.map_nil]

theorem repeats_conditionGroup : Repeats base base' k Eq conditionGroup conditionGroup := by
  refine (repeats_nameUntil _ _).bind ?_
  rintro name _ rfl
  refine Repeats.bind (S := Eq)
    (repeats_ite (fun _ => repeats_get fun p p' hp => ?_) fun _ => ?_) ?_
  · rw [hp.names]
    split
    · exact (fails_refuse _ _).repeats
    · exact repeats_pure rfl
  · split
    · exact (fails_refuse _ _).repeats
    · exact (fails_refuse _ _).repeats
    · exact repeats_unless ((fails_refuse _ _).bind _) (repeats_ask _ _)
  · rintro index _ rfl
    exact (repeats_checkBehind _).bind fun _ _ _ => repeats_pure rfl

theorem repeats_closing (start start' : Nat) :
    Repeats base base' k Eq (closing start) (closing start') := by
  refine (repeats_accept ')').bind ?_
  rintro isClosed _ rfl
  exact repeats_unless (fails_refuseAt _ _) (repeats_pure rfl)

theorem repeats_namedOpening (scope : Flags) :
    Repeats base base' k Eq (namedOpening scope) (namedOpening scope) := by
  refine (repeats_accept '<').bind ?_
  rintro isName _ rfl
  refine repeats_ite (fun _ => ?_) fun _ => (repeats_accept '=').bind ?_
  · refine repeats_groupName.bind ?_
    rintro name _ rfl
    exact repeats_pure rfl
  · rintro isReference _ rfl
    refine repeats_ite (fun _ => ?_) fun _ => repeats_next.bind ?_
    · refine (repeats_namedReference scope).bind ?_
      rintro piece _ rfl
      exact repeats_pure rfl
    · rintro t _ rfl
      split <;> exact (fails_refuse _ _).repeats

theorem repeats_commentOpening (start start' : Nat) :
    Repeats base base' k Eq (commentOpening start) (commentOpening start') := by
  refine repeats_get fun p p' hp => ?_
  rw [hp.rest]
  refine (repeats_skipPast ')' _).bind ?_
  rintro found _ rfl
  exact repeats_ite (fun _ => repeats_pure rfl) fun _ => (fails_refuseAt _ _).repeats

theorem repeats_behindOpening : Repeats base base' k Eq behindOpening behindOpening := by
  refine repeats_next.bind ?_
  rintro t _ rfl
  cases t with
  | none => exact (fails_refuse _ _).repeats
  | some t =>
    exact repeats_ite (fun _ => repeats_pure rfl) fun _ =>
      repeats_ite (fun _ => repeats_pure rfl) fun _ => (fails_refuse _ _).repeats

/-- Options for the whole expression come before any item. -/
theorem leads_flagsOpening (start start' : Nat) (first : Bool) (s : Symbol) {p p' : Progress}
    (hp : Alike base base' p p') :
    Leads (flagsOpening start first s) (flagsOpening start' first s) p p'
      (Ends base base' (fun a => a ≠ .nothing ∨ first = false) p) := by
  unfold flagsOpening
  split
  · exact (fails_refuse _ _).leads
  refine (leads_flagGroup _ _ hp).bind ?_
  rintro given q _ q' hends
  obtain rfl := hends.1
  cases given with
  | some flags =>
    obtain ⟨-, hq, hle⟩ := hends.alike nofun
    exact leads_pure (ends_of_alike hq hle)
  | none =>
    cases first with
    | false => exact ((fails_refuseAt _ _).bind _).leads
    | true =>
      obtain ⟨-, hle, added, -, hq⟩ := hends
      exact leads_pure ⟨rfl, hle, added, by simp, hq⟩

/-- Only options for the whole expression, which come before any item, change what holds for it. -/
theorem leads_opening (scope : Flags) (start start' : Nat) (first : Bool) {p p' : Progress}
    (hp : Alike base base' p p') :
    Leads (opening scope start first) (opening scope start' first) p p'
      (Ends base base' (fun a => a ≠ .nothing ∨ first = false) p) := by
  have hannounced {k : Nat} {o : Opening} : Repeats base base' k Eq (pure o) (pure o) :=
    repeats_pure rfl
  rw [opening_eq, opening_eq]
  refine (repeats_accept '?' p p' hp (Nat.le_refl _)).bind ?_
  rintro isSpecial q _ q' ⟨rfl, hq, hle⟩
  refine leads_ite (fun _ => hannounced.ends hq hle hle) fun _ => ?_
  refine (repeats_next q q' hq hle).bind ?_
  rintro s r _ r' ⟨rfl, hr, hle'⟩
  replace hle := Nat.le_trans hle' hle
  cases s with
  | none => exact (fails_refuse _ _).leads
  | some s =>
    -- What reads no options for the whole expression.
    have hplain {m m' : Reader Opening} (h : Repeats base base' p.rest.length Eq m m') :
        Leads m m' r r' (Ends base base' (fun a => a ≠ .nothing ∨ first = false) p) :=
      h.ends hr hle hle
    refine leads_ite (fun _ => hplain (repeats_namedOpening scope)) fun _ =>
      leads_ite (fun _ => hplain hannounced) fun _ =>
      leads_ite (fun _ => hplain (repeats_commentOpening start start')) fun _ =>
      leads_ite (fun _ => hplain hannounced) fun _ =>
      leads_ite (fun _ => hplain hannounced) fun _ =>
      leads_ite (fun _ => hplain repeats_behindOpening) fun _ =>
      leads_ite (fun _ => hplain ?condition) fun _ =>
      leads_ite (fun _ => hplain hannounced) fun _ => ?options
    case condition =>
      refine repeats_conditionGroup.bind ?_
      rintro index _ rfl
      exact hannounced
    case options =>
      exact (leads_flagsOpening start start' first s hr).mono fun _ _ _ _ h => h.mono hle id

theorem opening_alphabet (scope : Flags) (unicode : Bool) (start : Nat) (first : Bool) :
    opening { scope with unicode } start first = opening scope start first := rfl

end Reader
end Regex
end QueryOptions
