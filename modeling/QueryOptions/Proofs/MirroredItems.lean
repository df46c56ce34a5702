import QueryOptions.Proofs.Mirrors
import QueryOptions.Proofs.RepeatedItems

/-!
# QueryOptions.Proofs.MirroredItems

Items of a regular expression, read by twins: characters, sets, bounds and names come out the same
(`mirrors_setItems`, `mirror_braceBounds`), and what has groups in it comes out with the number of
each group one more (`mirror_escape`, `mirror_repetition`, `mirror_opening`). With each of them
goes what a scan of its symbols comes to. Options for the whole expression and references by a
number do not occur, since the scan ends with them.
-/

namespace QueryOptions
namespace Regex

/-- A scan that hexadecimal digits mean nothing to. -/
def Scan.Quiet (st : Scan) : Prop := ∀ c, isHex c = true → st.step (.plain c) = .ok st

theorem Scan.quiet_items (st : Scan) : (st.goto .items).Quiet := by
  intro c hc
  refine st.step_items_plain fun hmem => ?_
  simp only [List.mem_cons, List.not_mem_nil, or_false] at hmem
  rcases hmem with rfl | rfl | rfl | rfl <;> exact absurd hc (by decide)

theorem Scan.quiet_members (st : Scan) : (st.goto .members).Quiet := by
  intro c hc
  refine st.step_members ?_
  rintro rfl
  exact absurd hc (by decide)

theorem isHex_of_isDigit {c : Char} (h : isDigit c = true) : isHex c = true := by
  simp [isHex, h]

theorem isDigit_of_isOctal {c : Char} (h : isOctal c = true) : isDigit c = true := by
  simp only [isOctal, isDigit, Bool.and_eq_true, decide_eq_true_eq] at h ⊢
  exact ⟨h.1, Char.le_trans h.2 (by decide)⟩

namespace Reader

variable {α : Type}

/-- What always comes out the same when it is repeated never goes back. -/
theorem advances_of_repeats {m : Reader α} {Rel : α → α → Prop}
    (h : ∀ base base' k, Repeats base base' k Rel m m) : Advances m := by
  intro p a q ha
  obtain ⟨_, _, -, -, -, hle⟩ :=
    h p.flags p.flags p.rest.length p p (.refl p) (Nat.le_refl _) a q ha
  exact hle

variable {more : List Symbol} {base : Flags} {R : Except Intrusion Bool} {st : Scan}
  (hoptions : R ≠ .error .options) (hnumber : R ≠ .error .number)

/-! ## Escapes -/

theorem mirror_octalCode (digits : List Char) :
    Mirror more base R st (Same st) (octalCode digits) (octalCode digits) :=
  mirror_unless .rfl ((fails_refuse _ _).bind _) ((fails_refuse _ _).bind _)
    (mirror_pure ⟨rfl, rfl⟩)

theorem mirror_selfEscape (c : Char) :
    Mirror more base R st (Same st) (selfEscape c) (selfEscape c) :=
  mirror_unless .rfl ((fails_refuse _ _).bind _) ((fails_refuse _ _).bind _)
    (mirror_pure ⟨rfl, rfl⟩)

include hoptions hnumber

theorem mirror_hexCode (hst : st.Quiet) (letter : Char) (count : Nat) :
    Mirror more base R st (Same st) (hexCode letter count) (hexCode letter count) := by
  refine (mirror_takeClass hoptions hnumber rfl hst count).bind ?_
  rintro digits _ _ ⟨rfl, rfl⟩
  refine mirror_unless .rfl ((fails_refuse _ _).bind _) ((fails_refuse _ _).bind _) ?_
  exact mirror_unless .rfl ((fails_refuse _ _).bind _) ((fails_refuse _ _).bind _)
    (mirror_pure ⟨rfl, rfl⟩)

theorem mirror_namedCode (inSet : Bool) :
    Mirror more base R (st.goto (.brace inSet))
      (Same (st.goto (if inSet then .members else .items))) namedCode namedCode := by
  have hbrace : (st.goto (.brace inSet)).step (.plain (Char.ofNat 0x7B))
      = .ok (st.goto (.name (.character inSet) [])) := rfl
  refine (mirror_accept hoptions hnumber (by decide) hbrace).bind ?_
  rintro opened _ _ ⟨rfl, rfl⟩
  cases opened with
  | false => exact ((fails_refuse _ _).bind _).mirror ((fails_refuse _ _).bind _)
  | true =>
    refine (mirror_nameUntil hoptions hnumber (.character inSet) "character name" nofun).bind ?_
    rintro name _ _ ⟨rfl, ⟨⟩⟩
    cases Text.characterNamed? name with
    | none => exact (fails_refuse _ _).mirror (fails_refuse _ _)
    | some code => exact mirror_pure ⟨rfl, rfl⟩

theorem mirror_longEscape {c : Char} {code : Reader Nat} (hst : st.Quiet) (hc : c ≠ 'N')
    (h : longEscape? c = some code) : Mirror more base R st (Same st) code code := by
  unfold longEscape? at h
  split at h <;> cases h
  · exact mirror_hexCode hoptions hnumber hst 'x' 2
  · exact mirror_hexCode hoptions hnumber hst 'u' 4
  · exact mirror_hexCode hoptions hnumber hst 'U' 8
  · exact absurd rfl hc

theorem mirror_octalDigits (hst : st.Quiet) (n : Nat) :
    Mirror more base R st (Same st) (takeClass isOctal n) (takeClass isOctal n) :=
  mirror_takeClass hoptions hnumber rfl
    (fun c hc => hst c (isHex_of_isDigit (isDigit_of_isOctal hc))) n

theorem mirror_setEscape (scope : Flags) (c : Char) :
    Mirror more base R (st.goto (if c = 'N' then .brace true else .members))
      (Same (st.goto .members)) (setEscape scope c) (setEscape scope c) := by
  by_cases hc : c = 'N'
  · subst hc
    refine (mirror_namedCode hoptions hnumber true).bind ?_
    rintro code _ _ ⟨rfl, rfl⟩
    exact mirror_pure ⟨rfl, rfl⟩
  rw [if_neg hc]
  have hst := st.quiet_members
  unfold setEscape
  split
  · exact mirror_pure ⟨rfl, rfl⟩
  split
  · exact mirror_pure ⟨rfl, rfl⟩
  split
  · rename_i code hcode
    refine (mirror_longEscape hoptions hnumber hst hc hcode).bind ?_
    rintro code _ _ ⟨rfl, rfl⟩
    exact mirror_pure ⟨rfl, rfl⟩
  refine mirror_ite (fun _ => ?_) fun _ =>
    mirror_ite (fun _ => (fails_refuse _ _).mirror (fails_refuse _ _)) fun _ => ?_
  · refine (mirror_octalDigits hoptions hnumber hst 2).bind ?_
    rintro digits _ _ ⟨rfl, rfl⟩
    refine (mirror_octalCode _).bind ?_
    rintro code _ _ ⟨rfl, rfl⟩
    exact mirror_pure ⟨rfl, rfl⟩
  · refine (mirror_selfEscape c).bind ?_
    rintro code _ _ ⟨rfl, rfl⟩
    exact mirror_pure ⟨rfl, rfl⟩

/-- A digit that refers to no group is the first one of three. -/
theorem mirror_digitEscape (scope : Flags) {c : Char} (hc : isOctal c = true) :
    Mirror more base R (st.goto (.octal 1))
      (fun a a' next => a.ShiftsTo a' ∧ next = st.goto .items) (digitEscape scope c)
      (digitEscape scope c) := by
  refine (mirror_octal hoptions hnumber (fun _ => isDigit_of_isOctal) 1).bind ?_
  rintro _ _ _ ⟨d, rfl, rfl, hd, rfl⟩
  dsimp only
  simp only [hc, hd, Bool.and_self, if_true]
  refine (mirror_octal hoptions hnumber (fun _ => id) 0).bind ?_
  rintro _ _ _ ⟨e, rfl, rfl, he, rfl⟩
  refine (mirror_octalCode _).bind ?_
  rintro code _ _ ⟨rfl, rfl⟩
  exact mirror_pure ⟨Piece.shiftsTo_test _, rfl⟩

omit hoptions hnumber in
theorem escape_digit (scope : Flags) {c : Char} (hc : isDigit c = true) (hzero : c ≠ '0') :
    escape scope c = digitEscape scope c := by
  have hplace : place? scope.ascii c = none := by
    unfold place?
    split <;> first | rfl | exact absurd hc (by decide)
  have hcategory : category? c = none := by
    unfold category?
    split <;> first | rfl | exact absurd hc (by decide)
  have hcontrol : controlCode? c = none := by
    unfold controlCode?
    split <;> first | rfl | exact absurd hc (by decide)
  have hlong : longEscape? c = none := by
    unfold longEscape?
    split <;> first | rfl | exact absurd hc (by decide)
  unfold escape
  simp only [hplace, hcategory, hcontrol, hlong, hzero, hc, if_false, if_true]

theorem mirror_escape (scope : Flags) {c : Char} {st' : Scan}
    (h : (st.goto .items).step (.escaped c) = .ok st') :
    Mirror more base R st' (fun a a' next => a.ShiftsTo a' ∧ next = st.goto .items) (escape scope c)
      (escape scope c) := by
  have htest (t : CharTest) : Mirror more base R (st.goto .items)
      (fun (a a' : Piece) next => a.ShiftsTo a' ∧ next = st.goto .items) (pure (.test t))
      (pure (.test t)) :=
    mirror_pure ⟨Piece.shiftsTo_test t, rfl⟩
  rcases Scan.step_items_escaped h with ⟨rfl, rfl⟩ | ⟨hc, hdigit, rfl⟩ | ⟨hdigit, hzero, hc, rfl⟩
  · refine (mirror_namedCode hoptions hnumber false).bind ?_
    rintro code _ _ ⟨rfl, rfl⟩
    exact htest _
  · have hst := st.quiet_items
    unfold escape
    split
    · exact mirror_pure ⟨Piece.shiftsTo_place _ _, rfl⟩
    split
    · exact htest _
    split
    · exact htest _
    split
    · rename_i code hcode
      refine (mirror_longEscape hoptions hnumber hst hc hcode).bind ?_
      rintro code _ _ ⟨rfl, rfl⟩
      exact htest _
    refine mirror_ite (fun _ => ?_) fun hzero => mirror_ite (fun hnine => ?_) fun _ => ?_
    · refine (mirror_octalDigits hoptions hnumber hst 2).bind ?_
      rintro digits _ _ ⟨rfl, rfl⟩
      exact htest _
    · rw [hdigit.resolve_left hzero] at hnine
      cases hnine
    · refine (mirror_selfEscape c).bind ?_
      rintro code _ _ ⟨rfl, rfl⟩
      exact htest _
  · rw [escape_digit scope hdigit hzero]
    exact mirror_digitEscape hoptions hnumber scope hc

/-! ## Sets -/

theorem mirror_setMember (scope : Flags) (s : Symbol) :
    Mirror more base R (st.goto (if s = .escaped 'N' then .brace true else .members))
      (Same (st.goto .members)) (setMember scope s) (setMember scope s) := by
  cases s with
  | plain c => exact mirror_pure ⟨rfl, rfl⟩
  | escaped c =>
    simp only [Symbol.escaped.injEq]
    exact mirror_setEscape hoptions hnumber scope c
  | dangling => exact (fails_refuse _ _).mirror (fails_refuse _ _)

theorem mirrors_setItems (scope : Flags) (start start' : Nat) {fuel fuel' : Nat}
    {items : List SetItem} {p p' : Progress} (hf : p.rest.length < fuel)
    (hf' : p'.rest.length < fuel')
    (hp : Twin more base R (st.goto (.inSet items.isEmpty)) p p') :
    Mirrors R True (setItems scope start fuel items) (setItems scope start' fuel' items) p p'
      fun a q a' q' => ∃ st', Same (st.goto .items) a a' st' ∧ Twin more base R st' q q' := by
  induction fuel generalizing fuel' items p p' with
  | zero => omega
  | succ fuel ih =>
    cases fuel' with
    | zero => omega
    | succ fuel' =>
      have hdone {items : List SetItem} {q q' : Progress}
          (hq : Twin more base R (st.goto .items) q q') :
          Mirrors R True (pure items) (pure items) q q' fun a q a' q' =>
            ∃ st', Same (st.goto .items) a a' st' ∧ Twin more base R st' q q' :=
        mirrors_pure ⟨_, ⟨rfl, rfl⟩, hq⟩
      have hmember (s : Symbol) : Advances (setMember scope s) :=
        advances_of_repeats fun _ _ _ => repeats_setMember scope s
      refine mirrors_next hoptions hnumber hp (st.finish_inSet _)
        (fun _ _ _ h => absurd h (fails_refuseAt _ _ _ _)) (st.step_inSet_ne_closing _) ?_
      intro low st₁ q q' hlow hstep hq hq' htwin
      obtain rfl := Scan.eq_member hlow hstep
      refine mirrors_ite (fun hlast => ?_) fun hother => ?_
      · simp only [Bool.and_eq_true, decide_eq_true_eq, Bool.not_eq_true'] at hlast
        rw [hlast.1, hlast.2] at htwin
        exact hdone htwin
      rw [Zone.member_other hother] at htwin
      refine ((mirror_setMember hoptions hnumber scope low q q' htwin).advance (hmember low)
        (hmember low)).bind ?_
      rintro first r _ r' ⟨⟨_, ⟨rfl, rfl⟩, hr⟩, hle, hle'⟩
      have hdash := st.step_members (c := '-') (by decide)
      refine ((mirror_accept hoptions hnumber (by decide) hdash r r' hr).advance
        (advances_accept '-') (advances_accept '-')).bind ?_
      rintro isSpan t _ t' ⟨⟨_, ⟨rfl, rfl⟩, ht⟩, hle₁, hle₁'⟩
      rw [ite_self] at ht
      rw [hq, List.length_cons] at hf
      rw [hq', List.length_cons] at hf'
      have hagain {item : SetItem} {u u' : Progress} (hle : u.rest.length ≤ t.rest.length)
          (hle' : u'.rest.length ≤ t'.rest.length) (hu : Twin more base R (st.goto .members) u u') :
          Mirrors R True (setItems scope start fuel (items ++ [item]))
            (setItems scope start' fuel' (items ++ [item])) u u' fun a q a' q' =>
              ∃ st', Same (st.goto .items) a a' st' ∧ Twin more base R st' q q' := by
        refine ih (by omega) (by omega) ?_
        cases items <;> exact hu
      refine mirrors_ite (fun _ => ?_) fun _ => hagain (Nat.le_refl _) (Nat.le_refl _) ht
      refine mirrors_next hoptions hnumber ht (st.finish_inSet false)
        (fun _ _ _ h => absurd h (fails_refuseAt _ _ _ _)) (st.step_inSet_ne_closing false) ?_
      intro high st₂ u u' hhigh hstep' hu hu' htwin
      have hstep' : (st.goto (.inSet false)).step high = .ok st₂ := hstep'
      obtain rfl := Scan.eq_member hhigh hstep'
      refine mirrors_ite (fun hlast => ?_) fun hother => ?_
      · rw [hlast] at htwin
        exact hdone htwin
      rw [Zone.member_other (by simpa using hother)] at htwin
      refine ((mirror_setMember hoptions hnumber scope high u u' htwin).advance (hmember high)
        (hmember high)).bind ?_
      rintro second v _ v' ⟨⟨_, ⟨rfl, rfl⟩, hv⟩, hle₂, hle₂'⟩
      rw [hu, List.length_cons] at hagain
      rw [hu', List.length_cons] at hagain
      dsimp only
      split
      · refine mirrors_unless .rfl ((fails_refuse _ _).bind _) ((fails_refuse _ _).bind _) ?_
        exact hagain (by omega) (by omega) hv
      · exact (fails_refuse _ _).mirrors (fails_refuse _ _)

/-- What a set in brackets tests: a single character is a literal. -/
def setPiece (scope : Flags) (negated : Bool) (items : List SetItem) : Reader Piece :=
  match items.eraseDups with
  | [.code n] => return .test (.literal n negated scope.fold)
  | members => return .test (.set members negated scope.fold)

theorem mirror_characterSet (scope : Flags) :
    Mirror more base R (st.goto .bracket) (fun a a' next => a.ShiftsTo a' ∧ next = st.goto .items)
      (characterSet scope) (characterSet scope) := by
  intro p p' hp
  have hmembers (negated : Bool) (start start' : Nat) {q q' : Progress}
      (hq : Twin more base R (st.goto .opened) q q') :
      Mirrors R True
        (do
          let items ← setItems scope start ((← get).rest.length + 1) []
          setPiece scope negated items)
        (do
          let items ← setItems scope start' ((← get).rest.length + 1) []
          setPiece scope negated items) q q' fun a q a' q' =>
            ∃ st', (Piece.ShiftsTo a a' ∧ st' = st.goto .items) ∧ Twin more base R st' q q' := by
    apply mirrors_get
    refine (mirrors_setItems hoptions hnumber scope start start' (Nat.lt_succ_self _)
      (Nat.lt_succ_self _) hq).bind ?_
    rintro items r _ r' ⟨_, ⟨rfl, rfl⟩, hr⟩
    unfold setPiece
    split <;> exact mirrors_pure ⟨_, ⟨Piece.shiftsTo_test _, rfl⟩, hr⟩
  unfold characterSet
  apply mirrors_get
  have hopened : (st.goto .bracket).step (.plain '^') = .ok (st.goto .opened) := rfl
  refine (mirrors_accept hoptions hnumber (.inl (by decide)) hopened hp).bind ?_
  rintro negated q _ q' ⟨rfl, h⟩
  cases negated with
  | true => exact hmembers true _ _ h.1
  | false =>
    obtain ⟨rfl, rfl, hother⟩ := h
    exact hmembers false _ _ (hp.rescan ((st.run_bracket hother).symm.trans hp.scan))

/-! ## Repetition -/

theorem mirror_appetite :
    Mirror more base R (st.goto .items) (Same (st.goto .items)) appetite appetite := by
  have hlazy := st.step_items_plain (c := '?') (by decide)
  have hpossessive := st.step_items_plain (c := '+') (by decide)
  refine (mirror_accept hoptions hnumber (by decide) hlazy).bind ?_
  rintro isLazy _ _ ⟨rfl, rfl⟩
  rw [ite_self]
  refine mirror_ite (fun _ => mirror_pure ⟨rfl, rfl⟩) fun _ => ?_
  refine (mirror_accept hoptions hnumber (by decide) hpossessive).bind ?_
  rintro isPossessive _ _ ⟨rfl, rfl⟩
  rw [ite_self]
  exact mirror_ite (fun _ => mirror_pure ⟨rfl, rfl⟩) fun _ => mirror_pure ⟨rfl, rfl⟩

theorem mirror_braceBounds :
    Mirror more base R (st.goto .items) (Same (st.goto .items)) braceBounds braceBounds := by
  intro p p' hp
  apply mirrors_get
  -- The braces are bounds for both or for neither.
  have hbrace := hp.head_iff (c := Char.ofNat 0x7D) (by decide)
  have hquiet (c : Char) (hc : isDigit c = true) :
      (st.goto .items).step (.plain c) = .ok (st.goto .items) :=
    st.quiet_items c (isHex_of_isDigit hc)
  have hdigits {n n' : Nat} {q q' : Progress} (hn : q.rest.length ≤ n) (hn' : q'.rest.length ≤ n')
      (hq : Twin more base R (st.goto .items) q q') :=
    mirrors_takeClass hoptions hnumber rfl hquiet (.inr ⟨hn, hn'⟩) hq
  dsimp only
  rw [if_congr hbrace rfl rfl]
  refine mirrors_ite (fun _ => mirrors_pure ⟨_, ⟨rfl, rfl⟩, hp⟩) fun _ => ?_
  refine ((hdigits (Nat.le_refl _) (Nat.le_refl _) hp).advance (advances_takeClass _ _)
    (advances_takeClass _ _)).bind ?_
  rintro low q _ q' ⟨⟨rfl, hq⟩, hle, hle'⟩
  have hcomma := st.step_items_plain (c := ',') (by decide)
  have hhigh : Mirrors R True
      (do if ← accept ',' then takeClass isDigit p.rest.length else return low)
      (do if ← accept ',' then takeClass isDigit p'.rest.length else return low) q q'
      fun a r a' r' => a = a' ∧ Twin more base R (st.goto .items) r r' := by
    refine ((mirror_accept hoptions hnumber (by decide) hcomma q q' hq).advance (advances_accept _)
      (advances_accept _)).bind ?_
    rintro isOpen r _ r' ⟨⟨_, ⟨rfl, rfl⟩, hr⟩, hle₂, hle₂'⟩
    rw [ite_self] at hr
    exact mirrors_ite
      (fun _ => hdigits (Nat.le_trans hle₂ hle) (Nat.le_trans hle₂' hle') hr)
      fun _ => mirrors_pure ⟨rfl, hr⟩
  refine hhigh.bind ?_
  rintro high r _ r' ⟨rfl, hr⟩
  have hclose := st.step_items_plain (c := Char.ofNat 0x7D) (by decide)
  refine (mirror_accept hoptions hnumber (by decide) hclose r r' hr).bind ?_
  rintro isClosed s _ s' ⟨_, ⟨rfl, rfl⟩, hs⟩
  rw [ite_self] at hs
  refine mirrors_ite (fun _ => mirrors_of_run rfl rfl ⟨_, ⟨rfl, rfl⟩, hp⟩) fun _ => ?_
  refine mirror_unless .rfl ((fails_throw _).bind _) ((fails_throw _).bind _) ?_ s s' hs
  refine mirror_ite (fun _ => mirror_pure ⟨rfl, rfl⟩) fun _ => ?_
  refine mirror_unless .rfl ((fails_throw _).bind _) ((fails_throw _).bind _) ?_
  exact mirror_unless .rfl ((fails_refuseAt _ _).bind _) ((fails_refuseAt _ _).bind _)
    (mirror_pure ⟨rfl, rfl⟩)

theorem mirror_bounds (c : Char) :
    Mirror more base R (st.goto .items) (Same (st.goto .items)) (bounds c) (bounds c) :=
  mirror_ite (fun _ => mirror_pure ⟨rfl, rfl⟩) fun _ =>
    mirror_ite (fun _ => mirror_pure ⟨rfl, rfl⟩) fun _ =>
    mirror_ite (fun _ => mirror_pure ⟨rfl, rfl⟩) fun _ => mirror_braceBounds hoptions hnumber

/-- What was read last is repeated by both. -/
theorem mirror_repetition (start start' least : Nat) (most : Option Nat) {items items' : List Item}
    (h : List.Forall₂ Item.ShiftsTo items items') :
    Mirror more base R (st.goto .items)
      (fun a a' next => List.Forall₂ Item.ShiftsTo a a' ∧ next = st.goto .items)
      (repetition start least most items) (repetition start' least most items') := by
  have hrepeat {item item' : Item} {before before' : List Item} (hitem : item.ShiftsTo item')
      (hbefore : List.Forall₂ Item.ShiftsTo before before') :
      Mirror more base R (st.goto .items)
        (fun a a' next => List.Forall₂ Item.ShiftsTo a a' ∧ next = st.goto .items)
        (do
          let a ← appetite
          return .piece (.repetition (.repeated a least most item.node)) :: before)
        (do
          let a ← appetite
          return .piece (.repetition (.repeated a least most item'.node)) :: before') := by
    refine (mirror_appetite hoptions hnumber).bind ?_
    rintro a _ _ ⟨rfl, rfl⟩
    refine mirror_pure ⟨.cons (Piece.ShiftsTo.item ⟨?_, hitem.node.2⟩) hbefore, rfl⟩
    rw [hitem.node.1]
    rfl
  cases h with
  | nil => exact (fails_refuseAt _ _).mirror (fails_refuseAt _ _)
  | @cons item item' before before' hitem hbefore =>
    have hagain := hrepeat hitem hbefore
    obtain ⟨rfl, -⟩ := hitem
    cases item with
    | group pieces => exact hagain
    | piece p =>
      cases p with
      | place letter a => exact (fails_refuseAt _ _).mirror (fails_refuseAt _ _)
      | repetition n => exact (fails_refuseAt _ _).mirror (fails_refuseAt _ _)
      | test t => exact hagain
      | back index fold => exact hagain
      | whole n => exact hagain

end Reader
end Regex
end QueryOptions
