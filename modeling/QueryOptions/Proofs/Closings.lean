import QueryOptions.Proofs.ParallelReaders
import QueryOptions.Proofs.Intrusions

/-!
# QueryOptions.Proofs.Closings

A text inside of groups that are closed after it. What is scanned there is what is scanned of the
text on its own (`foldlM_within`), and what comes after it is no intrusion other than a group that
is closed too often. If the parentheses after the text close everything, then what the text opens it
closes itself (`run_within`): each of them closes at most one group (`length_le_of_step`), and the
first one would not be one of them, if the text ended in the middle of something.

* `Reader.Continued`: the symbols of a text that a closing parenthesis comes after;
* `Scan.within`: a scan with more groups around it;
* `Scan.Grounded`: in the middle of what begins a group, a group is open;
* `Zone.isCalm`: where the symbols after a text are no intrusions by themselves.
-/

namespace QueryOptions
namespace Regex

/-! ## Names with a backslash -/

theorem mem_dropWhile {α : Type} {inClass : α → Bool} {a : α} (ha : inClass a = false) {l : List α}
    (h : a ∈ l) : a ∈ l.dropWhile inClass := by
  induction l with
  | nil => cases h
  | cons b rest ih =>
    rw [List.dropWhile_cons]
    split
    · rename_i hb
      refine ih ((List.mem_cons.mp h).resolve_left fun hab => ?_)
      rw [← hab, ha] at hb
      cases hb
    · exact h

/-- A name with a backslash is neither the name nor the number of a group. -/
theorem noName_of_backslash {taken : List Char} (h : Text.backslash ∈ taken) :
    Text.isName taken = false ∧ Reader.groupNumber? taken = none := by
  have hcontinues : Text.continuesName Text.backslash.toNat = false := by decide +kernel
  have hstarts : Text.startsName Text.backslash.toNat = false :=
    (Bool.or_eq_false_iff.mp hcontinues).1
  have hdigit : Text.decimalValue? Text.backslash.toNat = none := by decide +kernel
  have hblank : Text.isBlank Text.backslash = false := by decide +kernel
  have hdigits {digits : List Char} (h : Text.backslash ∈ digits) (afterDigit : Bool) (n : Nat) :
      Text.readDigits afterDigit n digits = none := by
    induction digits generalizing afterDigit n with
    | nil => cases h
    | cons c rest ih =>
      unfold Text.readDigits
      rcases List.mem_cons.mp h with rfl | h
      · rw [if_neg (by decide), hdigit]
      · repeat' split
        all_goals first | exact ih h _ _ | rfl
  constructor
  · cases taken with
    | nil => cases h
    | cons c rest =>
      rw [Text.isName, Bool.and_eq_false_iff]
      rcases List.mem_cons.mp h with rfl | h
      · exact .inl hstarts
      · exact .inr (List.all_eq_false.mpr ⟨_, h, by rw [hcontinues]; nofun⟩)
  · have htrim : Text.backslash ∈ Text.trimWhere Text.isBlank taken :=
      List.mem_reverse.mpr (mem_dropWhile hblank (List.mem_reverse.mpr (mem_dropWhile hblank h)))
    have hnumber : Text.readInteger? taken = none := by
      unfold Text.readInteger?
      split
      · rename_i digits htaken
        rw [htaken] at htrim
        rw [hdigits ((List.mem_cons.mp htrim).resolve_left (by decide))]
        rfl
      · rename_i digits htaken
        rw [htaken] at htrim
        rw [hdigits ((List.mem_cons.mp htrim).resolve_left (by decide))]
        rfl
      · rw [hdigits htrim]
        rfl
    rw [Reader.groupNumber?, hnumber]

/-! ## Texts in two parts -/

namespace Reader

/-- The second symbols are the first ones, then a closing parenthesis and more. A lone backslash at
the end of the first ones escapes the parenthesis. -/
inductive Continued (more : List Symbol) : List Symbol → List Symbol → Prop where
  | close (rest : List Symbol) : Continued more rest (rest ++ .plain ')' :: more)
  | dangling (rest : List Symbol) :
      Continued more (rest ++ [.dangling]) (rest ++ .escaped ')' :: more)

theorem Continues.continued {more rest rest' : List Symbol} (h : Continues more rest rest') :
    Continued more rest rest' := by
  induction h with
  | close => exact .close []
  | dangling s => exact .dangling [s]
  | cons s _ ih =>
    cases ih with
    | close => exact .close (s :: _)
    | dangling rest => exact .dangling (s :: rest)

theorem continued_symbolsOf (text after : List Char) :
    Continued (symbolsOf after) (symbolsOf text) (symbolsOf (text ++ ')' :: after)) := by
  rcases continues_symbolsOf text after with ⟨hrest, hafter⟩ | h
  · rw [hrest, hafter]
    exact .dangling []
  · exact h.continued

end Reader

namespace Scan

variable {st st' : Scan} {s : Symbol}

theorem foldlM_cons_ok {symbols : List Symbol} :
    (s :: symbols).foldlM step st = .ok st' ↔
      ∃ next, st.step s = .ok next ∧ symbols.foldlM step next = .ok st' := by
  rw [List.foldlM_cons]
  cases st.step s with
  | error i => exact iff_of_false nofun fun ⟨_, h, _⟩ => nomatch h
  | ok next => exact ⟨fun h => ⟨next, rfl, h⟩, fun ⟨_, hnext, h⟩ => Except.ok.inj hnext ▸ h⟩

/-! ## Groups around a text -/

/-- The same scan with more groups around it. -/
def within (st : Scan) (around : List Bool) : Scan := { st with outer := st.outer ++ around }

theorem apply_within (around : List Bool) {move : Move} (h : st.apply move = .ok st') :
    (st.within around).apply move = .ok (st'.within around) := by
  cases move with
  | leave =>
    cases houter : st.outer with
    | nil =>
      simp only [apply, close, houter] at h
      cases h
    | cons verbose outer =>
      cases (close_of_outer houter).symm.trans h
      exact close_of_outer (by rw [within, houter]; rfl)
  | _ =>
    cases h
    rfl

theorem step_within (around : List Bool) (h : st.step s = .ok st') :
    (st.within around).step s = .ok (st'.within around) := by
  obtain ⟨move, hmove, happly⟩ := step_eq_ok_iff.mp h
  exact step_eq_ok_iff.mpr ⟨move, hmove, apply_within around happly⟩

/-- A text is scanned inside of groups as it is on its own. -/
theorem foldlM_within (around : List Bool) {symbols : List Symbol}
    (h : symbols.foldlM step st = .ok st') :
    symbols.foldlM step (st.within around) = .ok (st'.within around) := by
  induction symbols generalizing st with
  | nil =>
    cases h
    rfl
  | cons s symbols ih =>
    obtain ⟨next, hstep, hnext⟩ := foldlM_cons_ok.mp h
    exact foldlM_cons_ok.mpr ⟨next.within around, step_within around hstep, ih hnext⟩

/-! ## Open groups -/

theorem length_le_of_apply {move : Move} (h : st.apply move = .ok st') :
    st.outer.length ≤ st'.outer.length + if move = .leave then 1 else 0 := by
  cases move with
  | leave =>
    cases houter : st.outer with
    | nil => exact Nat.zero_le _
    | cons verbose outer =>
      cases (close_of_outer houter).symm.trans h
      exact Nat.le_refl _
  | enter =>
    cases h
    exact Nat.le_trans (Nat.le_succ _) (Nat.le_add_right _ _)
  | goto zone =>
    cases h
    exact Nat.le_add_right _ _
  | under added removed =>
    cases h
    exact Nat.le_add_right _ _

/-- Nothing but a parenthesis closes a group, and it closes one only. -/
theorem length_le_of_step (h : st.step s = .ok st') :
    st.outer.length ≤ st'.outer.length + if s = .plain ')' then 1 else 0 := by
  obtain ⟨move, hmove, happly⟩ := step_eq_ok_iff.mp h
  have hlength := length_le_of_apply happly
  by_cases hleave : move = .leave
  · rw [if_pos hleave] at hlength
    rwa [if_pos (Zone.eq_close_of_move (hleave ▸ hmove))]
  · rw [if_neg hleave] at hlength
    exact Nat.le_trans hlength (Nat.add_le_add_left (Nat.zero_le _) _)

theorem length_le_of_foldlM {symbols : List Symbol} (h : symbols.foldlM step st = .ok st') :
    st.outer.length ≤ st'.outer.length + symbols.count (.plain ')') := by
  induction symbols generalizing st with
  | nil =>
    cases h
    exact Nat.le_refl _
  | cons s symbols ih =>
    obtain ⟨next, hstep, hnext⟩ := foldlM_cons_ok.mp h
    have hfirst := length_le_of_step hstep
    have hrest := ih hnext
    rw [List.count_cons]
    simp only [beq_iff_eq]
    omega

end Scan

/-! ## What begins a group -/

namespace Zone

/-- What is only read inside of a group. -/
def inGroup : Zone → Bool
  | .name (.character _) _ => false
  | .name _ _ => true
  | .comment => true
  | .group => true
  | .extension => true
  | .naming => true
  | .behind => true
  | .adding _ => true
  | .removing _ _ => true
  | _ => false

theorem inGroup_member (first : Bool) (s : Symbol) : (member first s).inGroup = false := by
  unfold member
  repeat' split
  all_goals rfl

theorem inGroup_itemMove {verbose : Bool} {s : Symbol} {after : Zone}
    (h : s.itemMove verbose = .ok (.goto after)) : after.inGroup = false := by
  cases s with
  | dangling =>
    cases h
    rfl
  | plain c =>
    simp only [Symbol.itemMove] at h
    repeat' split at h
    all_goals cases h
    all_goals rfl
  | escaped c =>
    simp only [Symbol.itemMove] at h
    repeat' split at h
    all_goals cases h
    all_goals rfl

/-- What begins a group goes on, or a group is opened first. -/
theorem inGroup_of_move {verbose : Bool} {s : Symbol} {zone after : Zone}
    (h : zone.move verbose s = .ok (.goto after)) (hafter : after.inGroup = true) :
    zone.inGroup = true := by
  unfold move at h
  split at h
  · cases zone <;> cases h <;> cases hafter
  cases zone with
  | items =>
    rw [inGroup_itemMove h] at hafter
    cases hafter
  | octal more =>
    cases s with
    | plain c =>
      dsimp only at h
      split at h <;> cases h
      split at hafter <;> cases hafter
    | _ => cases h
  | brace inSet =>
    cases h
    split at hafter <;> cases hafter
  | name l taken =>
    cases l with
    | character inSet =>
      dsimp only at h
      split at h <;> cases h
      · split at hafter <;> cases hafter
      · cases hafter
    | _ => rfl
  | bracket =>
    cases h
    split at hafter
    · cases hafter
    · rw [inGroup_member] at hafter
      cases hafter
  | opened =>
    cases h
    rw [inGroup_member] at hafter
    cases hafter
  | members =>
    cases h
    rw [inGroup_member] at hafter
    cases hafter
  | line =>
    cases h
    split at hafter <;> cases hafter
  | stuck =>
    cases h
    cases hafter
  | _ => rfl

/-- Outside of what begins a group, a parenthesis closes one only between items. -/
theorem eq_items_of_move {verbose : Bool} {s : Symbol} {zone : Zone}
    (h : zone.move verbose s = .ok .leave) (hzone : zone.inGroup = false) : zone = .items := by
  unfold move at h
  split at h
  · cases zone <;> cases h
  cases zone with
  | items => rfl
  | octal more =>
    cases s with
    | plain c =>
      dsimp only at h
      split at h <;> cases h
    | _ => cases h
  | name l taken =>
    cases l with
    | character inSet =>
      dsimp only at h
      split at h <;> cases h
    | _ => cases hzone
  | _ => first | cases h | cases hzone

/-- Where a parenthesis, a dot, a star or a dollar sign is no intrusion by itself. -/
def isCalm : Zone → Bool
  | .items => true
  | .members => true
  | .line => true
  | .comment => true
  | .stuck => true
  | .name .condition taken => taken.contains Text.backslash
  | .name _ _ => true
  | _ => false

/-- One of these characters leads to no other intrusion than a closed group, and neither will the
next one. -/
theorem move_of_isCalm {zone : Zone} (h : zone.isCalm = true) (verbose : Bool) {c : Char}
    (hc : c ∈ [')', '.', '*', '$']) :
    zone.move verbose (.plain c) = .ok .leave ∨
      ∃ after : Zone, zone.move verbose (.plain c) = .ok (.goto after) ∧ after.isCalm = true := by
  have hbrace : c ≠ Char.ofNat 0x7D := by
    rintro rfl
    exact absurd hc (by decide)
  have hangle : c ≠ '>' := by
    rintro rfl
    exact absurd hc (by decide)
  cases zone with
  | items =>
    by_cases hclose : c = ')'
    · rw [hclose]
      cases verbose <;> exact .inl rfl
    · refine .inr ⟨.items, ?_, rfl⟩
      have hother : c ∉ ['#', '[', '(', ')'] := by
        simp only [List.mem_cons, List.not_mem_nil, or_false] at hc
        rcases hc with rfl | rfl | rfl | rfl
        · exact absurd rfl hclose
        all_goals decide
      simp only [List.mem_cons, List.not_mem_nil, or_false, not_or] at hother
      simp [move, Symbol.itemMove, hother]
  | members =>
    refine .inr ⟨member false (.plain c), rfl, ?_⟩
    unfold member
    repeat' split
    all_goals first | rfl | cases ‹Symbol.plain c = .escaped 'N'›
  | line =>
    refine .inr ⟨_, rfl, ?_⟩
    split <;> rfl
  | comment =>
    by_cases hclose : c = ')'
    · rw [hclose]
      exact .inl rfl
    · exact .inr ⟨.comment, congrArg _ (if_neg fun hs => hclose (Symbol.plain.inj hs)), rfl⟩
  | stuck => exact .inr ⟨.stuck, rfl, rfl⟩
  | name l taken =>
    by_cases hclose : c = l.terminator
    · rw [hclose]
      cases l with
      | character inSet => exact absurd hclose hbrace
      | group => exact absurd hclose hangle
      | reference => exact .inl rfl
      | condition =>
        obtain ⟨hname, hnumber⟩ := noName_of_backslash (List.contains_iff_mem.mp h)
        refine .inr ⟨.stuck, ?_, rfl⟩
        have hmove : Zone.move verbose (.plain ')') (.name .condition taken)
            = Label.move taken .condition := rfl
        rw [show Label.condition.terminator = ')' from rfl, hmove, Label.move, hname, hnumber]
        rfl
    · refine .inr ⟨_, if_neg fun hs => hclose (Symbol.plain.inj hs), ?_⟩
      cases l with
      | condition =>
        exact List.contains_iff_mem.mpr (List.mem_append_left _ (List.contains_iff_mem.mp h))
      | _ => rfl
  | _ => cases h

/-- After a closing parenthesis everything is calm, where a text could have ended. -/
theorem move_close {st : Scan} {b : Bool} (h : st.finish = .ok b) :
    st.zone.move st.verbose (.plain ')') = .ok .leave ∨
      ∃ after : Zone, st.zone.move st.verbose (.plain ')') = .ok (.goto after) ∧
        after.isCalm = true := by
  by_cases hcalm : st.zone.isCalm = true
  · exact move_of_isCalm hcalm st.verbose (.head _)
  unfold Scan.finish at h
  generalize st.zone = zone at h hcalm ⊢
  cases zone with
  | octal more => cases h
  | adding added => cases h
  | brace inSet => exact .inr ⟨.stuck, rfl, rfl⟩
  | bracket => exact .inr ⟨.members, rfl, rfl⟩
  | opened => exact .inr ⟨.members, rfl, rfl⟩
  | group => cases st.verbose <;> exact .inl rfl
  | extension => exact .inr ⟨.stuck, rfl, rfl⟩
  | naming => exact .inr ⟨.stuck, rfl, rfl⟩
  | behind => exact .inr ⟨.stuck, rfl, rfl⟩
  | removing added removed => exact .inr ⟨.stuck, rfl, rfl⟩
  | name l taken =>
    cases l with
    | condition =>
      have hmove : Zone.move st.verbose (.plain ')') (.name .condition taken)
          = Label.move taken .condition := rfl
      have hnumber : ¬(!Text.isName taken && (Reader.groupNumber? taken).isSome) = true := by
        intro hnumber
        dsimp only at h
        rw [if_pos hnumber] at h
        cases h
      rw [hmove, Label.move]
      by_cases hname : Text.isName taken = true
      · rw [if_pos hname]
        exact .inr ⟨.items, rfl, rfl⟩
      · rw [if_neg hname, if_neg (by simpa [hname] using hnumber)]
        exact .inr ⟨.stuck, rfl, rfl⟩
    | _ => exact absurd rfl hcalm
  | _ => exact absurd rfl hcalm

/-- After an escaped parenthesis everything is calm, unless it comes after a number. -/
theorem move_escaped {zone : Zone} (h : zone.cutOff = .ok (.goto .stuck)) (verbose : Bool) :
    ∃ after : Zone, zone.move verbose (.escaped ')') = .ok (.goto after) ∧ after.isCalm = true := by
  cases zone with
  | octal more => cases h
  | name l taken =>
    refine ⟨_, rfl, ?_⟩
    cases l with
    | condition => exact List.contains_iff_mem.mpr (List.mem_append_right _ (.head _))
    | _ => rfl
  | _ => exact ⟨_, rfl, rfl⟩

end Zone

namespace Scan

variable {st st' : Scan}

/-- In the middle of what begins a group, a group is open. -/
def Grounded (st : Scan) : Prop := st.zone.inGroup = true → st.outer ≠ []

theorem grounded_start : Grounded {} := nofun

theorem Grounded.step {s : Symbol} (hst : st.Grounded) (h : st.step s = .ok st') :
    st'.Grounded := by
  obtain ⟨move, hmove, happly⟩ := step_eq_ok_iff.mp h
  intro hzone
  cases move with
  | goto zone =>
    cases happly
    exact hst (Zone.inGroup_of_move hmove hzone)
  | enter =>
    cases happly
    nofun
  | under added removed =>
    cases happly
    cases hzone
  | leave =>
    cases houter : st.outer with
    | nil =>
      simp only [apply, close, houter] at happly
      cases happly
    | cons verbose outer =>
      cases (close_of_outer houter).symm.trans happly
      cases hzone

theorem Grounded.foldlM {symbols : List Symbol} (hst : st.Grounded)
    (h : symbols.foldlM Scan.step st = .ok st') : st'.Grounded := by
  induction symbols generalizing st with
  | nil =>
    cases h
    exact hst
  | cons s symbols ih =>
    obtain ⟨next, hstep, hnext⟩ := foldlM_cons_ok.mp h
    exact ih (hst.step hstep) hnext

/-! ## A text and a few symbols after it -/

/-- Nothing but a closed group too many comes of a symbol that leads to what is calm. -/
theorem step_of_calm {s : Symbol}
    (h : st.zone.move st.verbose s = .ok .leave ∨
      ∃ after : Zone, st.zone.move st.verbose s = .ok (.goto after) ∧ after.isCalm = true) :
    st.step s = .error .closing ∨ ∃ st', st.step s = .ok st' ∧ st'.zone.isCalm = true := by
  rcases h with hmove | ⟨zone, hmove, hzone⟩
  · cases houter : st.outer with
    | nil =>
      refine .inl (step_eq_error_iff.mpr (.inr ⟨.leave, hmove, ?_⟩))
      simp only [apply, close, houter]
    | cons verbose outer =>
      exact .inr ⟨_, step_eq_ok_iff.mpr ⟨.leave, hmove, close_of_outer houter⟩, rfl⟩
  · exact .inr ⟨_, step_eq_ok_iff.mpr ⟨.goto zone, hmove, rfl⟩, hzone⟩

theorem finish_of_isCalm (h : st.zone.isCalm = true) : ∃ b, st.finish = .ok b := by
  unfold finish
  generalize st.zone = zone at h ⊢
  cases zone with
  | name l taken =>
    cases l with
    | condition =>
      dsimp only
      rw [(noName_of_backslash (List.contains_iff_mem.mp h)).2]
      exact ⟨false, by simp⟩
    | _ => exact ⟨_, rfl⟩
  | octal more => cases h
  | adding added => cases h
  | _ => exact ⟨_, rfl⟩

/-- From a calm zone, characters that leave it calm do nothing but close groups, perhaps one too
many. -/
theorem run_of_isCalm (h : st.zone.isCalm = true) {after : List Char}
    (hafter : ∀ c ∈ after, c ∈ [')', '.', '*', '$']) :
    st.run (after.map .plain) = .error .closing ∨ ∃ b, st.run (after.map .plain) = .ok b := by
  induction after generalizing st with
  | nil => exact .inr (finish_of_isCalm h)
  | cons c after ih =>
    obtain ⟨hc, hafter⟩ := List.forall_mem_cons.mp hafter
    rw [List.map_cons]
    rcases step_of_calm (Zone.move_of_isCalm h st.verbose hc) with hstep | ⟨st₁, hstep, hcalm⟩
    · exact .inl (run_cons_error hstep _)
    · rw [run_cons_ok hstep]
      exact ih hcalm hafter

theorem run_cons_of_calm (st : Scan) {s : Symbol}
    (h : st.zone.move st.verbose s = .ok .leave ∨
      ∃ after : Zone, st.zone.move st.verbose s = .ok (.goto after) ∧ after.isCalm = true)
    {after : List Char} (hafter : ∀ c ∈ after, c ∈ [')', '.', '*', '$']) :
    st.run (s :: after.map .plain) = .error .closing ∨
      ∃ b, st.run (s :: after.map .plain) = .ok b := by
  rcases step_of_calm h with hstep | ⟨st₁, hstep, hcalm⟩
  · exact .inl (run_cons_error hstep _)
  · rw [run_cons_ok hstep]
    exact run_of_isCalm hcalm hafter

theorem finish_eq_true (h : st.finish = .ok true) : st.zone = .items ∧ st.outer = [] := by
  unfold finish at h
  split at h
  · exact ⟨‹_›, List.isEmpty_iff.mp (Except.ok.inj h)⟩
  · cases h
  · cases h
  · split at h <;> cases h
  · cases h

theorem run_eq_true {symbols : List Symbol} (h : st.run symbols = .ok true) :
    ∃ st', symbols.foldlM step st = .ok st' ∧ st'.outer = [] := by
  unfold run at h
  cases hfold : symbols.foldlM step st with
  | error i =>
    rw [hfold] at h
    cases h
  | ok st' =>
    rw [hfold] at h
    exact ⟨st', rfl, (finish_eq_true h).2⟩

/-- Too few parentheses do not close everything. -/
theorem run_within_ne_true {around : List Bool} {symbols : List Symbol}
    (hcount : symbols.count (.plain ')') < around.length) :
    (st.within around).run symbols ≠ .ok true := by
  intro h
  obtain ⟨st', hfold, hend⟩ := run_eq_true h
  have hlength := length_le_of_foldlM hfold
  rw [hend, within, List.length_append, List.length_nil] at hlength
  omega

/-- If each parenthesis after a text has to close one of the groups around it, and all of them are
closed in the end, the text closes its own groups. -/
theorem finish_of_run_within {around : List Bool} {after : List Symbol} (hst : st.Grounded)
    (hcount : after.count (.plain ')') < around.length)
    (h : (st.within around).run (.plain ')' :: after) = .ok true) : st.finish = .ok true := by
  obtain ⟨st₂, hfold, hend⟩ := run_eq_true h
  obtain ⟨st₁, hstep, hrest⟩ := foldlM_cons_ok.mp hfold
  obtain ⟨move, hmove, happly⟩ := step_eq_ok_iff.mp hstep
  have hmove : st.zone.move st.verbose (.plain ')') = .ok move := hmove
  have hlength : st.outer.length + around.length
      ≤ after.count (.plain ')') + if move = .leave then 1 else 0 := by
    have hfirst := length_le_of_apply happly
    have hrest := length_le_of_foldlM hrest
    rw [hend, List.length_nil] at hrest
    rw [within, List.length_append] at hfirst
    omega
  by_cases hleave : move = .leave
  · rw [if_pos hleave] at hlength
    have houter : st.outer = [] := List.length_eq_zero_iff.mp (by omega)
    have hzone : st.zone.inGroup = false := by
      rw [← Bool.not_eq_true]
      exact fun hzone => hst hzone houter
    rw [finish, Zone.eq_items_of_move (hleave ▸ hmove) hzone, houter]
    rfl
  · rw [if_neg hleave] at hlength
    omega

/-- What comes of a text inside of groups, if there is no intrusion in it: none but a group that is
closed too often. If everything is closed, the text closes its own groups. -/
theorem run_within {around : List Bool} {after : List Char} {rest rest' : List Symbol} {b : Bool}
    (hcontinued : Reader.Continued (after.map .plain) rest rest')
    (hafter : ∀ c ∈ after, c ∈ [')', '.', '*', '$'])
    (hcount : (after.map Symbol.plain).count (.plain ')') < around.length)
    (h : Scan.run {} rest = .ok b) :
    ((Scan.within {} around).run rest' = .error .closing ∨
      ∃ b, (Scan.within {} around).run rest' = .ok b) ∧
    ((Scan.within {} around).run rest' = .ok true → b = true) := by
  cases hcontinued with
  | close =>
    obtain ⟨st, hfold, hfinish⟩ : ∃ st, rest.foldlM step {} = .ok st ∧ st.finish = .ok b := by
      unfold run at h
      cases hfold : rest.foldlM step {} with
      | error i =>
        rw [hfold] at h
        cases h
      | ok st =>
        rw [hfold] at h
        exact ⟨st, rfl, h⟩
    have hrun : (Scan.within {} around).run (rest ++ .plain ')' :: after.map .plain)
        = (st.within around).run (.plain ')' :: after.map .plain) := by
      rw [run_append, foldlM_within around hfold]
      rfl
    rw [hrun]
    have hcalm := Zone.move_close hfinish
    refine ⟨run_cons_of_calm (st.within around) hcalm hafter, ?_⟩
    intro hclosed
    have hends := finish_of_run_within (grounded_start.foldlM hfold) hcount hclosed
    exact Except.ok.inj (hfinish.symm.trans hends)
  | dangling before =>
    obtain ⟨st, hfold, hcut⟩ : ∃ st, before.foldlM step {} = .ok st ∧
        st.zone.cutOff = .ok (.goto .stuck) := by
      rw [run_append] at h
      cases hfold : before.foldlM step {} with
      | error i =>
        rw [hfold] at h
        cases h
      | ok st =>
        rw [hfold] at h
        refine ⟨st, rfl, ?_⟩
        have hmove : st.zone.move st.verbose .dangling = st.zone.cutOff := if_pos rfl
        cases hzone : st.zone with
        | octal more =>
          have hstep : st.step .dangling = .error .number :=
            step_eq_error_iff.mpr (.inl (hmove.trans (by rw [hzone]; rfl)))
          cases (run_cons_error hstep []).symm.trans h
        | _ => rfl
    have hrun : (Scan.within {} around).run (before ++ .escaped ')' :: after.map .plain)
        = (st.within around).run (.escaped ')' :: after.map .plain) := by
      rw [run_append, foldlM_within around hfold]
      rfl
    rw [hrun]
    have hcalm := Zone.move_escaped hcut st.verbose
    refine ⟨run_cons_of_calm (st.within around) (.inr hcalm) hafter,
      fun hclosed => absurd hclosed (run_within_ne_true ?_)⟩
    rwa [List.count_cons_of_ne (by simp)]

end Scan
end Regex
end QueryOptions
