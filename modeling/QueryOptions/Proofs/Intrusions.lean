import QueryOptions.Regex.Parser

/-!
# QueryOptions.Proofs.Intrusions

What in a text reaches beyond it when it is written into a regular expression. A pattern that is put
into a group is the same pattern there, unless it has options for the whole expression, refers to a
group by its number, or closes the group that it was put into. Where these are is a matter of the
text alone: it is scanned once from left to right, with a memory of the groups that are open and of
what the next symbol belongs to.

* `Scan.step`, `Scan.finish`, `Scan.run`: one symbol, the end of a text, and all of it;
* `intrusion?`: the first intrusion of a text;
* `Scan.run_cons`, `Scan.run_append`: a text in two parts.
-/

namespace QueryOptions
namespace Regex

/-- What reaches beyond a text. -/
inductive Intrusion where
  /-- Options for the whole expression. -/
  | options
  /-- A reference to a group by its number. -/
  | number
  /-- A parenthesis that closes no group of the text. -/
  | closing
deriving DecidableEq, Repr

/-- What a name is given for. -/
inductive Label where
  /-- A character, perhaps inside of a set. -/
  | character (inSet : Bool)
  /-- A group that is opened. -/
  | group
  /-- A reference to a group. -/
  | reference
  /-- A question about a group. -/
  | condition
deriving DecidableEq, Repr

/-- The character that ends a name. -/
def Label.terminator : Label → Char
  | .character _ => Char.ofNat 0x7D
  | .group => '>'
  | .reference => ')'
  | .condition => ')'

/-- What the next symbol belongs to. -/
inductive Zone where
  /-- Items of a sequence. -/
  | items
  /-- The octal digits of a character, of which so many have to come after the next one. -/
  | octal (more : Nat)
  /-- The brace before the name of a character. -/
  | brace (inSet : Bool)
  /-- A name, of which so much has been read. -/
  | name (l : Label) (taken : List Char)
  /-- A set, right after its bracket. -/
  | bracket
  /-- A set without members so far. -/
  | opened
  | members
  /-- A comment up to the end of the line. -/
  | line
  /-- A comment up to a closing parenthesis. -/
  | comment
  /-- A group, right after its parenthesis. -/
  | group
  /-- A group that is announced to be of another kind. -/
  | extension
  /-- A group that has something to do with a name. -/
  | naming
  /-- A look-behind. -/
  | behind
  /-- Letters of options; among them may be the one for verbose expressions. -/
  | adding (verbose : Bool)
  /-- Letters of options after a minus sign. -/
  | removing (added removed : Bool)
  /-- No regular expression goes on here. -/
  | stuck
deriving DecidableEq, Repr

/-- What comes of a symbol. -/
inductive Move where
  /-- The next symbol belongs to this. -/
  | goto (zone : Zone)
  /-- A group is opened. -/
  | enter
  /-- The last group is closed. -/
  | leave
  /-- The items of a group come next, with the verbose option turned on or off before. -/
  | under (added removed : Bool)
deriving DecidableEq, Repr

/-- A symbol of a sequence. -/
def Symbol.itemMove (verbose : Bool) : Symbol → Except Intrusion Move
  | .dangling => .ok (.goto .stuck)
  | .escaped c =>
    if c = 'N' then .ok (.goto (.brace false))
    else if c = '0' || !isDigit c then .ok (.goto .items)
    else if isOctal c then .ok (.goto (.octal 1))
    else .error .number
  | .plain c =>
    if verbose && isSkipped c then .ok (.goto .items)
    else if verbose && c = '#' then .ok (.goto .line)
    else if c = '[' then .ok (.goto .bracket)
    else if c = '(' then .ok .enter
    else if c = ')' then .ok .leave
    else .ok (.goto .items)

/-- What comes after a name. -/
def Label.move (taken : List Char) : Label → Except Intrusion Move
  | .character inSet => .ok (.goto (if inSet then .members else .items))
  | .group => .ok (.goto .items)
  | .reference => .ok .leave
  | .condition =>
    if Text.isName taken then .ok (.goto .items)
    else if (Reader.groupNumber? taken).isSome then .error .number
    else .ok (.goto .stuck)

namespace Zone

/-- A symbol of a set; the first one may be a bracket. -/
def member (first : Bool) (s : Symbol) : Zone :=
  if s = .escaped 'N' then .brace true
  else if s = .plain ']' && !first then .items
  else .members

/-- The kind of a group. -/
def extend (s : Symbol) : Zone :=
  if s = .plain 'P' then .naming
  else if s = .plain ':' || s = .plain '=' || s = .plain '!' || s = .plain '>' then .items
  else if s = .plain '#' then .comment
  else if s = .plain '<' then .behind
  else if s = .plain '(' then .name .condition []
  else if s = .plain '-' then .removing false false
  else
    match s.flag? with
    | some (_, f) => .adding f.verbose
    | none => .stuck

/-- What comes of a backslash at the very end, which may be right after a number. -/
def cutOff : Zone → Except Intrusion Move
  | .octal _ => .error .number
  | _ => .ok (.goto .stuck)

/-- What comes of the next symbol. -/
def move (verbose : Bool) (s : Symbol) (zone : Zone) : Except Intrusion Move :=
  if s = .dangling then zone.cutOff
  else
    match zone with
    | .items => s.itemMove verbose
    | .octal more =>
      match s with
      | .plain c =>
        if isOctal c then .ok (.goto (if more = 0 then .items else .octal (more - 1)))
        else .error .number
      | _ => .error .number
    | .brace inSet =>
      .ok (.goto (if s = .plain (Char.ofNat 0x7B) then .name (.character inSet) [] else .stuck))
    | .name l taken =>
      if s = .plain l.terminator then l.move taken else .ok (.goto (.name l (taken ++ s.chars)))
    | .bracket => .ok (.goto (if s = .plain '^' then .opened else member true s))
    | .opened => .ok (.goto (member true s))
    | .members => .ok (.goto (member false s))
    | .line => .ok (.goto (if s = .plain '\n' then .items else .line))
    | .comment => .ok (if s = .plain ')' then .leave else .goto .comment)
    | .group => if s = .plain '?' then .ok (.goto .extension) else s.itemMove verbose
    | .extension => .ok (.goto (extend s))
    | .naming =>
      .ok (.goto
        (if s = .plain '<' then .name .group []
          else if s = .plain '=' then .name .reference [] else .stuck))
    | .behind => .ok (.goto (if s = .plain '=' || s = .plain '!' then .items else .stuck))
    | .adding added =>
      if s = .plain ')' then .error .options
      else if s = .plain '-' then .ok (.goto (.removing added false))
      else if s = .plain ':' then .ok (.under added false)
      else
        match s.flag? with
        | some (_, f) => .ok (.goto (.adding (added || f.verbose)))
        | none => .ok (.goto .stuck)
    | .removing added removed =>
      if s = .plain ':' then .ok (.under added removed)
      else
        match s.flag? with
        | some (_, f) => .ok (.goto (.removing added (removed || f.verbose)))
        | none => .ok (.goto .stuck)
    | .stuck => .ok (.goto .stuck)

end Zone

/-- How far a text has been scanned. -/
structure Scan where
  zone : Zone := .items
  /-- Whether blanks are skipped and comments are possible. -/
  verbose : Bool := false
  /-- Whether they are outside of each open group, the last one first. -/
  outer : List Bool := []
deriving DecidableEq, Repr

namespace Scan

/-- The same groups in another zone. -/
def goto (st : Scan) (zone : Zone) : Scan := { st with zone }

def under (st : Scan) (added removed : Bool) : Scan :=
  { st with zone := .items, verbose := (st.verbose || added) && !removed }

def close (st : Scan) : Except Intrusion Scan :=
  match st.outer with
  | [] => .error .closing
  | verbose :: outer => .ok ⟨.items, verbose, outer⟩

/-- What a move leads to. -/
def apply (st : Scan) : Move → Except Intrusion Scan
  | .goto zone => .ok (st.goto zone)
  | .enter => .ok ⟨.group, st.verbose, st.verbose :: st.outer⟩
  | .leave => st.close
  | .under added removed => .ok (st.under added removed)

def step (st : Scan) (s : Symbol) : Except Intrusion Scan := do
  st.apply (← st.zone.move st.verbose s)

end Scan

/-! ## Steps -/

theorem Symbol.ne_dangling_of_flag {s : Symbol} {letter : Char × Flags}
    (h : s.flag? = some letter) : s ≠ .dangling := by
  rintro rfl
  cases h

theorem Symbol.itemMove_ne (verbose : Bool) (s : Symbol) :
    s.itemMove verbose ≠ .error .closing := by
  cases s with
  | dangling => nofun
  | escaped c =>
    simp only [itemMove]
    repeat' split
    all_goals nofun
  | plain c =>
    simp only [itemMove]
    repeat' split
    all_goals nofun

theorem Label.move_ne (taken : List Char) (l : Label) : l.move taken ≠ .error .closing := by
  cases l with
  | condition =>
    simp only [move]
    repeat' split
    all_goals nofun
  | _ => nofun

/-- No symbol is an intrusion because of a group that it closes, whatever groups are open. -/
theorem Zone.move_ne (verbose : Bool) (s : Symbol) (zone : Zone) :
    zone.move verbose s ≠ .error .closing := by
  unfold move
  split
  · cases zone <;> nofun
  cases zone with
  | items => exact s.itemMove_ne verbose
  | name l taken =>
    dsimp only
    split
    · exact l.move_ne taken
    · nofun
  | group =>
    dsimp only
    split
    · nofun
    · exact s.itemMove_ne verbose
  | octal more =>
    cases s with
    | plain c =>
      dsimp only
      split <;> nofun
    | _ => nofun
  | adding verbose =>
    dsimp only
    repeat' split
    all_goals nofun
  | removing added removed =>
    dsimp only
    repeat' split
    all_goals nofun
  | _ => nofun

theorem Label.eq_reference_of_move {taken : List Char} {l : Label} (h : l.move taken = .ok .leave) :
    l = .reference := by
  cases l with
  | reference => rfl
  | condition =>
    simp only [move] at h
    repeat' split at h
    all_goals cases h
  | _ => cases h

namespace Zone

theorem eq_close_of_move {verbose : Bool} {s : Symbol} {zone : Zone}
    (h : zone.move verbose s = .ok .leave) : s = .plain ')' := by
  have hitem (h : s.itemMove verbose = .ok .leave) : s = .plain ')' := by
    cases s with
    | plain c =>
      simp only [Symbol.itemMove] at h
      repeat' split at h
      all_goals first | exact congrArg Symbol.plain ‹c = ')'› | cases h
    | escaped c =>
      simp only [Symbol.itemMove] at h
      repeat' split at h
      all_goals cases h
    | dangling => cases h
  unfold move at h
  split at h
  · cases zone <;> cases h
  cases zone with
  | items => exact hitem h
  | group =>
    dsimp only at h
    split at h
    · cases h
    · exact hitem h
  | comment =>
    dsimp only at h
    split at h
    · assumption
    · cases h
  | name l taken =>
    dsimp only at h
    split at h
    · rename_i hs
      rw [hs, Label.eq_reference_of_move h]
      rfl
    · cases h
  | octal more =>
    cases s with
    | plain c =>
      dsimp only at h
      split at h <;> cases h
    | _ => cases h
  | adding added =>
    dsimp only at h
    repeat' split at h
    all_goals cases h
  | removing added removed =>
    dsimp only at h
    repeat' split at h
    all_goals cases h
  | _ => cases h

/-- The zone of a set that has members, or none so far. -/
def inSet (empty : Bool) : Zone := if empty then .opened else .members

theorem move_inSet (verbose empty : Bool) (s : Symbol) :
    (inSet empty).move verbose s
      = .ok (.goto (if s = .dangling then .stuck else member empty s)) := by
  rw [apply_ite Move.goto, apply_ite Except.ok]
  cases empty <;> rfl

theorem member_other {empty : Bool} {s : Symbol}
    (hs : ¬(s = .plain ']' && !empty) = true) :
    member empty s = if s = .escaped 'N' then .brace true else .members := by
  unfold member
  rw [if_neg hs]

/-- What is of no other kind is a group under options. -/
theorem extend_flag {s : Symbol} {letter : Char × Flags}
    (hflag : s.flag? = some letter) : extend s = .adding letter.2.verbose := by
  cases s with
  | plain c =>
    have hc : c ∉ ['P', ':', '=', '!', '>', '#', '<', '(', '-'] := by
      simp only [List.mem_cons, List.not_mem_nil, or_false]
      rintro (rfl | rfl | rfl | rfl | rfl | rfl | rfl | rfl | rfl) <;> cases hflag
    simp only [List.mem_cons, List.not_mem_nil, or_false, not_or] at hc
    simp [extend, hflag, hc]
  | _ => cases hflag

end Zone

namespace Scan

theorem step_eq_ok_iff {st st' : Scan} {s : Symbol} :
    st.step s = .ok st' ↔
      ∃ move, st.zone.move st.verbose s = .ok move ∧ st.apply move = .ok st' := by
  unfold step
  cases st.zone.move st.verbose s with
  | error i => exact iff_of_false nofun fun ⟨_, h, _⟩ => nomatch h
  | ok move => exact ⟨fun h => ⟨move, rfl, h⟩, fun ⟨_, hmove, h⟩ => Except.ok.inj hmove ▸ h⟩

theorem step_eq_error_iff {st : Scan} {s : Symbol} {i : Intrusion} :
    st.step s = .error i ↔ st.zone.move st.verbose s = .error i ∨
      ∃ move, st.zone.move st.verbose s = .ok move ∧ st.apply move = .error i := by
  unfold step
  cases st.zone.move st.verbose s with
  | error j => exact ⟨fun h => .inl (congrArg _ (Except.error.inj h)), fun h =>
      h.elim (fun h => congrArg _ (Except.error.inj h)) fun ⟨_, h, _⟩ => nomatch h⟩
  | ok move => exact ⟨fun h => .inr ⟨move, rfl, h⟩, fun h =>
      h.elim nofun fun ⟨_, hmove, h⟩ => Except.ok.inj hmove ▸ h⟩

theorem close_of_outer {st : Scan} {verbose : Bool} {outer : List Bool}
    (h : st.outer = verbose :: outer) : st.close = .ok ⟨.items, verbose, outer⟩ := by
  unfold close
  rw [h]

/-- Where no group is open, none can be closed. -/
theorem apply_eq_error {st : Scan} {move : Move} {i : Intrusion} (h : st.apply move = .error i) :
    move = .leave ∧ st.outer = [] ∧ i = .closing := by
  cases move with
  | leave =>
    cases houter : st.outer with
    | nil =>
      simp only [apply, close, houter] at h
      exact ⟨rfl, rfl, (Except.error.inj h).symm⟩
    | cons verbose outer =>
      have hclose : st.apply .leave = _ := close_of_outer houter
      rw [hclose] at h
      cases h
  | _ => cases h

/-- Only a closing parenthesis closes a group. -/
theorem step_ne_closing_of {st : Scan} {s : Symbol} (hs : s ≠ .plain ')') :
    st.step s ≠ .error .closing := by
  intro h
  rcases step_eq_error_iff.mp h with hmove | ⟨move, hmove, happly⟩
  · exact st.zone.move_ne st.verbose s hmove
  · obtain ⟨rfl, -, -⟩ := apply_eq_error happly
    exact hs (Zone.eq_close_of_move hmove)

/-- Inside of a group there is something to close. -/
theorem step_ne_closing {st : Scan} (h : st.outer ≠ []) (s : Symbol) :
    st.step s ≠ .error .closing := by
  intro hstep
  rcases step_eq_error_iff.mp hstep with hmove | ⟨move, -, hmove⟩
  · exact st.zone.move_ne st.verbose s hmove
  · exact h (apply_eq_error hmove).2.1

/-! ## Zones -/

theorem apply_goto (st : Scan) (zone : Zone) (move : Move) :
    (st.goto zone).apply move = st.apply move := by
  cases move <;> rfl

theorem step_goto (st : Scan) (zone : Zone) (s : Symbol) :
    (st.goto zone).step s = zone.move st.verbose s >>= st.apply := by
  have happly : (st.goto zone).apply = st.apply := funext (apply_goto st zone)
  unfold step
  rw [happly]
  rfl

theorem step_of_move {st : Scan} {zone : Zone} {s : Symbol} {move : Move}
    (h : zone.move st.verbose s = .ok move) : (st.goto zone).step s = st.apply move := by
  rw [step_goto, h]
  rfl

theorem exists_move {st st' : Scan} {zone : Zone} {s : Symbol}
    (h : (st.goto zone).step s = .ok st') :
    ∃ move, zone.move st.verbose s = .ok move ∧ st.apply move = .ok st' := by
  obtain ⟨move, hmove, happly⟩ := step_eq_ok_iff.mp h
  exact ⟨move, hmove, (apply_goto st zone move).symm.trans happly⟩

/-- What a scan makes of a character that closes nothing. -/
theorem step_items_character (st : Scan) {verbose : Bool} (hverbose : st.verbose = verbose)
    {c : Char}
    (hclose : c ≠ ')') :
    (st.goto .items).step (.plain c) = .ok (
      if verbose && isSkipped c then st.goto .items
      else if verbose && c = '#' then st.goto .line
      else if c = '[' then st.goto .bracket
      else if c = '(' then ⟨.group, st.verbose, st.verbose :: st.outer⟩
      else st.goto .items) := by
  subst hverbose
  rw [step_goto]
  simp only [Zone.move, Symbol.itemMove, reduceCtorEq, if_false, if_neg hclose]
  repeat' split
  all_goals rfl

/-- Most characters mean nothing to a scan. -/
theorem step_items_plain (st : Scan) {c : Char} (hc : c ∉ ['#', '[', '(', ')']) :
    (st.goto .items).step (.plain c) = .ok (st.goto .items) := by
  simp only [List.mem_cons, List.not_mem_nil, or_false, not_or] at hc
  obtain ⟨hline, hset, hgroup, hclose⟩ := hc
  rw [st.step_items_character rfl hclose]
  simp only [hline, hset, hgroup, decide_false, Bool.and_false, Bool.false_eq_true, if_false,
    ite_self]

theorem step_items_close (st : Scan) : (st.goto .items).step (.plain ')') = st.close := by
  have hskipped : isSkipped ')' = false := by decide
  have hmove : Zone.items.move st.verbose (.plain ')') = .ok .leave := by
    simp [Zone.move, Symbol.itemMove, hskipped]
  exact step_of_move hmove

theorem step_members (st : Scan) {c : Char} (hc : c ≠ ']') :
    (st.goto .members).step (.plain c) = .ok (st.goto .members) := by
  have hmove : Zone.members.move st.verbose (.plain c) = .ok (.goto .members) := by
    simp [Zone.move, Zone.member, hc]
  exact step_of_move hmove

theorem step_inSet_ne_closing (st : Scan) (empty : Bool) (s : Symbol) :
    (st.goto (.inSet empty)).step s ≠ .error .closing := by
  intro h
  rcases step_eq_error_iff.mp h with h | ⟨move, hmove, happly⟩
  · have h : (Zone.inSet empty).move st.verbose s = .error .closing := h
    rw [Zone.move_inSet] at h
    split at h <;> cases h
  · obtain ⟨rfl, -, -⟩ := apply_eq_error happly
    have hmove : (Zone.inSet empty).move st.verbose s = .ok .leave := hmove
    rw [Zone.move_inSet] at hmove
    split at hmove <;> cases hmove

theorem eq_member {st st' : Scan} {empty : Bool} {s : Symbol} (hs : s ≠ .dangling)
    (h : (st.goto (.inSet empty)).step s = .ok st') : st' = st.goto (Zone.member empty s) := by
  obtain ⟨move, hmove, happly⟩ := exists_move h
  rw [Zone.move_inSet, if_neg hs] at hmove
  cases hmove
  exact (Except.ok.inj happly).symm

/-- What an escape begins with: a name, a character, or a number. -/
theorem step_items_escaped {st st' : Scan} {c : Char}
    (h : (st.goto .items).step (.escaped c) = .ok st') :
    (c = 'N' ∧ st' = st.goto (.brace false)) ∨
      (c ≠ 'N' ∧ (c = '0' ∨ isDigit c = false) ∧ st' = st.goto .items) ∨
      (isDigit c = true ∧ c ≠ '0' ∧ isOctal c = true ∧ st' = st.goto (.octal 1)) := by
  obtain ⟨move, hmove, happly⟩ := exists_move h
  simp only [Zone.move, Symbol.itemMove, reduceCtorEq, if_false] at hmove
  split at hmove
  · rename_i hc
    cases hmove
    exact .inl ⟨hc, (Except.ok.inj happly).symm⟩
  rename_i hname
  split at hmove
  · rename_i hc
    rw [Bool.or_eq_true, decide_eq_true_eq, Bool.not_eq_true'] at hc
    cases hmove
    exact .inr (.inl ⟨hname, hc, (Except.ok.inj happly).symm⟩)
  rename_i hc
  rw [Bool.or_eq_true, decide_eq_true_eq, Bool.not_eq_true', not_or, Bool.not_eq_false] at hc
  split at hmove
  · rename_i hoctal
    cases hmove
    exact .inr (.inr ⟨hc.2, hc.1, hoctal, (Except.ok.inj happly).symm⟩)
  · cases hmove

theorem step_octal (st : Scan) (more : Nat) {c : Char} (hc : isOctal c = true) :
    (st.goto (.octal more)).step (.plain c)
      = .ok (st.goto (if more = 0 then .items else .octal (more - 1))) := by
  have hmove : Zone.move st.verbose (.plain c) (.octal more)
      = .ok (.goto (if more = 0 then .items else .octal (more - 1))) := by
    simp [Zone.move, hc]
  exact step_of_move hmove

/-- What looks like the number of a group is one, if it is not three octal digits. -/
theorem step_octal_other (st : Scan) (more : Nat) {s : Symbol}
    (hother : ∀ c, s = .plain c → isOctal c = false) :
    (st.goto (.octal more)).step s = .error .number := by
  refine step_eq_error_iff.mpr (.inl ?_)
  cases s with
  | plain c => simp [Zone.move, goto, hother c rfl]
  | _ => rfl

def named (st : Scan) (taken : List Char) (l : Label) : Except Intrusion Scan :=
  l.move taken >>= st.apply

theorem step_terminator (st : Scan) (l : Label) (taken : List Char) :
    (st.goto (.name l taken)).step (.plain l.terminator) = st.named taken l := by
  rw [step_goto]
  cases l <;> simp [Zone.move, named]

theorem named_ne_closing {st : Scan} (h : st.outer ≠ []) (taken : List Char) (l : Label) :
    st.named taken l ≠ .error .closing := by
  rw [← step_terminator]
  have hopen : (st.goto (.name l taken)).outer ≠ [] := h
  exact step_ne_closing hopen (.plain l.terminator)

theorem step_name (st : Scan) (l : Label) (taken : List Char) {s : Symbol} (hs : s ≠ .dangling)
    (hother : s ≠ .plain l.terminator) :
    (st.goto (.name l taken)).step s = .ok (st.goto (.name l (taken ++ s.chars))) := by
  have hmove : Zone.move st.verbose s (.name l taken)
      = .ok (.goto (.name l (taken ++ s.chars))) := by
    simp [Zone.move, hs, hother]
  exact step_of_move hmove

theorem eq_extend {st st' : Scan} {s : Symbol} (h : (st.goto .extension).step s = .ok st') :
    st' = st.goto (Zone.extend s) := by
  obtain ⟨move, hmove, happly⟩ := exists_move h
  have hsame : Zone.extension.move st.verbose s = .ok (.goto (Zone.extend s)) := by
    cases s <;> rfl
  cases hsame.symm.trans hmove
  exact (Except.ok.inj happly).symm

/-- Letters of options, of which the one for verbose expressions matters. -/
theorem eq_removing {st st' : Scan} {added removed : Bool} {s : Symbol} {letter : Char × Flags}
    (hcolon : s ≠ .plain ':') (hflag : s.flag? = some letter)
    (h : (st.goto (.removing added removed)).step s = .ok st') :
    st' = st.goto (.removing added (removed || letter.2.verbose)) := by
  obtain ⟨move, hmove, happly⟩ := exists_move h
  have hs : s ≠ .dangling := Symbol.ne_dangling_of_flag hflag
  simp only [Zone.move, hs, hcolon, hflag, if_false] at hmove
  cases hmove
  exact (Except.ok.inj happly).symm

theorem eq_adding {st st' : Scan} {added : Bool} {s : Symbol} {letter : Char × Flags}
    (hdash : s ≠ .plain '-') (hcolon : s ≠ .plain ':') (hflag : s.flag? = some letter)
    (h : (st.goto (.adding added)).step s = .ok st') :
    st' = st.goto (.adding (added || letter.2.verbose)) := by
  obtain ⟨move, hmove, happly⟩ := exists_move h
  have hs : s ≠ .dangling := Symbol.ne_dangling_of_flag hflag
  simp only [Zone.move, hs, hdash, hcolon, hflag, if_false] at hmove
  split at hmove
  · cases hmove
  · cases hmove
    exact (Except.ok.inj happly).symm

theorem step_line_ne_closing (st : Scan) (s : Symbol) :
    (st.goto .line).step s ≠ .error .closing := by
  by_cases hs : s = .plain ')'
  · rw [hs]
    nofun
  · exact step_ne_closing_of hs

/-- Only the end of the line ends a comment there. -/
theorem eq_line {st st' : Scan} {s : Symbol} (hs : s ≠ .dangling) (hother : s ≠ .plain '\n')
    (h : (st.goto .line).step s = .ok st') : st' = st.goto .line := by
  obtain ⟨move, hmove, happly⟩ := exists_move h
  simp only [Zone.move, hs, hother, if_false] at hmove
  cases hmove
  exact (Except.ok.inj happly).symm

/-- Nothing but a closing parenthesis ends a comment. -/
theorem eq_comment {st st' : Scan} {s : Symbol} (hs : s ≠ .dangling) (hother : s ≠ .plain ')')
    (h : (st.goto .comment).step s = .ok st') : st' = st.goto .comment := by
  obtain ⟨move, hmove, happly⟩ := exists_move h
  simp only [Zone.move, hs, hother, if_false] at hmove
  cases hmove
  exact (Except.ok.inj happly).symm

/-- The end of a text: whether everything that was opened is closed. What is cut off there may be an
intrusion already. -/
def finish (st : Scan) : Except Intrusion Bool :=
  match st.zone with
  | .items => .ok st.outer.isEmpty
  | .octal _ => .error .number
  | .adding _ => .error .options
  | .name .condition taken =>
    if !Text.isName taken && (Reader.groupNumber? taken).isSome then .error .number
    else .ok false
  | _ => .ok false

theorem finish_inSet (st : Scan) (empty : Bool) :
    (st.goto (.inSet empty)).finish ≠ .ok true := by
  cases empty <;> nofun

theorem finish_name (st : Scan) (l : Label) (taken : List Char) :
    (st.goto (.name l taken)).finish ≠ .ok true := by
  cases l with
  | condition =>
    simp only [finish, goto]
    split <;> nofun
  | _ => nofun

def run (st : Scan) (symbols : List Symbol) : Except Intrusion Bool := do
  (← symbols.foldlM step st).finish

theorem run_nil (st : Scan) : st.run [] = st.finish := rfl

theorem run_cons (st : Scan) (s : Symbol) (rest : List Symbol) :
    st.run (s :: rest) = st.step s >>= fun next => next.run rest := by
  unfold run
  rw [List.foldlM_cons, bind_assoc]

theorem run_append (st : Scan) (symbols rest : List Symbol) :
    st.run (symbols ++ rest) = symbols.foldlM step st >>= fun next => next.run rest := by
  unfold run
  rw [List.foldlM_append, bind_assoc]

theorem run_cons_ok {st st' : Scan} {s : Symbol} (h : st.step s = .ok st') (rest : List Symbol) :
    st.run (s :: rest) = st'.run rest := by
  rw [run_cons, h]
  rfl

theorem run_cons_error {st : Scan} {s : Symbol} {i : Intrusion} (h : st.step s = .error i)
    (rest : List Symbol) : st.run (s :: rest) = .error i := by
  rw [run_cons, h]
  rfl

/-- A group that is not announced to be of another kind begins with its items. -/
theorem run_group {st : Scan} (hst : st.outer ≠ []) {symbols : List Symbol}
    (h : ∀ rest, symbols ≠ .plain '?' :: rest) :
    (st.goto .group).run symbols = (st.goto .items).run symbols := by
  cases symbols with
  | nil =>
    obtain ⟨verbose, outer, houter⟩ := List.exists_cons_of_ne_nil hst
    simp [run_nil, finish, goto, houter]
  | cons s rest =>
    have hs : s ≠ .plain '?' := fun hs => h rest (hs ▸ rfl)
    rw [run_cons, run_cons, step_goto, step_goto]
    simp only [Zone.move, Zone.cutOff, hs, if_false]

/-- A set that is not a complement begins with its members. -/
theorem run_bracket (st : Scan) {symbols : List Symbol}
    (h : ∀ rest, symbols ≠ .plain '^' :: rest) :
    (st.goto .bracket).run symbols = (st.goto .opened).run symbols := by
  cases symbols with
  | nil => rfl
  | cons s rest =>
    have hs : s ≠ .plain '^' := fun hs => h rest (hs ▸ rfl)
    rw [run_cons, run_cons, step_goto, step_goto]
    simp only [Zone.move, Zone.cutOff, hs, if_false]

theorem run_stuck (st : Scan) (symbols : List Symbol) :
    (st.goto .stuck).run symbols = .ok false := by
  induction symbols with
  | nil => rfl
  | cons s rest ih =>
    have hmove : Zone.stuck.move st.verbose s = .ok (.goto .stuck) := ite_self _
    rw [run_cons_ok (step_of_move hmove)]
    exact ih

/-- After a backslash at the very end nothing is closed. -/
theorem run_dangling (st : Scan) (rest : List Symbol) : st.run (.dangling :: rest) ≠ .ok true := by
  have hmove : st.zone.move st.verbose .dangling = st.zone.cutOff := if_pos rfl
  have hcut : st.zone.cutOff = .error .number ∨ st.zone.cutOff = .ok (.goto .stuck) := by
    cases st.zone with
    | octal more => exact .inl rfl
    | _ => exact .inr rfl
  rcases hcut with hcut | hcut
  · rw [run_cons_error (step_eq_error_iff.mpr (.inl (hmove.trans hcut)))]
    nofun
  · rw [run_cons_ok (step_eq_ok_iff.mpr ⟨_, hmove.trans hcut, rfl⟩), run_stuck]
    nofun

end Scan

/-- The first intrusion of a text. -/
def intrusion? (text : String) : Option Intrusion :=
  match Scan.run {} (symbolsOf text.toList) with
  | .error i => some i
  | .ok _ => none

end Regex
end QueryOptions
