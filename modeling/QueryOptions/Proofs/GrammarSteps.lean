import QueryOptions.Regex.Parser

/-!
# QueryOptions.Proofs.GrammarSteps

The grammar of regular expressions in steps, so that what is said about each step is put together to
what is said about the grammar. An opening parenthesis is followed by one of a few things to read. A
sequence is read by its next symbol: a bar and a closing parenthesis end it as the end of the text
does, and after a group or after what may be bounds it goes on as these turn out.

* `opening_eq`: what an opening parenthesis announces, by the next symbol;
* `sequence_eq`: a sequence, by its next symbol;
* `otherBranch`: the second branch of a condition, which need not be there.
-/

namespace QueryOptions
namespace Regex
namespace Reader

/-! ## Opening parentheses -/

/-- The name of a group, or a reference to a group with that name. -/
def namedOpening (scope : Flags) : Reader Opening := do
  if ← accept '<' then return .capture (some (← groupName))
  else if ← accept '=' then return .reference (← namedReference scope)
  else
    match ← next with
    | none => refuse .unexpectedEnd
    | some t => refuse (.unknownExtension ("P" ++ t.text)) (t.size + 2)

def commentOpening (start : Nat) : Reader Opening := do
  if ← skipPast ')' ((← get).rest.length + 1) then return .nothing
  else refuseAt .unterminatedComment start

def behindOpening : Reader Opening := do
  match ← next with
  | none => refuse .unexpectedEnd
  | some t =>
    if t = .plain '=' then return .behind false
    else if t = .plain '!' then return .behind true
    else refuse (.unknownExtension ("<" ++ t.text)) (t.size + 2)

/-- What options in parentheses announce: nothing if they are for the whole expression, or the items
that they are for. -/
def optionsOpening (start : Nat) (first : Bool) : Option (Flags × Flags) → Reader Opening
  | none => do
    if !first then refuseAt .globalFlagsNotFirst start
    return .nothing
  | some (added, removed) => return .scoped added removed

/-- Options in parentheses, from their first letter or from a minus sign on. -/
def flagsOpening (start : Nat) (first : Bool) (s : Symbol) : Reader Opening :=
  match if s = .plain '-' then some ('-', {}) else s.flag? with
  | none => refuse (.unknownExtension s.text) (s.size + 1)
  | some (c, f) => do optionsOpening start first (← flagGroup c f)

theorem opening_eq (scope : Flags) (start : Nat) (first : Bool) :
    opening scope start first = (do
      if !(← accept '?') then return .capture none
      match ← next with
      | none => refuse .unexpectedEnd
      | some s =>
        if s = .plain 'P' then namedOpening scope
        else if s = .plain ':' then return .together
        else if s = .plain '#' then commentOpening start
        else if s = .plain '=' then return .ahead false
        else if s = .plain '!' then return .ahead true
        else if s = .plain '<' then behindOpening
        else if s = .plain '(' then return .condition (← conditionGroup)
        else if s = .plain '>' then return .atomic
        else flagsOpening start first s) := rfl

/-! ## Sequences -/

/-- The rest of a sequence after a group that is an item of it, or else has told options. -/
def afterGroup (top : Bool) (fuel : Nat) (scope : Flags) (items : List Item) :
    Option Item → Reader (List Piece)
  | none => do
    let inner ← (do if top then return (← get).flags else return scope)
    sequence top fuel inner items
  | some item => sequence top fuel scope (item :: items)

/-- The rest of a sequence after a character that says how often the last item is repeated, or that
stands for itself where it gives no bounds. -/
def afterBounds (top : Bool) (fuel : Nat) (scope : Flags) (items : List Item) (start : Nat)
    (c : Char) : Option (Nat × Option Nat) → Reader (List Piece)
  | none => sequence top fuel scope (.piece (literal scope c.toNat) :: items)
  | some (least, most) => do sequence top fuel scope (← repetition start least most items)

/-- The rest of a sequence from a character on that does not end it. -/
def fromCharacter (top : Bool) (fuel : Nat) (scope : Flags) (items : List Item) (c : Char) :
    Reader (List Piece) := do
  let start := (← get).position
  let _ ← next
  if scope.verbose && isSkipped c then sequence top fuel scope items
  else if scope.verbose && c = '#' then
    let _ ← skipPast '\n' ((← get).rest.length + 1)
    sequence top fuel scope items
  else if c = '[' then
    let piece ← characterSet scope
    sequence top fuel scope (.piece piece :: items)
  else if c = '.' then
    sequence top fuel scope (.piece (.test (if scope.dotAll then .any else .notLineEnd)) :: items)
  else if c = '^' then
    sequence top fuel scope
      (.piece (.place c (if scope.multiline then .lineStart else .textStart)) :: items)
  else if c = '$' then
    sequence top fuel scope
      (.piece (.place c (if scope.multiline then .lineEnd else .beforeFinal)) :: items)
  else if c = '(' then
    afterGroup top fuel scope items (← group top fuel scope start items.isEmpty)
  else if c = '*' || c = '+' || c = '?' || c = Char.ofNat 0x7B then
    afterBounds top fuel scope items start c (← bounds c)
  else sequence top fuel scope (.piece (literal scope c.toNat) :: items)

theorem sequence_eq (top : Bool) (fuel : Nat) (scope : Flags) (items : List Item) :
    sequence top (fuel + 1) scope items = (do
      match ← peek with
      | none => return items.reverse.flatMap Item.pieces
      | some .dangling => refuse .danglingEscape
      | some (.escaped c) =>
        let _ ← next
        let piece ← escape scope c
        sequence top fuel scope (.piece piece :: items)
      | some (.plain c) =>
        if c = '|' ∨ c = ')' then return items.reverse.flatMap Item.pieces
        else fromCharacter top fuel scope items c) := by
  conv => lhs; unfold sequence
  refine bind_congr fun s => ?_
  split
  · rfl
  · rfl
  · rfl
  · rfl
  · rfl
  · rename_i c hbar hclose
    have hother : ¬(c = '|' ∨ c = ')') := by
      rintro (rfl | rfl)
      · exact hbar rfl
      · exact hclose rfl
    dsimp only
    rw [if_neg hother]
    rfl

/-! ## Conditions -/

/-- The branch of a condition for where its group has not matched. -/
def otherBranch (fuel : Nat) (scope : Flags) : Reader (List Piece) := do
  if ← accept '|' then
    let no ← sequence false fuel scope []
    if (← peek) = some (.plain '|') then refuse .manyBranches
    return no
  else return []

theorem otherBranch_run_nil {fuel : Nat} {scope : Flags} {p : Progress} (h : p.rest = []) :
    (otherBranch fuel scope).run p = .ok ([], p) := by
  unfold otherBranch accept
  simp only [StateT.run_bind, StateT.run_get, pure_bind, h]
  rfl

end Reader
end Regex
end QueryOptions
