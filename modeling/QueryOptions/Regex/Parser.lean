import QueryOptions.Regex.Escape
import QueryOptions.Text.Integer

/-!
# QueryOptions.Regex.Parser

The grammar of regular expressions: alternatives of sequences of items, where an item is a
character, a set, an anchor, a group, or one of these repeated. While a sequence is read, a group
that only holds pieces together is one item; when the sequence ends, it dissolves. `compile` gives
the parsed expression or the first problem met while reading from left to right; two conditions are
checked after that: numbers of groups that were asked about must exist, and the text before a
look-behind must have a fixed width.

Recursion is bounded by a fuel computed from the number of symbols, because every step but two
reads a symbol.
-/

namespace QueryOptions
namespace Regex

/-- Blank characters that a verbose expression skips. -/
def isSkipped (c : Char) : Bool :=
  c = ' ' || (0x9 ≤ c.toNat && c.toNat ≤ 0xD)

def flag? : Char → Option Flags
  | 'i' => some { ignoreCase := true }
  | 'm' => some { multiline := true }
  | 's' => some { dotAll := true }
  | 'x' => some { verbose := true }
  | 'a' => some { ascii := true }
  | 't' => some { template := true }
  | 'u' => some { unicode := true }
  | 'L' => some {}
  | _ => none

def Symbol.flag? : Symbol → Option (Char × Flags)
  | .plain c => (Regex.flag? c).map (fun f => (c, f))
  | _ => none

def Symbol.isLetter : Symbol → Bool
  | .plain c => Text.isLetter c.toNat
  | _ => false

namespace Reader

/-! ## Sets -/

/-- One end of a span, or a member on its own. -/
def setMember (scope : Flags) : Symbol → Reader SetItem
  | .plain c => return .code c.toNat
  | .escaped c => setEscape scope c
  | .dangling => refuse .danglingEscape

/-- Reads the members of a set up to the closing bracket; `start` is where the set began. -/
def setItems (scope : Flags) (start : Nat) : Nat → List SetItem → Reader (List SetItem)
  | 0, _ => refuseAt .unterminatedSet start
  | fuel + 1, items => do
    match ← next with
    | none => refuseAt .unterminatedSet start
    | some low =>
      if low = .plain ']' && !items.isEmpty then return items
      let first ← setMember scope low
      if ← accept '-' then
        match ← next with
        | none => refuseAt .unterminatedSet start
        | some high =>
          if high = .plain ']' then return items ++ [first, .code 0x2D]
          let second ← setMember scope high
          match first, second with
          | .code a, .code b =>
            if b < a then
              refuse (.badRange low.text high.text) (low.size + 1 + high.size)
            setItems scope start fuel (items ++ [.span a b])
          | _, _ => refuse (.badRange low.text high.text) (low.size + 1 + high.size)
      else setItems scope start fuel (items ++ [first])

/-- A character set; a set of one character is that character. -/
def characterSet (scope : Flags) : Reader Piece := do
  let start := (← get).position - 1
  let negated ← accept '^'
  let items ← setItems scope start ((← get).rest.length + 1) []
  match items.eraseDups with
  | [.code n] => return .test (.literal n negated scope.fold)
  | members => return .test (.set members negated scope.fold)

/-! ## Repetition -/

/-- The bounds in braces; none if the braces are not bounds and stand for themselves. -/
def braceBounds : Reader (Option (Nat × Option Nat)) := do
  let saved ← get
  if saved.rest.head? = some (.plain (Char.ofNat 0x7D)) then return none
  let low ← takeClass isDigit saved.rest.length
  let high ← (do
    if ← accept ',' then takeClass isDigit saved.rest.length else return low)
  if !(← accept (Char.ofNat 0x7D)) then
    set saved
    return none
  let least := numeral 10 low
  if !low.isEmpty && repeatLimit ≤ least then throw .tooManyRepeats
  if high.isEmpty then return some (least, none)
  let most := numeral 10 high
  if repeatLimit ≤ most then throw .tooManyRepeats
  if most < least then refuseAt .repeatOrder saved.position
  return some (least, some most)

/-- The bounds of a repetition that starts with the given character. -/
def bounds (c : Char) : Reader (Option (Nat × Option Nat)) := do
  if c = '?' then return some (0, some 1)
  else if c = '*' then return some (0, none)
  else if c = '+' then return some (1, none)
  else braceBounds

/-- Which numbers of repetitions are tried first. -/
def appetite : Reader Appetite := do
  if ← accept '?' then return .lazy
  else if ← accept '+' then return .possessive
  else return .greedy

/-- Repeats the item read last; `start` is where the repetition began. Items are kept in reverse. -/
def repetition (start : Nat) (least : Nat) (most : Option Nat) :
    List Item → Reader (List Item)
  | [] => refuseAt .nothingToRepeat start
  | .piece (.place _ _) :: _ => refuseAt .nothingToRepeat start
  | .piece (.repetition _) :: _ => refuseAt .multipleRepeat start
  | item :: before => do
    let a ← appetite
    return .piece (.repetition (.repeated a least most item.node)) :: before

/-! ## Options inside the expression -/

/-- The options after a minus sign, up to a colon. -/
def removedFlags : Nat → Flags → Reader Flags
  | 0, _ => refuse .unexpectedEnd
  | fuel + 1, removed => do
    match ← next with
    | none => refuse (.missing ":")
    | some s =>
      if s = .plain ':' then return removed
      match s.flag? with
      | none =>
        refuse (if s.isLetter then .unknownFlag else .missing ":") s.size
      | some (c, f) =>
        if c = 'a' || c = 'u' || c = 'L' then refuse .alphabetOff
        removedFlags fuel (removed.union f)

/-- The first option after a minus sign, and the others. -/
def minusFlags : Reader Flags := do
  match ← next with
  | none => refuse (.missing "flag")
  | some s =>
    match s.flag? with
    | none => refuse (if s.isLetter then .unknownFlag else .missing "flag") s.size
    | some (c, f) =>
      if c = 'a' || c = 'u' || c = 'L' then refuse .alphabetOff
      removedFlags ((← get).rest.length + 1) f

/-- Reads options from the given letter on; gives them with the symbol that ended them. -/
def addedFlags : Nat → Char → Flags → Flags → Reader (Flags × Char)
  | 0, _, _, _ => refuse .unexpectedEnd
  | fuel + 1, c, f, added => do
    if c = 'L' then refuse .localeFlag
    let all := added.union f
    if (f.ascii || f.unicode) && all.ascii && all.unicode then refuse .incompatibleAlphabets
    match ← next with
    | none => refuse (.missing "-, : or )")
    | some s =>
      if s = .plain ')' then return (all, ')')
      else if s = .plain '-' then return (all, '-')
      else if s = .plain ':' then return (all, ':')
      else
        match s.flag? with
        | none => refuse (if s.isLetter then .unknownFlag else .missing "-, : or )") s.size
        | some (d, g) => addedFlags fuel d g all

/-- Options at the start of a group: none if they were for the whole expression, otherwise those
turned on and those turned off. -/
def flagGroup (c : Char) (f : Flags) : Reader (Option (Flags × Flags)) := do
  let (added, stop) ← (do
    if c = '-' then return (({} : Flags), '-')
    else addedFlags ((← get).rest.length + 1) c f {})
  if stop = ')' then
    modify fun p => { p with flags := p.flags.union added }
    return none
  if added.template then refuse .globalFlagOn 1
  if stop = ':' then return some (added, {})
  let removed ← minusFlags
  if removed.template then refuse .globalFlagOff 1
  if added.meets removed then refuse .flagOnAndOff 1
  return some (added, removed)

/-! ## Groups -/

def groupNumber? (cs : List Char) : Option Nat :=
  match Text.readInteger? cs with
  | some n => if n < 0 then none else some n.toNat
  | none => none

/-- The number of the group that a condition asks about. -/
def conditionGroup : Reader Nat := do
  let name ← nameUntil ')' "group name"
  let text := String.ofList name
  let size := name.length + 1
  let index ← (do
    if Text.isName name then
      match (← get).names.lookup text with
      | none => refuse (.unknownGroup text) size
      | some index => return index
    else
      match groupNumber? name with
      | none => refuse (.badGroupName text) size
      | some 0 => refuse .badGroupNumber size
      | some index =>
        if 1073741823 ≤ index then refuse (.invalidReference index) size
        let p ← get
        if (p.asked.lookup index).isNone then
          set { p with asked := p.asked ++ [(index, p.position - size)] }
        return index)
  checkBehind index
  return index

/-- A reference to a group by its name. -/
def namedReference (scope : Flags) : Reader Piece := do
  let name ← nameUntil ')' "group name"
  let text := String.ofList name
  if !Text.isName name then refuse (.badGroupName text) (name.length + 1)
  match (← get).names.lookup text with
  | none => refuse (.unknownGroup text) (name.length + 1)
  | some index =>
    if !(← isClosed index) then refuse .openGroup (name.length + 1)
    checkBehind index
    return .back index scope.fold

def groupName : Reader (List Char) := do
  let name ← nameUntil '>' "group name"
  if !Text.isName name then refuse (.badGroupName (String.ofList name)) (name.length + 1)
  return name

/-- Reads the parenthesis that closes a group opened at `start`. -/
def closing (start : Nat) : Reader Unit := do
  if !(← accept ')') then refuseAt .unterminatedGroup start

/-- What the symbols after an opening parenthesis announce. -/
inductive Opening where
  /-- Nothing that matches: a comment, or options for the whole expression. -/
  | nothing
  /-- A reference to a group. -/
  | reference (p : Piece)
  /-- A group that captures, perhaps under a name. -/
  | capture (name : Option (List Char))
  /-- A group that only holds pieces together. -/
  | together
  /-- A group in which some options are on and some off. -/
  | scoped (added removed : Flags)
  | atomic
  | ahead (negated : Bool)
  | behind (negated : Bool)
  | condition (index : Nat)

/-- Reads what follows an opening parenthesis at `start`. Options for the whole expression must
come before any item. -/
def opening (scope : Flags) (start : Nat) (first : Bool) : Reader Opening := do
  if !(← accept '?') then return .capture none
  match ← next with
  | none => refuse .unexpectedEnd
  | some s =>
    if s = .plain 'P' then
      if ← accept '<' then return .capture (some (← groupName))
      else if ← accept '=' then return .reference (← namedReference scope)
      else
        match ← next with
        | none => refuse .unexpectedEnd
        | some t => refuse (.unknownExtension ("P" ++ t.text)) (t.size + 2)
    else if s = .plain ':' then return .together
    else if s = .plain '#' then
      if ← skipPast ')' ((← get).rest.length + 1) then return .nothing
      else refuseAt .unterminatedComment start
    else if s = .plain '=' then return .ahead false
    else if s = .plain '!' then return .ahead true
    else if s = .plain '<' then
      match ← next with
      | none => refuse .unexpectedEnd
      | some t =>
        if t = .plain '=' then return .behind false
        else if t = .plain '!' then return .behind true
        else refuse (.unknownExtension ("<" ++ t.text)) (t.size + 2)
    else if s = .plain '(' then return .condition (← conditionGroup)
    else if s = .plain '>' then return .atomic
    else
      let flags :=
        if s = .plain '-' then some ('-', {}) else s.flag?
      match flags with
      | none => refuse (.unknownExtension s.text) (s.size + 1)
      | some (c, f) =>
        match ← flagGroup c f with
        | none =>
          if !first then refuseAt .globalFlagsNotFirst start
          return .nothing
        | some (added, removed) => return .scoped added removed

/-- A look-around. Nothing at all always matches, so what must not match has to have pieces. -/
def lookAround (negated : Bool) (body : List Piece) (around : Node) : Item :=
  .piece (.whole (if negated && body.isEmpty then .never else around))

/-! ## The grammar -/

mutual

/-- Alternatives separated by bars. At the top, options for the whole expression that the first
alternative brought hold for the others. -/
def alternatives (top : Bool) : Nat → Flags → Reader (List Piece)
  | 0, _ => refuse .unexpectedEnd
  | fuel + 1, scope => do
    let first ← sequence top fuel scope []
    let inner ← (do if top then return (← get).flags else return scope)
    let others ← moreAlternatives fuel inner
    return piecesOfAlternatives inner.fold first others

/-- The alternatives after the first one. -/
def moreAlternatives : Nat → Flags → Reader (List (List Piece))
  | 0, _ => refuse .unexpectedEnd
  | fuel + 1, scope => do
    if ← accept '|' then
      let pieces ← sequence false fuel scope []
      return pieces :: (← moreAlternatives fuel scope)
    else return []

/-- The pieces up to a bar, a closing parenthesis or the end, after items given in reverse. -/
def sequence (top : Bool) : Nat → Flags → List Item → Reader (List Piece)
  | 0, _, _ => refuse .unexpectedEnd
  | fuel + 1, scope, items => do
    match ← peek with
    | none => return items.reverse.flatMap Item.pieces
    | some (.plain '|') => return items.reverse.flatMap Item.pieces
    | some (.plain ')') => return items.reverse.flatMap Item.pieces
    | some (.escaped c) =>
      let _ ← next
      let piece ← escape scope c
      sequence top fuel scope (.piece piece :: items)
    | some .dangling => refuse .danglingEscape
    | some (.plain c) =>
      let start := (← get).position
      let _ ← next
      if scope.verbose && isSkipped c then sequence top fuel scope items
      else if scope.verbose && c = '#' then
        let _ ← skipPast '\n' ((← get).rest.length + 1)
        sequence top fuel scope items
      else if c = '[' then
        let piece ← characterSet scope
        sequence top fuel scope (.piece piece :: items)
      else if c = '.' then
        let test : CharTest := if scope.dotAll then .any else .notLineEnd
        sequence top fuel scope (.piece (.test test) :: items)
      else if c = '^' then
        let place : Anchor := if scope.multiline then .lineStart else .textStart
        sequence top fuel scope (.piece (.place c place) :: items)
      else if c = '$' then
        let place : Anchor := if scope.multiline then .lineEnd else .beforeFinal
        sequence top fuel scope (.piece (.place c place) :: items)
      else if c = '(' then
        match ← group top fuel scope start items.isEmpty with
        | none =>
          let inner ← (do if top then return (← get).flags else return scope)
          sequence top fuel inner items
        | some item => sequence top fuel scope (item :: items)
      else if c = '*' || c = '+' || c = '?' || c = Char.ofNat 0x7B then
        match ← bounds c with
        | none => sequence top fuel scope (.piece (literal scope c.toNat) :: items)
        | some (least, most) => sequence top fuel scope (← repetition start least most items)
      else sequence top fuel scope (.piece (literal scope c.toNat) :: items)

/-- A group, from after its opening parenthesis at `start` to its closing one. -/
def group (top : Bool) : Nat → Flags → Nat → Bool → Reader (Option Item)
  | 0, _, _, _ => refuse .unexpectedEnd
  | fuel + 1, scope, start, noItems => do
    match ← opening scope start (top && noItems) with
    | .nothing => return none
    | .reference p => return some (.piece p)
    | .capture name =>
      let index ← enter name
      let body := nodeOfPieces (← alternatives false fuel scope)
      closing start
      leave index body
      return some (.piece (.whole (.capture index body)))
    | .together =>
      let body ← alternatives false fuel scope
      closing start
      return some (.group body)
    | .scoped added removed =>
      let body ← alternatives false fuel (scope.within added removed)
      closing start
      return some (.piece (.whole (nodeOfPieces body)))
    | .atomic =>
      let body ← alternatives false fuel scope
      closing start
      return some (.piece (.whole (.atomic (nodeOfPieces body))))
    | .ahead negated =>
      let body ← alternatives false fuel scope
      closing start
      return some (lookAround negated body (.ahead negated (nodeOfPieces body)))
    | .behind negated =>
      let outer := (← get).behindFrom
      modify fun p => { p with behindFrom := some (outer.getD (p.groups.length + 1)) }
      let body ← alternatives false fuel scope
      modify fun p => { p with behindFrom := outer }
      closing start
      let node := nodeOfPieces body
      return some (lookAround negated body (.behind negated (node.width (widths (← get))) node))
    | .condition index =>
      let yes ← sequence false fuel scope []
      let no ← (do
        if ← accept '|' then
          let no ← sequence false fuel scope []
          if (← peek) = some (.plain '|') then refuse .manyBranches
          return no
        else return [])
      closing start
      return some (.piece (.whole (.whether index (nodeOfPieces yes) (nodeOfPieces no))))

end

end Reader

/-! ## Whole expressions -/

end Regex

/-- A compiled regular expression. -/
structure Regex where
  source : String
  flags : Regex.Flags
  root : Regex.Node
  /-- The fewest characters of a match. -/
  least : Nat
deriving DecidableEq, Repr, Inhabited

namespace Regex

/-- What the options make impossible in a parsed expression, in the order of its parts. -/
def Node.check (template : Bool) : Node → Except Reason Unit
  | .seq a b =>
    match a.check template with
    | .error r => .error r
    | .ok _ => b.check template
  | .alt a b =>
    match a.check template with
    | .error r => .error r
    | .ok _ => b.check template
  | .capture _ body => body.check template
  | .repeated a _ _ body =>
    if template then
      .error (.templateRepeat
        (match a with
          | .greedy => "MAX_REPEAT"
          | .lazy => "MIN_REPEAT"
          | .possessive => "POSSESSIVE_REPEAT"))
    else body.check template
  | .atomic body => body.check template
  | .ahead _ body => body.check template
  | .behind _ width body =>
    if width.fixed then body.check template else .error .variableBehind
  | .whether _ yes no =>
    match yes.check template with
    | .error r => .error r
    | .ok _ => no.check template
  | _ => .ok ()

/-- The options of a compiled expression: one alphabet is always on. -/
def Flags.settled (f : Flags) : Except Problem Flags :=
  if !f.ascii then .ok { f with unicode := true }
  else if f.unicode then .error .twoAlphabets
  else .ok f

/-- Reads a whole expression; gives it with the fewest characters of a match. -/
def wholeExpression : Reader (Node × Nat) := do
  Reader.checkDangling
  let p ← get
  let root := nodeOfPieces (← Reader.alternatives true (4 * p.rest.length + 4) p.flags)
  let _ ← (p.flags.union (← get).flags).settled
  if (← Reader.peek).isSome then Reader.refuse .unbalanced
  let count ← Reader.groupCount
  match (← get).asked.find? (fun q => count < q.1) with
  | some (index, position) => Reader.refuseAt (.invalidReference index) position
  | none => return (root, (root.width (Reader.widths (← get))).least)

/-- Compiles a text under some options. -/
def compile (source : String) (flags : Flags) : Except Problem Regex :=
  match wholeExpression.run { rest := symbolsOf source.toList, position := 0, flags } with
  | .error p => .error p
  | .ok ((root, least), p) =>
    match p.flags.settled with
    | .error e => .error e
    | .ok settled =>
      match root.check settled.template with
      | .error r => .error (.fault ⟨r, none⟩)
      | .ok _ => .ok ⟨source, settled, root, least⟩

end Regex
end QueryOptions
