import QueryOptions.Regex.Pattern
import QueryOptions.Regex.Fault

/-!
# QueryOptions.Regex.Reader

Reading a regular expression symbol by symbol. A symbol is one character, or a backslash with the
character after it. A backslash at the very end is no symbol: it is refused as soon as the symbol
before it has been read, whatever that symbol means.

The reader also keeps what the groups read so far allow later references to: which groups are
closed and how wide they are, their names, and the groups that were named before they exist.
-/

namespace QueryOptions
namespace Regex

/-- A symbol of a regular expression. -/
inductive Symbol where
  | plain (c : Char)
  | escaped (c : Char)
  | dangling
deriving DecidableEq, Repr

namespace Symbol

/-- Number of characters of a symbol. -/
def size : Symbol → Nat
  | .plain _ => 1
  | .escaped _ => 2
  | .dangling => 1

def chars : Symbol → List Char
  | .plain c => [c]
  | .escaped c => [Text.backslash, c]
  | .dangling => [Text.backslash]

def text (s : Symbol) : String := String.ofList s.chars

end Symbol

def symbolsOf : List Char → List Symbol
  | [] => []
  | [c] => if c = Text.backslash then [.dangling] else [.plain c]
  | c :: d :: rest =>
    if c = Text.backslash then .escaped d :: symbolsOf rest else .plain c :: symbolsOf (d :: rest)

/-- What has been read and what is known so far. -/
structure Progress where
  /-- Symbols not read yet. -/
  rest : List Symbol
  /-- Number of characters read. -/
  position : Nat
  /-- Widths of the groups opened so far, none for a group that is still open. -/
  groups : List (Option Width) := []
  /-- Numbers of named groups. -/
  names : List (String × Nat) := []
  /-- Inside a look-behind: the number of the first group that was opened inside it. -/
  behindFrom : Option Nat := none
  /-- Groups that were asked about by number, with the position of the first question. -/
  asked : List (Nat × Nat) := []
  /-- Options that hold for the whole expression. -/
  flags : Flags
deriving Repr

/-- A step of the reader: it moves on, or finds a problem. -/
abbrev Reader := StateT Progress (Except Problem)

namespace Reader

/-- The next symbol, not read. -/
def peek : Reader (Option Symbol) := do
  return (← get).rest.head?

/-- Refuses, with a position so many characters before the next symbol. -/
def refuse {α : Type} (reason : Reason) (offset : Nat := 0) : Reader α := do
  throw (.fault ⟨reason, some ((← get).position - offset)⟩)

/-- Refuses, with a given position. -/
def refuseAt {α : Type} (reason : Reason) (position : Nat) : Reader α :=
  throw (.fault ⟨reason, some position⟩)

/-- Refuses a backslash at the very end that comes next. -/
def checkDangling : Reader Unit := do
  match (← get).rest with
  | .dangling :: _ => refuse .danglingEscape
  | _ => pure ()

/-- Reads one symbol, if there is one. -/
def next : Reader (Option Symbol) := do
  let p ← get
  match p.rest with
  | [] => return none
  | s :: rest =>
    set { p with rest, position := p.position + s.size }
    checkDangling
    return some s

/-- Reads a symbol if it is the given character. -/
def accept (c : Char) : Reader Bool := do
  match (← get).rest with
  | .plain d :: _ =>
    if c = d then
      let _ ← next
      return true
    else return false
  | _ => return false

/-- Reads at most so many characters of a class. -/
def takeClass (inClass : Char → Bool) : Nat → Reader (List Char)
  | 0 => return []
  | n + 1 => do
    match (← get).rest with
    | .plain c :: _ =>
      if inClass c then
        let _ ← next
        return c :: (← takeClass inClass n)
      else return []
    | _ => return []

/-- Reads the characters up to a terminator, which is read too. -/
def takeUntil (terminator : Char) (what : String) : Nat → List Char → Reader (List Char)
  | 0, _ => refuse (.missing what)
  | fuel + 1, taken => do
    match ← next with
    | none =>
      if taken.isEmpty then refuse (.missing what)
      else refuse (.unterminatedName terminator) taken.length
    | some s =>
      if s = .plain terminator then
        if taken.isEmpty then refuse (.missing what) 1 else return taken
      else takeUntil terminator what fuel (taken ++ s.chars)

def nameUntil (terminator : Char) (what : String) : Reader (List Char) := do
  takeUntil terminator what ((← get).rest.length + 1) []

/-- Skips symbols up to a given one, which is read too; says whether it was found. -/
def skipPast (stop : Char) : Nat → Reader Bool
  | 0 => return false
  | fuel + 1 => do
    match ← next with
    | none => return false
    | some s => if s = .plain stop then return true else skipPast stop fuel

/-! ## Groups -/

def isClosed (index : Nat) : Reader Bool := do
  return ((← get).groups[index - 1]?.getD none).isSome

/-- Number of groups opened so far. -/
def groupCount : Reader Nat := do
  return (← get).groups.length

/-- Opens the next group; a name may be given once only. -/
def enter (name : Option (List Char)) : Reader Nat := do
  let p ← get
  let index := p.groups.length + 1
  match name with
  | none =>
    set { p with groups := p.groups ++ [none] }
    return index
  | some cs =>
    let text := String.ofList cs
    match p.names.lookup text with
    | some previous => refuse (.redefinedGroup text index previous) (cs.length + 1)
    | none =>
      set { p with groups := p.groups ++ [none], names := p.names ++ [(text, index)] }
      return index

/-- The widths of the closed groups. -/
def widths (p : Progress) (index : Nat) : Width :=
  (p.groups[index - 1]?.getD none).getD ⟨0, 0⟩

def leave (index : Nat) (body : Node) : Reader Unit := do
  modify fun p => { p with groups := p.groups.set (index - 1) (some (body.width (widths p))) }

/-- Inside a look-behind, only groups from outside it may be referred to. -/
def checkBehind (index : Nat) : Reader Unit := do
  match (← get).behindFrom with
  | none => pure ()
  | some first =>
    if !(← isClosed index) then refuse .openGroup
    if first ≤ index then refuse .groupOfSameBehind

end Reader
end Regex
end QueryOptions
