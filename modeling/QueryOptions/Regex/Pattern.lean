import QueryOptions.Text.Case
import QueryOptions.Text.Letter
import QueryOptions.Text.Blank

/-!
# QueryOptions.Regex.Pattern

Parsed regular expressions. A `Node` is built from single-character tests, anchors and groups; all
flags are resolved while parsing, so a node means the same wherever it stands. `Node.width` gives
the least and the greatest number of characters that a node can match.

A test without regard to case compares lower cases. Characters with a common upper case count as
equal too, so a set accepts a character if some member has the same lower case up to such peers.
Beyond the basic plane a member of a set stands for itself only, so an upper-case one is never met
there, and a span that reaches so far holds a character also if it holds its upper case.
-/

namespace QueryOptions
namespace Regex

/-- Options of a regular expression. -/
structure Flags where
  ignoreCase : Bool := false
  multiline : Bool := false
  dotAll : Bool := false
  verbose : Bool := false
  ascii : Bool := false
  unicode : Bool := false
  template : Bool := false
deriving DecidableEq, Repr, Inhabited

namespace Flags

/-- The options of either operand. -/
def union (a b : Flags) : Flags where
  ignoreCase := a.ignoreCase || b.ignoreCase
  multiline := a.multiline || b.multiline
  dotAll := a.dotAll || b.dotAll
  verbose := a.verbose || b.verbose
  ascii := a.ascii || b.ascii
  unicode := a.unicode || b.unicode
  template := a.template || b.template

/-- Whether the operands share an option. -/
def meets (a b : Flags) : Bool :=
  (a.ignoreCase && b.ignoreCase) || (a.multiline && b.multiline) || (a.dotAll && b.dotAll)
    || (a.verbose && b.verbose) || (a.ascii && b.ascii) || (a.unicode && b.unicode)
    || (a.template && b.template)

/-- The options inside a group that turns some on and some off. The two alphabets exclude each
other: turning one on turns the other off. -/
def within (scope added removed : Flags) : Flags where
  ignoreCase := (scope.ignoreCase || added.ignoreCase) && !removed.ignoreCase
  multiline := (scope.multiline || added.multiline) && !removed.multiline
  dotAll := (scope.dotAll || added.dotAll) && !removed.dotAll
  verbose := (scope.verbose || added.verbose) && !removed.verbose
  ascii := added.ascii || (scope.ascii && !added.unicode)
  unicode := added.unicode || (scope.unicode && !added.ascii)
  template := scope.template

end Flags

/-- How characters are compared. -/
inductive Fold where
  | exact
  | ascii
  | unicode
deriving DecidableEq, Repr

/-- The comparison that options ask for. -/
def Flags.fold (f : Flags) : Fold :=
  if f.ignoreCase then (if f.ascii then .ascii else .unicode) else .exact

/-- A class of characters with an escape of its own. -/
inductive Category where
  | digit
  | blank
  | word
deriving DecidableEq, Repr

/-- Whether a code point is in a class; `ascii` restricts the class to code points below 128. -/
def Category.contains (k : Category) (ascii : Bool) (code : Nat) : Bool :=
  match k with
  | .digit => if ascii then Text.isAsciiDigit code else Text.isDecimal code
  | .blank =>
    if ascii then code == 0x20 || (0x9 ≤ code && code ≤ 0xD) else Text.isBlankCode code
  | .word => if ascii then Text.isAsciiWord code else Text.isWord code

/-- A member of a character set. -/
inductive SetItem where
  | code (n : Nat)
  | span (low high : Nat)
  | category (k : Category) (negated : Bool) (ascii : Bool)
deriving DecidableEq, Repr

namespace Fold

/-- The code point that is compared in place of another one. -/
def lower : Fold → Nat → Nat
  | .exact, code => code
  | .ascii, code => Text.asciiLowerOf code
  | .unicode, code => Text.lowerOf code

/-- The other code points that a lower-case one is equal to. -/
def peers : Fold → Nat → List Nat
  | .unicode, code => Text.lowerPeers code
  | _, _ => []

/-- Whether a code point is compared with others than itself. -/
def isCased : Fold → Nat → Bool
  | .exact, _ => false
  | .ascii, code => (0x41 ≤ code && code ≤ 0x5A) || (0x61 ≤ code && code ≤ 0x7A)
  | .unicode, code => Text.isCased code

/-- Whether a span of code points holds one that is compared with others. -/
def spanIsCased : Fold → Nat → Nat → Bool
  | .exact, _, _ => false
  | .ascii, low, high => (low ≤ 0x5A && 0x41 ≤ high) || (low ≤ 0x7A && 0x61 ≤ high)
  | .unicode, low, high => Text.spanIsCased low high

end Fold

/-- Whether two code points are equal up to case. -/
def sameFolded (fold : Fold) (a b : Nat) : Bool :=
  let x := fold.lower a
  let y := fold.lower b
  x == y || (fold.peers y).contains x

/-- Whether a span holds a code point with the given lower case. -/
def spanHoldsLower (fold : Fold) (low high lower : Nat) : Bool :=
  let candidates :=
    match fold with
    | .exact => [lower]
    | .ascii =>
      if 0x61 ≤ lower && lower ≤ 0x7A then [lower, lower - 32]
      else if 0x41 ≤ lower && lower ≤ 0x5A then [] else [lower]
    | .unicode => (lower :: Text.lowerPeers lower).flatMap Text.lowerPreimages
  candidates.any (fun n => low ≤ n && n ≤ high && n < 0x10000)
    || (0x10000 ≤ high
      && ((low ≤ lower && lower ≤ high)
        || (low ≤ Text.upperOf lower && Text.upperOf lower ≤ high)))

def SetItem.accepts (fold : Fold) (code : Nat) : SetItem → Bool
  | .code n => if n < 0x10000 then sameFolded fold code n else fold.lower code == n
  | .span low high =>
    match fold with
    | .exact => low ≤ code && code ≤ high
    | _ => spanHoldsLower fold low high (fold.lower code)
  | .category k negated ascii => k.contains ascii (fold.lower code) != negated

inductive CharTest where
  | any
  | notLineEnd
  | literal (code : Nat) (negated : Bool) (fold : Fold)
  | set (items : List SetItem) (negated : Bool) (fold : Fold)
deriving DecidableEq, Repr

def CharTest.accepts (t : CharTest) (c : Char) : Bool :=
  match t with
  | .any => true
  | .notLineEnd => c != '\n'
  | .literal code negated fold => sameFolded fold c.toNat code != negated
  | .set items negated fold => items.any (fun item => item.accepts fold c.toNat) != negated

/-- A condition on the place in the text. -/
inductive Anchor where
  | textStart
  | lineStart
  | textEnd
  | lineEnd
  | beforeFinal
  | boundary (negated : Bool) (ascii : Bool)
deriving DecidableEq, Repr

/-- In which order the numbers of repetitions are tried. -/
inductive Appetite where
  | greedy
  | lazy
  | possessive
deriving DecidableEq, Repr

/-- Least and greatest number of characters. -/
structure Width where
  least : Nat
  most : Nat
deriving DecidableEq, Repr

/-- One more than the largest number of repetitions that can be written. -/
def repeatLimit : Nat := 4294967295

namespace Width

/-- Widths are not told apart beyond the limit. -/
def clip (w : Width) : Width := ⟨min w.least (repeatLimit - 1), min w.most repeatLimit⟩

def plus (a b : Width) : Width := clip ⟨a.least + b.least, a.most + b.most⟩

def either (a b : Width) : Width := ⟨min a.least b.least, max a.most b.most⟩

/-- Repeated; no upper bound counts as the limit. -/
def times (w : Width) (least : Nat) (most : Option Nat) : Width :=
  clip ⟨w.least * least, w.most * most.getD repeatLimit⟩

/-- Whether only one number of characters is possible. -/
def fixed (w : Width) : Bool := w.least == w.most

end Width

/-- A regular expression. Groups are numbered from one. The alternatives of a choice are `alt` after
`alt`, and `never` ends them. -/
inductive Node where
  | empty
  | never
  | one (test : CharTest)
  | anchor (a : Anchor)
  | seq (first second : Node)
  | alt (first second : Node)
  | capture (index : Nat) (body : Node)
  | repeated (appetite : Appetite) (least : Nat) (most : Option Nat) (body : Node)
  | atomic (body : Node)
  | ahead (negated : Bool) (body : Node)
  | behind (negated : Bool) (width : Width) (body : Node)
  | back (index : Nat) (fold : Fold)
  | whether (index : Nat) (yes no : Node)
deriving DecidableEq, Repr, Inhabited

namespace Node

/-- The width of a node, given the widths of the groups it may refer to. -/
def width (groups : Nat → Width) : Node → Width
  | .empty => ⟨0, 0⟩
  | .never => ⟨0, 0⟩
  | .one _ => ⟨1, 1⟩
  | .anchor _ => ⟨0, 0⟩
  | .seq a b => (a.width groups).plus (b.width groups)
  | .alt a .never => a.width groups
  | .alt a b => (a.width groups).either (b.width groups)
  | .capture _ body => body.width groups
  | .repeated _ least most body => (body.width groups).times least most
  | .atomic body => body.width groups
  | .ahead _ _ => ⟨0, 0⟩
  | .behind _ _ _ => ⟨0, 0⟩
  | .back index _ => groups index
  | .whether _ yes no => (yes.width groups).either (no.width groups)

def ofList : List Node → Node
  | [] => .empty
  | [n] => n
  | n :: rest => .seq n (ofList rest)

def choice : List Node → Node
  | [] => .never
  | n :: rest => .alt n (choice rest)

end Node
end Regex
end QueryOptions
