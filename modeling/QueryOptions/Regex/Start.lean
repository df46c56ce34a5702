import QueryOptions.Regex.Pattern

/-!
# QueryOptions.Regex.Start

What an expression begins with, as far as a glance at the next character can rule it out: a
character compared as it is, or a set whose members are compared as they are. The matcher passes
over an attempt that such a glance rules out, and a search ends earlier if every match has to begin
so.
-/

namespace QueryOptions
namespace Regex

/-- Whether a member of a set is compared with others than itself. -/
def SetItem.isCased (fold : Fold) : SetItem → Bool
  | .code n => fold.isCased n || (fold != .exact && 0x10000 ≤ n)
  | .span low high => fold.spanIsCased low high || (fold != .exact && 0x10000 ≤ high)
  | .category _ _ _ => false

namespace CharTest

/-- The only character that the test accepts, if it is compared as it is. -/
def exactCode? : CharTest → Option Nat
  | .literal code false fold => if fold.isCased code then none else some code
  | _ => none

/-- Whether the test is a set whose members are compared as they are. -/
def isExactSet : CharTest → Bool
  | .set items _ fold => !items.any (fun item => item.isCased fold)
  | _ => false

/-- Whether the test compares a character with several others: such characters are counted one at
a time. -/
def isManifold : CharTest → Bool
  | .literal code _ fold => fold.isCased code && !(fold.peers (fold.lower code)).isEmpty
  | .set items _ fold => items.any (fun item => item.isCased fold)
  | _ => false

/-- Whether a glance at the characters that come next rules the test out. -/
def rulesOut (t : CharTest) (after : List Char) : Bool :=
  (t.exactCode?.isSome || t.isExactSet)
    && (match after with
      | [] => true
      | c :: _ => !t.accepts c)

end CharTest

namespace Node

/-- Whether the node stands for no pieces. -/
def isVoid : Node → Bool
  | .empty => true
  | .seq a b => a.isVoid && b.isVoid
  | _ => false

/-- The test that the node followed by others begins with; `next` is what follows it. -/
def firstTest? : Node → Option CharTest → Option CharTest
  | .empty, next => next
  | .one t, _ => some t
  | .seq a b, next => a.firstTest? (b.firstTest? next)
  | _, _ => none

/-- Whether the node has no pieces outside and inside of its groups. -/
def isHollow : Node → Bool
  | .empty => true
  | .seq a b => a.isHollow && b.isHollow
  | .capture _ body => body.isHollow
  | _ => false

/-- Whether every match begins with a certain character that is compared as it is. -/
def beginsExactly : Node → Bool
  | .one t => t.exactCode?.isSome
  | .seq a b => a.beginsExactly || (a.isHollow && b.beginsExactly)
  | .capture _ body => body.beginsExactly
  | _ => false

/-- Whether every alternative of a choice begins with a character that is compared as it is. -/
def choosesExactly : Node → Bool
  | .never => true
  | .alt a b => ((a.firstTest? none).bind CharTest.exactCode?).isSome && b.choosesExactly
  | _ => false

/-- Whether every match begins with a character of a set that is compared as it is. -/
def beginsInSet : Node → Bool
  | .one t => t.exactCode?.isSome || t.isExactSet
  | .seq a _ => a.beginsInSet
  | .capture _ body => body.beginsInSet
  | .alt a b => (Node.alt a b).choosesExactly
  | _ => false

end Node

/-- How many places of a text a search tries after the first one; none if the text is too short to
hold a match. -/
def furtherStarts? (root : Node) (least length : Nat) : Option Nat :=
  if length < least then none
  else if least ≤ 1 || root.beginsExactly then some length
  else if root.beginsInSet then some (length - least)
  else some (length - least + 1)

end Regex
end QueryOptions
