import QueryOptions.Regex.Parser
import QueryOptions.Regex.Start

/-!
# QueryOptions.Regex.Match

Matching by backtracking. `Node.run` tries the ways in which a node can match at a place, in order
of preference, and hands each place reached to a continuation until one succeeds. The text is
split at the place, so that looking back is as easy as looking ahead.

An attempt leaves a trail even if it fails: the place where it tried something last, and the marks
of the groups it passed. What is tried instead starts from the marks there were before: inside a
repetition they are restored, elsewhere those made since are dropped. The place is left as it is;
only a possessive repetition looks at it, and goes on from there when a round fails.

A repetition goes on only if its last round made progress; this bounds the number of rounds by the
number of characters, and the fuel of the three loops is computed from that bound.
-/

namespace QueryOptions
namespace Regex

structure Place where
  /-- Characters before the place, nearest first. -/
  before : List Char
  /-- Characters after the place. -/
  after : List Char
  /-- Number of characters before the place. -/
  position : Nat := before.length
  position_eq : position = before.length := by rfl
deriving DecidableEq, Repr

namespace Place

def start (text : List Char) : Place := { before := [], after := text }

/-- The place after the next character, if there is one. -/
def forward (p : Place) : Place :=
  match p.after with
  | [] => p
  | c :: rest => ⟨c :: p.before, rest, p.position + 1, by simp [p.position_eq]⟩

/-- The place before the last character, if there is one. -/
def backward (p : Place) : Place :=
  match h : p.before with
  | [] => p
  | c :: rest => ⟨rest, c :: p.after, p.position - 1, by simp [p.position_eq, h]⟩

/-- The place so many characters later, or the end. -/
def forwardBy (p : Place) : Nat → Place
  | 0 => p
  | n + 1 => p.forward.forwardBy n

/-- The place so many characters earlier, or the beginning. -/
def backwardBy (p : Place) : Nat → Place
  | 0 => p
  | n + 1 => p.backward.backwardBy n

theorem forward_text (p : Place) :
    p.forward.before.reverse ++ p.forward.after = p.before.reverse ++ p.after := by
  unfold forward
  split <;> simp_all

theorem backward_text (p : Place) :
    p.backward.before.reverse ++ p.backward.after = p.before.reverse ++ p.after := by
  unfold backward
  split <;> simp_all

/-- The characters between two positions. -/
def between (p : Place) (start stop : Nat) : List Char :=
  ((p.before.reverse ++ p.after).drop start).take (stop - start)

/-- The place after the given characters, if they come next up to case. -/
def skipText? (p : Place) (fold : Fold) : List Char → Option Place
  | [] => some p
  | c :: rest =>
    match p.after with
    | [] => none
    | d :: _ =>
      if fold.lower d.toNat = fold.lower c.toNat then
        skipText? p.forward fold rest
      else none

end Place

/-! ## Trails -/

/-- What an attempt leaves behind. -/
structure Trail where
  /-- Positions where groups begin and end: the first group has the first two entries, the second
  group the next two, and so on. -/
  marks : List (Option Nat)
  /-- Where something was tried last. -/
  place : Place
deriving DecidableEq, Repr

namespace Trail

/-- Something is tried at a place. -/
def visit (t : Trail) (p : Place) : Trail := { t with place := p }

/-- Marks a position; entries that are passed over are empty. -/
def mark (t : Trail) (entry position : Nat) : Trail :=
  if entry < t.marks.length then { t with marks := t.marks.set entry (some position) }
  else
    { t with
      marks := t.marks ++ List.replicate (entry - t.marks.length) none ++ [some position] }

def enter (t : Trail) (index : Nat) (p : Place) : Trail := t.mark (2 * index - 2) p.position

def leave (t : Trail) (index : Nat) (p : Place) : Trail := t.mark (2 * index - 1) p.position

/-- Where a group begins and ends, if it has matched. -/
def group? (t : Trail) (index : Nat) : Option (Nat × Nat) :=
  match t.marks[2 * index - 2]?, t.marks[2 * index - 1]? with
  | some (some start), some (some stop) => if start ≤ stop then some (start, stop) else none
  | _, _ => none

/-- The trail after a failed attempt, given the marks from before it. Inside a repetition they are
restored; elsewhere entries that were not there are dropped, and the others stay. -/
def restore (t : Trail) (repeating : Bool) (saved : List (Option Nat)) : Trail :=
  { t with marks := if repeating then saved else t.marks.take saved.length }

theorem length_mark_of_lt {t : Trail} {entry : Nat} (position : Nat)
    (h : entry < t.marks.length) : (t.mark entry position).marks.length = t.marks.length := by
  simp [mark, h]

theorem length_mark_of_le {t : Trail} {entry : Nat} (position : Nat)
    (h : t.marks.length ≤ entry) : (t.mark entry position).marks.length = entry + 1 := by
  have hn : ¬ entry < t.marks.length := by omega
  simp only [mark, hn, if_false, List.length_append, List.length_replicate, List.length_cons,
    List.length_nil]
  omega

end Trail

/-- How an attempt ends. A match ends where its trail does. -/
inductive Outcome where
  | matched (t : Trail)
  | failed (t : Trail)
deriving DecidableEq, Repr

/-- What is done with a place that was reached. -/
abbrev Continuation := Place → Trail → Outcome

namespace Outcome

/-- A match up to a place. -/
def stop : Continuation := fun p t => .matched (t.visit p)

/-- If the attempt failed, something else is tried. -/
def orElse (o : Outcome) (other : Trail → Outcome) : Outcome :=
  match o with
  | .matched t => .matched t
  | .failed t => other t

/-- A failure counts as one at a place. -/
def failingAt (o : Outcome) (p : Place) : Outcome := o.orElse (fun t => .failed (t.visit p))

/-- Where the attempt matched, something else has to match too. -/
def andThen (o : Outcome) (next : Trail → Outcome) : Outcome :=
  match o with
  | .matched t => next t
  | .failed t => .failed t

end Outcome

/-! ## Anchors -/

def wordHere (ascii : Bool) : List Char → Bool
  | [] => false
  | c :: _ => Category.word.contains ascii c.toNat

/-- Whether an anchor holds at a place. The empty text has neither boundaries nor
non-boundaries. -/
def Anchor.holds (a : Anchor) (p : Place) : Bool :=
  match a with
  | .textStart => p.before.isEmpty
  | .lineStart => p.before.isEmpty || p.before.head? == some '\n'
  | .textEnd => p.after.isEmpty
  | .lineEnd => p.after.isEmpty || p.after.head? == some '\n'
  | .beforeFinal => p.after.isEmpty || p.after == ['\n']
  | .boundary negated ascii =>
    if p.before.isEmpty && p.after.isEmpty then false
    else (wordHere ascii p.before != wordHere ascii p.after) != negated

/-! ## Repetitions of one character -/

/-- Number of characters, up to a limit, that a test accepts one after the other. -/
def CharTest.count (test : CharTest) (most : Option Nat) (cs : List Char) : Nat :=
  ((match most with
    | none => cs
    | some m => cs.take m).takeWhile test.accepts).length

/-- The trail of counting characters: only counting one at a time moves on. -/
def CharTest.counted (test : CharTest) (p : Place) (count : Nat) (t : Trail) : Trail :=
  t.visit (if test.isManifold then p.forwardBy count else p)

/-- Whether a character that has to come next, and is compared as it is, does not. -/
def isBarred (next : Option CharTest) (p : Place) : Bool :=
  match next.bind CharTest.exactCode? with
  | none => false
  | some code => p.after.head?.map Char.toNat != some code

/-- Goes on at a place, and at those up to so many characters earlier. Places are passed over where
a character that has to come next does not. -/
def giveBack (repeating : Bool) (next : Option CharTest) (k : Continuation)
    (saved : List (Option Nat)) : Nat → Place → Trail → Outcome
  | extra, p, t =>
    let here : Outcome :=
      if isBarred next p then .failed t
      else (k p (t.visit p)).orElse (fun u => .failed (u.restore repeating saved))
    match extra with
    | 0 => here
    | n + 1 => here.orElse (fun u => giveBack repeating next k saved n p.backward u)

/-- Goes on at a place, and at those up to so many accepted characters later; no number stands for
all of them. -/
def takeMore (repeating : Bool) (test : CharTest) (k : Continuation) (saved : List (Option Nat)) :
    List Char → Option Nat → Place → Trail → Outcome
  | after, extra, p, t =>
    (k p (t.visit p)).orElse fun u =>
      let v := test.counted p (test.count (some 1) after) (u.restore repeating saved)
      match after with
      | [] => .failed v
      | c :: rest =>
        if test.accepts c && extra != some 0 then
          takeMore repeating test k saved rest (extra.map (· - 1)) p.forward v
        else .failed v

/-- A repeated test of one character. -/
def CharTest.runRepeated (test : CharTest) (appetite : Appetite) (least : Nat) (most : Option Nat)
    (repeating : Bool) (next : Option CharTest) (p : Place) (t : Trail) (k : Continuation) :
    Outcome :=
  if p.after.length < least then .failed t
  else
    match appetite with
    | .greedy =>
      let count := test.count most p.after
      let u := test.counted p count t
      if count < least then .failed u
      else giveBack repeating next k u.marks (count - least) (p.forwardBy count) u
    | .lazy =>
      let count := test.count (some least) p.after
      let u := test.counted p count t
      if count < least then .failed u
      else
        let q := p.forwardBy count
        takeMore repeating test k u.marks q.after (most.map (· - least)) q u
    | .possessive =>
      let count := test.count most p.after
      let u := test.counted p count t
      if count < least then .failed u else k (p.forwardBy count) u

/-! ## Other repetitions -/

/-- Whether one more round is allowed: the upper bound is not reached, and the round before made
progress. -/
def mayRepeat (most : Option Nat) (count : Nat) (last : Option Nat) (p : Place) : Bool :=
  (match most with
    | none => true
    | some m => count < m) && last != some p.position

/-- More rounds first. -/
def greedyLoop (body : Place → Trail → Continuation → Outcome) (least : Nat) (most : Option Nat)
    (k : Continuation) : Nat → Nat → Option Nat → Place → Trail → Outcome
  | 0, _, _, _, t => .failed t
  | fuel + 1, count, last, p, t =>
    if count < least then
      let again := greedyLoop body least most k fuel (count + 1) last
      (body p (t.visit p) again).failingAt p
    else if mayRepeat most count last p then
      let again := greedyLoop body least most k fuel (count + 1) (some p.position)
      (body p (t.visit p) again).orElse
        fun u => (k p ((u.restore true t.marks).visit p)).failingAt p
    else (k p (t.visit p)).failingAt p

/-- Fewer rounds first. -/
def lazyLoop (repeating : Bool) (body : Place → Trail → Continuation → Outcome) (least : Nat)
    (most : Option Nat) (k : Continuation) : Nat → Nat → Option Nat → Place → Trail → Outcome
  | 0, _, _, _, t => .failed t
  | fuel + 1, count, last, p, t =>
    if count < least then
      let again := lazyLoop repeating body least most k fuel (count + 1) last
      (body p (t.visit p) again).failingAt p
    else
      (k p (t.visit p)).orElse fun u =>
        let v := (u.restore repeating t.marks).visit p
        if mayRepeat most count last p then
          let again := lazyLoop repeating body least most k fuel (count + 1) (some p.position)
          (body p v again).failingAt p
        else .failed v

/-- As many rounds as possible, each in its preferred way, never taken back. After a round that
fails, the match goes on where that round tried something last. -/
def possessiveLoop (body : Place → Trail → Continuation → Outcome) (least : Nat)
    (most : Option Nat) (start : Place) : Nat → Nat → Option Nat → Trail → Outcome
  | 0, _, _, t => .failed t
  | fuel + 1, count, last, t =>
    if count < least then
      ((body t.place t Outcome.stop).failingAt start).andThen
        (possessiveLoop body least most start fuel (count + 1) last)
    else if mayRepeat most count last t.place then
      match body t.place t Outcome.stop with
      | .matched u =>
        possessiveLoop body least most start fuel (count + 1) (some t.place.position) u
      | .failed u => .matched (u.restore true t.marks)
    else .matched t

/-- A bound on the number of rounds from a place. -/
def roundsFrom (least : Nat) (p : Place) : Nat :=
  least + 2 * (p.position + p.after.length) + 3

/-! ## Nodes -/

/-- The first success among the ways in which a node matches at a place. `repeating` tells whether
the node is inside a repetition, and `next` is the test that follows it. -/
def Node.run : Node → Bool → Option CharTest → Place → Trail → Continuation → Outcome
  | .empty, _, _, p, t, k => k p t
  | .never, _, _, _, t, _ => .failed t
  | .one test, _, _, p, t, k =>
    match p.after with
    | [] => .failed t
    | c :: _ => if test.accepts c then k p.forward t else .failed t
  | .anchor a, _, _, p, t, k => if a.holds p then k p t else .failed t
  | .seq a b, repeating, next, p, t, k =>
    a.run repeating (b.firstTest? next) p t (fun q u => b.run repeating next q u k)
  | .alt a b, repeating, next, p, t, k =>
    let first : Outcome :=
      if ((a.firstTest? none).map (fun test => test.rulesOut p.after)).getD false then .failed t
      else
        (a.run repeating none p (t.visit p) k).orElse
          (fun u => .failed (u.restore repeating t.marks))
    first.orElse (fun u => b.run repeating next p u k)
  | .capture index body, repeating, _, p, t, k =>
    body.run repeating none p (t.enter index p) (fun q u => k q (u.leave index q))
  | .repeated appetite least most body, repeating, next, p, t, k =>
    match body with
    | .one test => test.runRepeated appetite least most repeating next p t k
    | _ =>
      match appetite with
      | .greedy => greedyLoop (body.run true none) least most k (roundsFrom least p) 0 none p t
      | .lazy =>
        lazyLoop repeating (body.run true none) least most k (roundsFrom least p) 0 none p t
      | .possessive =>
        (possessiveLoop (body.run repeating none) least most p (roundsFrom least p) 0 none
          (t.visit p)).andThen (fun u => k u.place u)
  | .atomic body, repeating, _, p, t, k =>
    ((body.run repeating none p (t.visit p) Outcome.stop).failingAt p).andThen
      (fun u => k u.place u)
  | .ahead false body, repeating, _, p, t, k =>
    (body.run repeating none p (t.visit p) Outcome.stop).andThen (k p)
  | .ahead true body, repeating, _, p, t, k =>
    match body.run repeating none p (t.visit p) Outcome.stop with
    | .matched u => .failed u
    | .failed u => k p (u.restore repeating t.marks)
  | .behind negated width body, repeating, _, p, t, k =>
    if p.position < width.least then (if negated then k p t else .failed t)
    else
      let q := p.backwardBy width.least
      match body.run repeating none q (t.visit q) Outcome.stop with
      | .matched u => if negated then .failed u else k p u
      | .failed u => if negated then k p (u.restore repeating t.marks) else .failed u
  | .back index fold, _, _, p, t, k =>
    match t.group? index with
    | none => .failed t
    | some (start, stop) =>
      match p.skipText? fold (p.between start stop) with
      | none => .failed t
      | some q => k q t
  | .whether index yes no, repeating, next, p, t, k =>
    match t.group? index with
    | some _ => yes.run repeating (if no.isVoid then next else none) p t k
    | none => no.run repeating next p t k

/-- Whether an expression matches at a place. -/
def Node.matchesAt (root : Node) (p : Place) : Bool :=
  match root.run false none p ⟨[], p⟩ Outcome.stop with
  | .matched _ => true
  | .failed _ => false

/-- Looks for a match at a place and at so many later ones. -/
def Node.searchFrom (root : Node) : Nat → Place → Bool
  | 0, p => root.matchesAt p
  | n + 1, p => root.matchesAt p || root.searchFrom n p.forward

/-- Whether an expression matches somewhere in a text. -/
def search (r : Regex) (text : String) : Bool :=
  match furtherStarts? r.root r.least text.length with
  | none => false
  | some n => r.root.searchFrom n (.start text.toList)

end Regex
end QueryOptions
