import QueryOptions.Regex.Pattern

/-!
# QueryOptions.Regex.Piece

The pieces that a sequence is read into, and how alternatives become pieces again. Pieces that all
alternatives begin with stand in front of the choice. If one character is left of each alternative,
what they leave is one set, and characters are compared as in a set.

`sharedStart_append` says that nothing is lost: each alternative is the shared start followed by
what is left of it.
-/

namespace QueryOptions
namespace Regex

inductive Piece where
  /-- A test of one character. -/
  | test (t : CharTest)
  /-- A condition on the place, with the letter that it is written with. -/
  | place (letter : Char) (a : Anchor)
  /-- What a group matched before. -/
  | back (index : Nat) (fold : Fold)
  /-- A piece that is repeated already. -/
  | repetition (node : Node)
  /-- A group, a look-around or a choice. -/
  | whole (node : Node)
deriving DecidableEq, Repr

namespace Piece

def node : Piece → Node
  | .test t => .one t
  | .place _ a => .anchor a
  | .back index fold => .back index fold
  | .repetition n => n
  | .whole n => n

/-- Whether the piece can be shared by alternatives: it has no parts of its own. -/
def isShareable : Piece → Bool
  | .test _ => true
  | .place _ _ => true
  | .back _ _ => true
  | .repetition _ => false
  | .whole _ => false

/-- The members of the set that accepts what the piece accepts, if there is one. -/
def members? : Piece → Option (List SetItem)
  | .test (.literal code false _) => some [.code code]
  | .test (.set items false _) => some items
  | _ => none

end Piece

/-- Pieces in the order they were read become one node. -/
def nodeOfPieces (pieces : List Piece) : Node := Node.ofList (pieces.map Piece.node)

/-- What follows a piece in an alternative that begins with it. -/
def afterPiece? (p : Piece) : List Piece → Option (List Piece)
  | [] => none
  | q :: rest => if p.isShareable && p == q then some rest else none

theorem eq_cons_of_afterPiece? {p : Piece} {pieces rest : List Piece}
    (h : afterPiece? p pieces = some rest) : pieces = p :: rest := by
  cases pieces with
  | nil => simp [afterPiece?] at h
  | cons q qs =>
    simp only [afterPiece?] at h
    split at h
    · rename_i hq
      simp only [Bool.and_eq_true, beq_iff_eq] at hq
      simp_all
    · simp at h

/-- What follows a piece in each of several alternatives, if all begin with it. -/
def afterPieceAll? (p : Piece) : List (List Piece) → Option (List (List Piece))
  | [] => some []
  | pieces :: others =>
    match afterPiece? p pieces, afterPieceAll? p others with
    | some rest, some left => some (rest :: left)
    | _, _ => none

theorem eq_map_of_afterPieceAll? {p : Piece} {others left : List (List Piece)}
    (h : afterPieceAll? p others = some left) : others = left.map (p :: ·) := by
  induction others generalizing left with
  | nil => simp only [afterPieceAll?, Option.some.injEq] at h; subst h; rfl
  | cons pieces others ih =>
    simp only [afterPieceAll?] at h
    split at h
    · rename_i rest tail hp ho
      simp only [Option.some.injEq] at h
      subst h
      rw [eq_cons_of_afterPiece? hp, ih ho]
      rfl
    · simp at h

/-- The pieces that alternatives begin with, and what is left of each alternative. -/
def sharedStart : List Piece → List (List Piece) → List Piece × List (List Piece)
  | [], others => ([], [] :: others)
  | p :: rest, others =>
    match afterPieceAll? p others with
    | none => ([], (p :: rest) :: others)
    | some left => (p :: (sharedStart rest left).1, (sharedStart rest left).2)

/-- Each alternative is the shared start followed by what is left of it. -/
theorem sharedStart_append (first : List Piece) (others : List (List Piece)) :
    (sharedStart first others).2.map ((sharedStart first others).1 ++ ·) = first :: others := by
  induction first generalizing others with
  | nil => simp [sharedStart]
  | cons p rest ih =>
    simp only [sharedStart]
    split
    · simp
    · rename_i left h
      have step := congrArg (List.map (p :: ·)) (ih left)
      rw [eq_map_of_afterPieceAll? h]
      simpa [List.map_map, Function.comp_def] using step

/-- The members of the set that a list of one-character alternatives makes. -/
def setOf? : List (List Piece) → Option (List SetItem)
  | [] => some []
  | [p] :: others =>
    match p.members?, setOf? others with
    | some items, some more => some (items ++ more)
    | _, _ => none
  | _ => none

def piecesOfAlternatives (fold : Fold) (first : List Piece) : List (List Piece) → List Piece
  | [] => first
  | others =>
    let shared := sharedStart first others
    match setOf? shared.2 with
    | some items => shared.1 ++ [.test (.set items.eraseDups false fold)]
    | none => shared.1 ++ [.whole (.choice (shared.2.map nodeOfPieces))]

/-- What was read in a sequence: a piece, or a group that only holds pieces together. -/
inductive Item where
  | piece (p : Piece)
  | group (pieces : List Piece)
deriving DecidableEq, Repr

namespace Item

/-- The pieces of an item. A group that only holds pieces together dissolves into them. -/
def pieces : Item → List Piece
  | .piece p => [p]
  | .group ps => ps

def node (item : Item) : Node := nodeOfPieces item.pieces

end Item
end Regex
end QueryOptions
