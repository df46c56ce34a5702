import Mathlib.Data.List.Forall2
import QueryOptions.Proofs.Renumbered

/-!
# QueryOptions.Proofs.Enclosed

A regular expression inside of one more group. The groups of the expression get the next numbers;
apart from them it stays what it is (`Node.enclosed`), as long as it does not refer to groups: a
reference by name moves on with its group, a reference by number does not.

What was read on its own and what was read inside of the group are therefore compared by relations
that say nothing about references (`Node.EnclosedAs` and the like). They are kept when pieces are
put together:

* `EnclosedAs.node`, `EnclosedAs.ofAlternatives`, `enclosedAs_flatMap`;
* `width_enclosed`: the width of an expression does not change.
-/

namespace QueryOptions
namespace Regex

/-! ## Nodes -/

namespace Node

def refers : Node → Bool
  | .seq a b => a.refers || b.refers
  | .alt a b => a.refers || b.refers
  | .capture _ body => body.refers
  | .repeated _ _ _ body => body.refers
  | .atomic body => body.refers
  | .ahead _ body => body.refers
  | .behind _ _ body => body.refers
  | .back _ _ => true
  | .whether _ _ _ => true
  | _ => false

/-- A node inside of one more group. -/
def enclosed : Node → Node
  | .seq a b => .seq a.enclosed b.enclosed
  | .alt a b => .alt a.enclosed b.enclosed
  | .capture index body => .capture (index + 1) body.enclosed
  | .repeated a least most body => .repeated a least most body.enclosed
  | .atomic body => .atomic body.enclosed
  | .ahead negated body => .ahead negated body.enclosed
  | .behind negated width body => .behind negated width body.enclosed
  | n => n

theorem width_enclosed {n : Node} (h : n.refers = false) (groups groups' : Nat → Width) :
    n.enclosed.width groups' = n.width groups := by
  induction n with
  | seq a b iha ihb =>
    simp only [refers, Bool.or_eq_false_iff] at h
    simp only [enclosed, width, iha h.1, ihb h.2]
  | alt a b iha ihb =>
    simp only [refers, Bool.or_eq_false_iff] at h
    cases b <;> simp only [enclosed, width] at ihb ⊢ <;> simp only [iha h.1, ihb h.2]
  | capture index body ih => exact ih h
  | repeated a least most body ih => simp only [enclosed, width, ih h]
  | atomic body ih => exact ih h
  | back index fold => cases h
  | whether index yes no => cases h
  | _ => rfl

/-- The second node is the first one inside of one more group, unless that refers to groups. -/
def EnclosedAs (n n' : Node) : Prop := n.refers = false → n' = n.enclosed

end Node

/-! ## Pieces -/

namespace Piece

def refers (p : Piece) : Bool := p.node.refers

/-- A piece inside of one more group. -/
def enclosed : Piece → Piece
  | .repetition n => .repetition n.enclosed
  | .whole n => .whole n.enclosed
  | p => p

theorem node_enclosed (p : Piece) : p.enclosed.node = p.node.enclosed := by cases p <;> rfl

theorem isShareable_enclosed (p : Piece) : p.enclosed.isShareable = p.isShareable := by
  cases p <;> rfl

theorem members?_enclosed (p : Piece) : p.enclosed.members? = p.members? := by cases p <;> rfl

theorem enclosed_of_isShareable {p : Piece} (h : p.isShareable = true) : p.enclosed = p := by
  cases p <;> first | rfl | cases h

/-- What can be shared is shared inside of the group, and nothing else. -/
theorem beq_enclosed {p : Piece} (q : Piece) (h : p.isShareable = true) :
    (p == q.enclosed) = (p == q) := by
  cases q with
  | repetition n => cases p <;> first | rfl | cases h
  | whole n => cases p <;> first | rfl | cases h
  | _ => rfl

theorem refers_of_members? {p : Piece} {items : List SetItem} (h : p.members? = some items) :
    p.refers = false := by
  cases p <;> first | rfl | cases h

end Piece

/-- The pieces inside of one more group. -/
def enclosedPieces (pieces : List Piece) : List Piece := pieces.map Piece.enclosed

@[simp] theorem enclosedPieces_nil : enclosedPieces [] = [] := rfl

@[simp] theorem enclosedPieces_cons (p : Piece) (pieces : List Piece) :
    enclosedPieces (p :: pieces) = p.enclosed :: enclosedPieces pieces := rfl

@[simp] theorem enclosedPieces_append (pieces others : List Piece) :
    enclosedPieces (pieces ++ others) = enclosedPieces pieces ++ enclosedPieces others :=
  List.map_append

def anyRefers (pieces : List Piece) : Bool := pieces.any Piece.refers

@[simp] theorem anyRefers_append (pieces others : List Piece) :
    anyRefers (pieces ++ others) = (anyRefers pieces || anyRefers others) :=
  List.any_append

namespace Node

theorem ofList_enclosed (ns : List Node) : ofList (ns.map enclosed) = (ofList ns).enclosed := by
  fun_induction ofList ns with
  | case1 => rfl
  | case2 n => rfl
  | case3 n rest hrest ih =>
    cases rest with
    | nil => exact absurd rfl hrest
    | cons m rest => exact congrArg (Node.seq n.enclosed) ih

theorem refers_ofList (ns : List Node) : (ofList ns).refers = ns.any refers := by
  fun_induction ofList ns with
  | case1 => rfl
  | case2 n => simp
  | case3 n rest hrest ih => simp [refers, ih]

theorem choice_enclosed (ns : List Node) : choice (ns.map enclosed) = (choice ns).enclosed := by
  induction ns with
  | nil => rfl
  | cons n rest ih => exact congrArg (Node.alt n.enclosed) ih

theorem refers_choice (ns : List Node) : (choice ns).refers = ns.any refers := by
  induction ns with
  | nil => rfl
  | cons n rest ih => simp [choice, refers, ih]

end Node

theorem nodeOfPieces_enclosed (pieces : List Piece) :
    nodeOfPieces (enclosedPieces pieces) = (nodeOfPieces pieces).enclosed := by
  unfold nodeOfPieces enclosedPieces
  rw [← Node.ofList_enclosed, List.map_map, List.map_map]
  exact congrArg Node.ofList (List.map_congr_left fun p _ => p.node_enclosed)

theorem refers_nodeOfPieces (pieces : List Piece) :
    (nodeOfPieces pieces).refers = anyRefers pieces := by
  unfold nodeOfPieces anyRefers
  rw [Node.refers_ofList, List.any_map]
  rfl

/-! ## Alternatives -/

theorem afterPiece?_enclosed (p : Piece) (pieces : List Piece) :
    afterPiece? p.enclosed (enclosedPieces pieces)
      = (afterPiece? p pieces).map enclosedPieces := by
  cases pieces with
  | nil => rfl
  | cons q rest =>
    simp only [enclosedPieces, List.map_cons, afterPiece?, Piece.isShareable_enclosed]
    cases hp : p.isShareable with
    | false => rfl
    | true =>
      rw [Piece.enclosed_of_isShareable hp, Piece.beq_enclosed q hp]
      split <;> rfl

theorem afterPieceAll?_enclosed (p : Piece) (others : List (List Piece)) :
    afterPieceAll? p.enclosed (others.map enclosedPieces)
      = (afterPieceAll? p others).map (List.map enclosedPieces) := by
  induction others with
  | nil => rfl
  | cons pieces others ih =>
    simp only [List.map_cons, afterPieceAll?, afterPiece?_enclosed, ih]
    cases afterPiece? p pieces <;> cases afterPieceAll? p others <;> rfl

theorem sharedStart_enclosed (first : List Piece) (others : List (List Piece)) :
    sharedStart (enclosedPieces first) (others.map enclosedPieces)
      = (enclosedPieces (sharedStart first others).1,
          (sharedStart first others).2.map enclosedPieces) := by
  induction first generalizing others with
  | nil => rfl
  | cons p rest ih =>
    rw [enclosedPieces_cons, sharedStart, sharedStart, afterPieceAll?_enclosed]
    cases afterPieceAll? p others with
    | none => rfl
    | some left => simp only [Option.map_some, ih, enclosedPieces_cons]

theorem setOf?_enclosed (pieces : List (List Piece)) :
    setOf? (pieces.map enclosedPieces) = setOf? pieces := by
  fun_induction setOf? pieces with
  | case1 => rfl
  | case2 p others items more hothers hp ih =>
    simp only [List.map_cons, enclosedPieces_cons, enclosedPieces_nil, setOf?,
      Piece.members?_enclosed, hp, ih, hothers]
  | case3 p others hnone ih =>
    simp only [List.map_cons, enclosedPieces_cons, enclosedPieces_nil, setOf?,
      Piece.members?_enclosed, ih]
  | case4 alternatives hnil hcons =>
    rcases alternatives with _ | ⟨_ | ⟨p, _ | ⟨q, rest⟩⟩, others⟩
    · exact absurd rfl hnil
    · rfl
    · exact absurd rfl (hcons p others)
    · rfl

theorem anyRefers_of_setOf? {pieces : List (List Piece)} {items : List SetItem}
    (h : setOf? pieces = some items) : ∀ left ∈ pieces, anyRefers left = false := by
  fun_induction setOf? pieces generalizing items with
  | case1 => simp
  | case2 p others items more hothers hp ih =>
    refine List.forall_mem_cons.mpr ⟨?_, ih hothers⟩
    simp [anyRefers, Piece.refers_of_members? hp]
  | case3 => cases h
  | case4 => cases h

theorem piecesOfAlternatives_enclosed (fold : Fold) (first : List Piece)
    (others : List (List Piece)) :
    piecesOfAlternatives fold (enclosedPieces first) (others.map enclosedPieces)
      = enclosedPieces (piecesOfAlternatives fold first others) := by
  cases others with
  | nil => rfl
  | cons pieces others =>
    simp only [piecesOfAlternatives, List.map_cons]
    rw [← List.map_cons, sharedStart_enclosed]
    simp only [setOf?_enclosed]
    split
    · simp [Piece.enclosed]
    · simp only [enclosedPieces_append, enclosedPieces_cons, enclosedPieces_nil, Piece.enclosed,
        ← Node.choice_enclosed, List.map_map]
      have hnode : nodeOfPieces ∘ enclosedPieces = Node.enclosed ∘ nodeOfPieces :=
        funext nodeOfPieces_enclosed
      rw [hnode]

/-- Nothing that refers to a group is lost when alternatives are put together. -/
theorem anyRefers_of_piecesOfAlternatives {fold : Fold} {first : List Piece}
    {others : List (List Piece)}
    (h : anyRefers (piecesOfAlternatives fold first others) = false) :
    ∀ pieces ∈ first :: others, anyRefers pieces = false := by
  cases others with
  | nil => exact List.forall_mem_singleton.mpr h
  | cons second others =>
    simp only [piecesOfAlternatives] at h
    have hleft : anyRefers (sharedStart first (second :: others)).1 = false ∧
        ∀ left ∈ (sharedStart first (second :: others)).2, anyRefers left = false := by
      split at h
      · rename_i items hitems
        rw [anyRefers_append, Bool.or_eq_false_iff] at h
        exact ⟨h.1, anyRefers_of_setOf? hitems⟩
      · rw [anyRefers_append, Bool.or_eq_false_iff] at h
        refine ⟨h.1, fun left hleft => ?_⟩
        have hchoice := h.2
        simp only [anyRefers, List.any_cons, List.any_nil, Bool.or_false, Piece.refers, Piece.node,
          Node.refers_choice, List.any_map, List.any_eq_false] at hchoice
        rw [← refers_nodeOfPieces]
        simpa using hchoice left hleft
    rw [← sharedStart_append]
    intro pieces hpieces
    obtain ⟨left, hmem, rfl⟩ := List.mem_map.mp hpieces
    rw [anyRefers_append, hleft.1, hleft.2 left hmem]
    rfl

/-! ## What was read twice -/

/-- The second pieces are the first ones inside of one more group, unless one of these refers to a
group. Either there are pieces in both or in neither. -/
structure EnclosedAs (pieces pieces' : List Piece) : Prop where
  nil_iff : pieces' = [] ↔ pieces = []
  eq : anyRefers pieces = false → pieces' = enclosedPieces pieces

namespace EnclosedAs

variable {first first' : List Piece} {others others' : List (List Piece)}

theorem nil : EnclosedAs [] [] := ⟨Iff.rfl, fun _ => rfl⟩

theorem append {pieces pieces' : List Piece} (h : EnclosedAs first first')
    (ho : EnclosedAs pieces pieces') : EnclosedAs (first ++ pieces) (first' ++ pieces') where
  nil_iff := by simp only [List.append_eq_nil_iff, h.nil_iff, ho.nil_iff]
  eq hr := by
    rw [anyRefers_append, Bool.or_eq_false_iff] at hr
    rw [h.eq hr.1, ho.eq hr.2, enclosedPieces_append]

theorem node (h : EnclosedAs first first') :
    (nodeOfPieces first).EnclosedAs (nodeOfPieces first') := by
  intro hr
  rw [refers_nodeOfPieces] at hr
  rw [h.eq hr, nodeOfPieces_enclosed]

theorem ofAlternatives (fold : Fold) (h : EnclosedAs first first')
    (ho : List.Forall₂ EnclosedAs others others') :
    EnclosedAs (piecesOfAlternatives fold first others)
      (piecesOfAlternatives fold first' others') where
  nil_iff := by
    have hne (pieces : List Piece) (second : List Piece) (rest : List (List Piece)) :
        piecesOfAlternatives fold pieces (second :: rest) ≠ [] := by
      simp only [piecesOfAlternatives]
      split <;> simp
    cases ho with
    | nil => exact h.nil_iff
    | cons => simp [hne]
  eq hr := by
    obtain ⟨hfirst, hothers⟩ := List.forall_mem_cons.mp (anyRefers_of_piecesOfAlternatives hr)
    have heq : others' = others.map enclosedPieces := by
      clear hr
      induction ho with
      | nil => rfl
      | cons hp _ ih =>
        obtain ⟨hpieces, hrest⟩ := List.forall_mem_cons.mp hothers
        rw [hp.eq hpieces, ih hrest, List.map_cons]
    rw [h.eq hfirst, heq, piecesOfAlternatives_enclosed]

end EnclosedAs

/-- The second piece is the first one inside of one more group, unless that refers to a group. They
are of the same kind. -/
inductive Piece.EnclosedAs : Piece → Piece → Prop where
  | test (t : CharTest) : EnclosedAs (.test t) (.test t)
  | place (letter : Char) (a : Anchor) : EnclosedAs (.place letter a) (.place letter a)
  | back (index index' : Nat) (fold : Fold) : EnclosedAs (.back index fold) (.back index' fold)
  | repetition {n n' : Node} (h : n.EnclosedAs n') : EnclosedAs (.repetition n) (.repetition n')
  | whole {n n' : Node} (h : n.EnclosedAs n') : EnclosedAs (.whole n) (.whole n')

/-- Items that were read twice. -/
inductive Item.EnclosedAs : Item → Item → Prop where
  | piece {p p' : Piece} (h : p.EnclosedAs p') : EnclosedAs (.piece p) (.piece p')
  | group {pieces pieces' : List Piece} (h : Regex.EnclosedAs pieces pieces') :
      EnclosedAs (.group pieces) (.group pieces')

theorem Piece.EnclosedAs.singleton {p p' : Piece} (h : p.EnclosedAs p') :
    Regex.EnclosedAs [p] [p'] where
  nil_iff := by simp
  eq hr := by
    have hp : p.refers = false := by simpa [anyRefers] using hr
    cases h with
    | test t => rfl
    | place letter a => rfl
    | back index index' fold => cases hp
    | repetition h => rw [h hp]; rfl
    | whole h => rw [h hp]; rfl

theorem Item.EnclosedAs.pieces {item item' : Item} (h : item.EnclosedAs item') :
    Regex.EnclosedAs item.pieces item'.pieces := by
  cases h with
  | piece h => exact h.singleton
  | group h => exact h

theorem enclosedAs_flatMap {items items' : List Item}
    (h : List.Forall₂ Item.EnclosedAs items items') :
    EnclosedAs (items.reverse.flatMap Item.pieces) (items'.reverse.flatMap Item.pieces) := by
  induction h with
  | nil => exact .nil
  | cons h _ ih =>
    simp only [List.reverse_cons, List.flatMap_append, List.flatMap_singleton]
    exact ih.append h.pieces

end Regex
end QueryOptions
