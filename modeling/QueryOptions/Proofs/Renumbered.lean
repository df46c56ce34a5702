import QueryOptions.Regex.Parser

/-!
# QueryOptions.Proofs.Renumbered

A regular expression whose groups get other numbers. Those that capture and those that are referred
to may be numbered in different ways; as long as different references stay different, the expression
is put together from the renumbered pieces as it was from the old ones.

* `nodeOfPieces_renumbered`, `piecesOfAlternatives_renumbered`, `Item.flatMap_pieces_renumbered`:
  pieces that are put together;
* `Node.Numbered`: what the numbers of a node are like, with a rule for each way of putting pieces
  together;
* `Node.width_renumbered`, `Node.check_renumbered`: what does not depend on the numbers.
-/

namespace QueryOptions
namespace Regex

/-! ## Nodes -/

namespace Node

variable (captures references : Nat → Nat)

/-- A node with other numbers for the groups that capture and for those that are referred to. -/
def renumbered : Node → Node
  | .seq a b => .seq a.renumbered b.renumbered
  | .alt a b => .alt a.renumbered b.renumbered
  | .capture index body => .capture (captures index) body.renumbered
  | .repeated a least most body => .repeated a least most body.renumbered
  | .atomic body => .atomic body.renumbered
  | .ahead negated body => .ahead negated body.renumbered
  | .behind negated width body => .behind negated width body.renumbered
  | .back index fold => .back (references index) fold
  | .whether index yes no => .whether (references index) yes.renumbered no.renumbered
  | n => n

/-- What is said of the numbers of captures and of references holds for all of a node. -/
def Numbered (captured referred : Nat → Prop) : Node → Prop
  | .seq a b => a.Numbered captured referred ∧ b.Numbered captured referred
  | .alt a b => a.Numbered captured referred ∧ b.Numbered captured referred
  | .capture index body => captured index ∧ body.Numbered captured referred
  | .repeated _ _ _ body => body.Numbered captured referred
  | .atomic body => body.Numbered captured referred
  | .ahead _ body => body.Numbered captured referred
  | .behind _ _ body => body.Numbered captured referred
  | .back index _ => referred index
  | .whether index yes no =>
    referred index ∧ yes.Numbered captured referred ∧ no.Numbered captured referred
  | _ => True

variable {captured referred : Nat → Prop}

/-- Widths depend on the groups that are referred to. -/
theorem width_renumbered {n : Node} (h : n.Numbered captured referred)
    {groups groups' : Nat → Width}
    (hgroups : ∀ index, referred index → groups' (references index) = groups index) :
    (n.renumbered captures references).width groups' = n.width groups := by
  induction n with
  | seq a b iha ihb => simp only [renumbered, width, iha h.1, ihb h.2]
  | alt a b iha ihb =>
    have ha := iha h.1
    have hb := ihb h.2
    cases b <;> simp only [renumbered, width] at hb ⊢ <;> simp only [ha, hb]
  | capture index body ih => exact ih h.2
  | repeated a least most body ih => simp only [renumbered, width, ih h]
  | atomic body ih => exact ih h
  | back index fold => exact hgroups index h
  | whether index yes no ihyes ihno => simp only [renumbered, width, ihyes h.2.1, ihno h.2.2]
  | _ => rfl

theorem check_renumbered (n : Node) (template : Bool) :
    (n.renumbered captures references).check template = n.check template := by
  induction n with
  | seq a b iha ihb => simp only [renumbered, check, iha, ihb]
  | alt a b iha ihb => simp only [renumbered, check, iha, ihb]
  | capture index body ih => exact ih
  | repeated a least most body ih => simp only [renumbered, check, ih]
  | atomic body ih => exact ih
  | ahead negated body ih => exact ih
  | behind negated width body ih => simp only [renumbered, check, ih]
  | whether index yes no ihyes ihno => simp only [renumbered, check, ihyes, ihno]
  | _ => rfl

theorem ofList_renumbered (ns : List Node) :
    ofList (ns.map (renumbered captures references))
      = (ofList ns).renumbered captures references := by
  fun_induction ofList ns with
  | case1 => rfl
  | case2 n => rfl
  | case3 n rest hrest ih =>
    cases rest with
    | nil => exact absurd rfl hrest
    | cons m rest => exact congrArg (Node.seq (n.renumbered captures references)) ih

theorem choice_renumbered (ns : List Node) :
    choice (ns.map (renumbered captures references))
      = (choice ns).renumbered captures references := by
  induction ns with
  | nil => rfl
  | cons n rest ih => exact congrArg (Node.alt (n.renumbered captures references)) ih

theorem numbered_ofList {ns : List Node} :
    (ofList ns).Numbered captured referred ↔ ∀ n ∈ ns, n.Numbered captured referred := by
  fun_induction ofList ns with
  | case1 => simp [Numbered]
  | case2 n => simp
  | case3 n rest hrest ih => simp [Numbered, ih]

theorem numbered_choice {ns : List Node} :
    (choice ns).Numbered captured referred ↔ ∀ n ∈ ns, n.Numbered captured referred := by
  induction ns with
  | nil => simp [choice, Numbered]
  | cons n rest ih => simp [choice, Numbered, ih]

end Node

/-! ## Pieces -/

namespace Piece

variable (captures references : Nat → Nat)

def renumbered : Piece → Piece
  | .back index fold => .back (references index) fold
  | .repetition n => .repetition (n.renumbered captures references)
  | .whole n => .whole (n.renumbered captures references)
  | p => p

/-- What is said of numbers holds for a piece. -/
def Numbered (captured referred : Nat → Prop) (p : Piece) : Prop :=
  p.node.Numbered captured referred

theorem node_renumbered (p : Piece) :
    (p.renumbered captures references).node = p.node.renumbered captures references := by
  cases p <;> rfl

theorem isShareable_renumbered (p : Piece) :
    (p.renumbered captures references).isShareable = p.isShareable := by
  cases p <;> rfl

theorem members?_renumbered (p : Piece) :
    (p.renumbered captures references).members? = p.members? := by
  cases p <;> rfl

/-- What can be shared is shared after the numbers have changed, and nothing else. -/
theorem renumbered_beq {references : Nat → Nat} (hinj : Function.Injective references)
    {p : Piece} (q : Piece) (h : p.isShareable = true) :
    (p.renumbered captures references == q.renumbered captures references) = (p == q) := by
  rw [Bool.eq_iff_iff, beq_iff_eq, beq_iff_eq]
  refine ⟨fun heq => ?_, fun heq => heq ▸ rfl⟩
  cases p with
  | test t => cases q <;> cases heq; rfl
  | place letter a => cases q <;> cases heq; rfl
  | back index fold =>
    cases q with
    | back index' fold' =>
      simp only [renumbered, Piece.back.injEq] at heq
      rw [hinj heq.1, heq.2]
    | _ => cases heq
  | repetition n => cases h
  | whole n => cases h

end Piece

section Pieces

variable (captures references : Nat → Nat)

def renumberedPieces (pieces : List Piece) : List Piece :=
  pieces.map (Piece.renumbered captures references)

@[simp] theorem renumberedPieces_nil : renumberedPieces captures references [] = [] := rfl

@[simp] theorem renumberedPieces_cons (p : Piece) (pieces : List Piece) :
    renumberedPieces captures references (p :: pieces)
      = p.renumbered captures references :: renumberedPieces captures references pieces := rfl

@[simp] theorem renumberedPieces_append (pieces others : List Piece) :
    renumberedPieces captures references (pieces ++ others)
      = renumberedPieces captures references pieces
        ++ renumberedPieces captures references others :=
  List.map_append

theorem nodeOfPieces_renumbered (pieces : List Piece) :
    nodeOfPieces (renumberedPieces captures references pieces)
      = (nodeOfPieces pieces).renumbered captures references := by
  unfold nodeOfPieces renumberedPieces
  rw [← Node.ofList_renumbered, List.map_map, List.map_map]
  exact congrArg Node.ofList (List.map_congr_left fun p _ => p.node_renumbered _ _)

variable {captured referred : Nat → Prop}

theorem numbered_nodeOfPieces {pieces : List Piece} :
    (nodeOfPieces pieces).Numbered captured referred
      ↔ ∀ p ∈ pieces, p.Numbered captured referred := by
  unfold nodeOfPieces
  rw [Node.numbered_ofList, List.forall_mem_map]
  rfl

/-! ## Alternatives -/

variable {references} (hinj : Function.Injective references)
include hinj

theorem afterPiece?_renumbered (p : Piece) (pieces : List Piece) :
    afterPiece? (p.renumbered captures references) (renumberedPieces captures references pieces)
      = (afterPiece? p pieces).map (renumberedPieces captures references) := by
  cases pieces with
  | nil => rfl
  | cons q rest =>
    simp only [renumberedPieces_cons, afterPiece?, Piece.isShareable_renumbered]
    cases hp : p.isShareable with
    | false => rfl
    | true =>
      rw [Piece.renumbered_beq captures hinj q hp]
      split <;> rfl

theorem afterPieceAll?_renumbered (p : Piece) (others : List (List Piece)) :
    afterPieceAll? (p.renumbered captures references)
        (others.map (renumberedPieces captures references))
      = (afterPieceAll? p others).map (List.map (renumberedPieces captures references)) := by
  induction others with
  | nil => rfl
  | cons pieces others ih =>
    simp only [List.map_cons, afterPieceAll?, afterPiece?_renumbered captures hinj, ih]
    cases afterPiece? p pieces <;> cases afterPieceAll? p others <;> rfl

theorem sharedStart_renumbered (first : List Piece) (others : List (List Piece)) :
    sharedStart (renumberedPieces captures references first)
        (others.map (renumberedPieces captures references))
      = (renumberedPieces captures references (sharedStart first others).1,
          (sharedStart first others).2.map (renumberedPieces captures references)) := by
  induction first generalizing others with
  | nil => rfl
  | cons p rest ih =>
    rw [renumberedPieces_cons, sharedStart, sharedStart, afterPieceAll?_renumbered captures hinj]
    cases afterPieceAll? p others with
    | none => rfl
    | some left => simp only [Option.map_some, ih, renumberedPieces_cons]

omit hinj in
theorem setOf?_renumbered (pieces : List (List Piece)) :
    setOf? (pieces.map (renumberedPieces captures references)) = setOf? pieces := by
  fun_induction setOf? pieces with
  | case1 => rfl
  | case2 p others items more hothers hp ih =>
    simp only [List.map_cons, renumberedPieces_cons, renumberedPieces_nil, setOf?,
      Piece.members?_renumbered, hp, ih, hothers]
  | case3 p others hnone ih =>
    simp only [List.map_cons, renumberedPieces_cons, renumberedPieces_nil, setOf?,
      Piece.members?_renumbered, ih]
  | case4 alternatives hnil hcons =>
    match alternatives with
    | [] => exact absurd rfl hnil
    | [] :: others => rfl
    | [p] :: others => exact absurd rfl (hcons p others)
    | (p :: q :: rest) :: others => rfl

theorem piecesOfAlternatives_renumbered (fold : Fold) (first : List Piece)
    (others : List (List Piece)) :
    piecesOfAlternatives fold (renumberedPieces captures references first)
        (others.map (renumberedPieces captures references))
      = renumberedPieces captures references (piecesOfAlternatives fold first others) := by
  cases others with
  | nil => rfl
  | cons pieces others =>
    simp only [piecesOfAlternatives, List.map_cons]
    rw [← List.map_cons, sharedStart_renumbered captures hinj]
    simp only [setOf?_renumbered]
    split
    · simp [Piece.renumbered]
    · simp only [renumberedPieces_append, renumberedPieces_cons, renumberedPieces_nil,
        Piece.renumbered, ← Node.choice_renumbered, List.map_map]
      have hnode : nodeOfPieces ∘ renumberedPieces captures references
          = Node.renumbered captures references ∘ nodeOfPieces :=
        funext (nodeOfPieces_renumbered captures references)
      rw [hnode]

end Pieces

/-- `piecesOfAlternatives` keeps what all numbers in the alternatives have in common. -/
theorem numbered_piecesOfAlternatives {captured referred : Nat → Prop} (fold : Fold)
    {first : List Piece} {others : List (List Piece)}
    (h : ∀ pieces ∈ first :: others, ∀ p ∈ pieces, p.Numbered captured referred) :
    ∀ p ∈ piecesOfAlternatives fold first others, p.Numbered captured referred := by
  cases others with
  | nil => exact List.forall_mem_singleton.mp h
  | cons second others =>
    rw [← sharedStart_append, List.forall_mem_map] at h
    simp only [List.forall_mem_append] at h
    have hshared : ∀ p ∈ (sharedStart first (second :: others)).1,
        p.Numbered captured referred := by
      cases hleft : (sharedStart first (second :: others)).2 with
      | nil =>
        have hlength := congrArg List.length (sharedStart_append first (second :: others))
        simp [hleft] at hlength
      | cons left rest =>
        rw [hleft] at h
        exact (h left (.head _)).1
    simp only [piecesOfAlternatives]
    split
    · refine List.forall_mem_append.mpr ⟨hshared, List.forall_mem_singleton.mpr trivial⟩
    · refine List.forall_mem_append.mpr ⟨hshared, List.forall_mem_singleton.mpr ?_⟩
      refine Node.numbered_choice.mpr (List.forall_mem_map.mpr fun left hleft => ?_)
      exact numbered_nodeOfPieces.mpr (h left hleft).2

/-! ## Items -/

namespace Item

variable (captures references : Nat → Nat)

def renumbered : Item → Item
  | .piece p => .piece (p.renumbered captures references)
  | .group pieces => .group (renumberedPieces captures references pieces)

theorem pieces_renumbered (item : Item) :
    (item.renumbered captures references).pieces
      = renumberedPieces captures references item.pieces := by
  cases item <;> rfl

theorem flatMap_pieces_renumbered (items : List Item) :
    (items.map (renumbered captures references)).reverse.flatMap pieces
      = renumberedPieces captures references (items.reverse.flatMap pieces) := by
  unfold renumberedPieces
  rw [← List.map_reverse, List.flatMap_map, List.map_flatMap]
  exact congrArg (items.reverse.flatMap ·) (funext fun item => item.pieces_renumbered _ _)

end Item
end Regex
end QueryOptions
