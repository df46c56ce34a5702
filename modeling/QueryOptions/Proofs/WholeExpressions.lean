import QueryOptions.Proofs.ParallelReaders

/-!
# QueryOptions.Proofs.WholeExpressions

What it takes for a text to be a regular expression: its alternatives are read up to its end, the
groups that were asked about by number are there, and the options go together
(`wholeExpression_ok_iff`, `compile_ok_iff`).
-/

namespace QueryOptions
namespace Regex
namespace Reader

variable {α : Type} {p p' q q' : Progress}

theorem checkDangling_ok_iff {u : Unit} :
    checkDangling.run p = .ok (u, q) ↔ p.rest.head? ≠ some .dangling ∧ q = p := by
  unfold checkDangling
  simp only [StateT.run_bind, StateT.run_get, pure_bind]
  split
  · rename_i rest hrest
    rw [hrest]
    exact iff_of_false (fails_refuse _ _ p _) fun h => h.1 rfl
  · rename_i hother
    have hhead : p.rest.head? ≠ some .dangling := by
      intro h
      obtain ⟨rest, hrest⟩ := List.head?_eq_some_iff.mp h
      exact hother rest hrest
    constructor
    · rintro ⟨⟩
      exact ⟨hhead, rfl⟩
    · rintro ⟨-, rfl⟩
      rfl

theorem liftExcept_ok_iff {e : Except Problem α} {a : α} :
    (liftM e : Reader α).run p = .ok (a, q) ↔ e = .ok a ∧ q = p := by
  cases e with
  | error problem => exact iff_of_false nofun fun h => nomatch h.1
  | ok b =>
    constructor
    · rintro ⟨⟩
      exact ⟨rfl, rfl⟩
    · rintro ⟨⟨⟩, rfl⟩
      rfl

theorem wholeExpression_ok_iff {root : Node} {least : Nat} :
    wholeExpression.run p = .ok ((root, least), q) ↔
      p.rest.head? ≠ some .dangling ∧
      ∃ pieces, (alternatives true (4 * p.rest.length + 4) p.flags).run p = .ok (pieces, q) ∧
        (∃ f, (p.flags.union q.flags).settled = .ok f) ∧ q.rest = [] ∧
        (∀ a ∈ q.asked, a.1 ≤ q.groups.length) ∧ root = nodeOfPieces pieces ∧
        least = (root.width (widths q)).least := by
  have hasked : (∀ a ∈ q.asked, a.1 ≤ q.groups.length) ↔
      q.asked.find? (fun a => q.groups.length < a.1) = none := by
    simp [List.find?_eq_none]
  rw [hasked]
  unfold wholeExpression
  constructor
  · intro h
    obtain ⟨_, p₁, hdangling, h₁⟩ := run_bind_eq_ok.mp h
    obtain ⟨hfirst, rfl⟩ := checkDangling_ok_iff.mp hdangling
    obtain ⟨_, _, ⟨⟩, h₂⟩ := run_bind_eq_ok.mp h₁
    obtain ⟨pieces, p₂, hpieces, h₃⟩ := run_bind_eq_ok.mp h₂
    obtain ⟨_, _, ⟨⟩, h₄⟩ := run_bind_eq_ok.mp h₃
    obtain ⟨f, p₃, hsettled, h₅⟩ := run_bind_eq_ok.mp h₄
    obtain ⟨hf, rfl⟩ := liftExcept_ok_iff.mp hsettled
    obtain ⟨_, _, ⟨⟩, h₆⟩ := run_bind_eq_ok.mp h₅
    split at h₆
    · exact absurd h₆ ((fails_refuse _ _).bind _ _ _)
    rename_i hnone
    obtain ⟨_, _, ⟨⟩, h₇⟩ := run_bind_eq_ok.mp h₆
    obtain ⟨_, _, ⟨⟩, h₈⟩ := run_bind_eq_ok.mp h₇
    split at h₈
    · exact absurd h₈ (fails_refuseAt _ _ _ _)
    rename_i hfind
    cases h₈
    exact ⟨hfirst, pieces, hpieces, ⟨f, hf⟩, by simpa using hnone, hfind, rfl, rfl⟩
  · rintro ⟨hfirst, pieces, hpieces, ⟨f, hf⟩, hrest, hfind, rfl, rfl⟩
    refine run_bind_eq_ok.mpr ⟨(), p, checkDangling_ok_iff.mpr ⟨hfirst, rfl⟩, ?_⟩
    refine run_bind_eq_ok.mpr ⟨p, p, rfl, run_bind_eq_ok.mpr ⟨pieces, q, hpieces, ?_⟩⟩
    refine run_bind_eq_ok.mpr ⟨q, q, rfl, ?_⟩
    refine run_bind_eq_ok.mpr ⟨f, q, liftExcept_ok_iff.mpr ⟨hf, rfl⟩, ?_⟩
    refine run_bind_eq_ok.mpr ⟨q.rest.head?, q, rfl, ?_⟩
    rw [hrest]
    refine run_bind_eq_ok.mpr ⟨q.groups.length, q, rfl, run_bind_eq_ok.mpr ⟨q, q, rfl, ?_⟩⟩
    rw [hfind]
    rfl

/-- The pieces of a text that has been read to its end are those of a regular expression. -/
structure Finished (pieces : List Piece) (q : Progress) (r : Regex) : Prop where
  rest : q.rest = []
  asked : ∀ a ∈ q.asked, a.1 ≤ q.groups.length
  settled : q.flags.settled = .ok r.flags
  root : r.root = nodeOfPieces pieces
  least : r.least = (r.root.width (widths q)).least
  check : r.root.check r.flags.template = .ok ()

end Reader

open Reader

/-- A reader that is about to read a text under some options. -/
def startOf (source : String) (flags : Flags) : Progress :=
  { rest := symbolsOf source.toList, position := 0, flags }

theorem rest_startOf (source : String) (flags : Flags) :
    (startOf source flags).rest = symbolsOf source.toList := rfl

theorem compile_ok_iff {source : String} {flags : Flags} {r : Regex} :
    compile source flags = .ok r ↔
      r.source = source ∧ (symbolsOf source.toList).head? ≠ some .dangling ∧
      ∃ pieces q,
        (alternatives true (4 * (symbolsOf source.toList).length + 4) flags).run
          (startOf source flags) = .ok (pieces, q) ∧
        (∃ f, (flags.union q.flags).settled = .ok f) ∧ Finished pieces q r := by
  unfold compile
  constructor
  · intro h
    split at h
    · cases h
    rename_i root least q hrun
    obtain ⟨hfirst, pieces, hpieces, hunion, hrest, hasked, rfl, rfl⟩ :=
      wholeExpression_ok_iff.mp hrun
    split at h
    · cases h
    rename_i settled hsettled
    split at h
    · cases h
    rename_i hcheck
    cases h
    exact ⟨rfl, hfirst, pieces, q, hpieces, hunion, hrest, hasked, hsettled, rfl, rfl, hcheck⟩
  · rintro ⟨rfl, hfirst, pieces, q, hpieces, hunion, hq⟩
    have hrun : wholeExpression.run (startOf r.source flags) = .ok ((r.root, r.least), q) :=
      wholeExpression_ok_iff.mpr
        ⟨hfirst, pieces, hpieces, hunion, hq.rest, hq.asked, hq.root, hq.least⟩
    unfold startOf at hrun
    rw [hrun]
    dsimp only
    rw [hq.settled]
    dsimp only
    rw [hq.check]

end Regex
end QueryOptions
