import QueryOptions.Proofs.Rereading
import QueryOptions.Proofs.WholeExpressions
import QueryOptions.Section.Clause

/-!
# QueryOptions.Proofs.NegatedPatterns

The expression that a negated pattern is written into, read symbol by symbol. Reading it is reading
what is before the pattern, then the pattern inside of a group, and then what is after it
(`alternatives_unfoundSource`). What it becomes is known up to the pattern (`unfoundRoot`). The
pattern itself is read on its own and inside of the expression, and the two readings are compared as
`Rereads` says.

* `run_next_then`, `run_accept_then`, `run_sequence_piece`, `run_sequence_star`: what is read next,
  when the next symbols are known;
* `run_group_ahead`, `run_group_capture`: groups up to what is inside of them;
* `run_unfound`, `run_restOfUnfound`: what is around the pattern;
* `compile_unfoundSource`: if a pattern and its contrary are both regular expressions, the one is
  inside of the other.
-/

namespace QueryOptions
namespace Regex

/-- A look-ahead for what the given pieces must not match. -/
def notAhead (body : List Piece) : Node :=
  if body.isEmpty then .never else .ahead true (nodeOfPieces body)

/-- The expression that finds something only if nothing up to there meets the given pieces. -/
def unfoundRoot (body : List Piece) : Node :=
  .seq (.anchor .textStart)
    (.seq
      (.repeated .greedy 0 none (.capture 1 (.seq (notAhead body) (.one .notLineEnd))))
      (.anchor .beforeFinal))

/-- The place after the next symbol. -/
def Progress.past (p : Progress) (s : Symbol) (rest : List Symbol) : Progress :=
  { p with rest, position := p.position + s.size }

namespace Reader

variable {α β : Type} {p q : Progress} {s : Symbol} {c : Char} {rest : List Symbol}
  {fuel : Nat} {top : Bool} {scope : Flags} {items : List Item}

theorem run_bind_congr {m m' : Reader α} {p' : Progress} (h : m.run p = m'.run p')
    (f : α → Reader β) : (m >>= f).run p = (m' >>= f).run p' := by
  rw [StateT.run_bind, StateT.run_bind, h]

theorem run_bind_of_ok {m : Reader α} {f : α → Reader β} {a : α} (h : m.run p = .ok (a, q)) :
    (m >>= f).run p = (f a).run q := by
  rw [StateT.run_bind, h]
  rfl

theorem run_next_then (f : Option Symbol → Reader α) (hp : p.rest = s :: rest)
    (hd : rest.head? ≠ some .dangling) :
    (next >>= f).run p = (f (some s)).run (p.past s rest) := by
  rw [StateT.run_bind, next_run_eq hp hd]
  rfl

theorem run_accept_then (f : Bool → Reader α) (hp : p.rest = .plain c :: rest)
    (hd : rest.head? ≠ some .dangling) :
    (accept c >>= f).run p = (f true).run (p.past (.plain c) rest) := by
  rw [run_bind_congr (accept_run_plain hp) f, bind_assoc, run_next_then _ hp hd, pure_bind]

theorem run_accept_other (f : Bool → Reader α) (h : ∀ rest, p.rest ≠ .plain c :: rest) :
    (accept c >>= f).run p = (f false).run p := by
  rw [StateT.run_bind, accept_run_other h]
  rfl

/-- Options under which a pattern is searched without regard to case. -/
abbrev caseless : Flags := { ignoreCase := true }

theorem run_sequence_character (hbar : c ≠ '|') (hclose : c ≠ ')')
    (hp : p.rest = .plain c :: rest) :
    (sequence top (fuel + 1) scope items).run p = (fromCharacter top fuel scope items c).run p := by
  have hpeek : peek.run p = .ok (some (.plain c), p) := by
    unfold peek
    simp only [StateT.run_bind, StateT.run_get, pure_bind, hp, List.head?_cons]
    rfl
  rw [sequence_eq, run_bind_of_ok hpeek]
  exact congrArg (fun m : Reader (List Piece) => m.run p) (if_neg (not_or.mpr ⟨hbar, hclose⟩))

theorem run_sequence_piece {piece : Piece}
    (hc : (c, piece) ∈ [('^', .place '^' .textStart), ('$', .place '$' .beforeFinal),
      ('.', .test .notLineEnd)])
    (hp : p.rest = .plain c :: rest) (hd : rest.head? ≠ some .dangling) :
    (sequence top (fuel + 1) caseless items).run p
      = (sequence top fuel caseless (.piece piece :: items)).run (p.past (.plain c) rest) := by
  have hread : (sequence top (fuel + 1) caseless items).run p
      = (next >>= fun _ => sequence top fuel caseless (.piece piece :: items)).run p := by
    simp only [List.mem_cons, List.not_mem_nil, or_false, Prod.mk.injEq] at hc
    rcases hc with ⟨rfl, rfl⟩ | ⟨rfl, rfl⟩ | ⟨rfl, rfl⟩
    all_goals exact run_sequence_character (by decide) (by decide) hp
  rw [hread, run_next_then _ hp hd]

theorem run_sequence_group (hp : p.rest = .plain '(' :: rest) (hd : rest.head? ≠ some .dangling) :
    (sequence top (fuel + 1) caseless items).run p
      = (group top fuel caseless p.position items.isEmpty
          >>= afterGroup top fuel caseless items).run
        (p.past (.plain '(') rest) := by
  have hread : (sequence top (fuel + 1) caseless items).run p
      = (next >>= fun _ => group top fuel caseless p.position items.isEmpty >>=
          afterGroup top fuel caseless items).run p :=
    run_sequence_character (by decide) (by decide) hp
  rw [hread, run_next_then _ hp hd]

theorem run_sequence_star {node : Node} (hp : p.rest = .plain '*' :: s :: rest)
    (hs : s ≠ .plain '?') (hs' : s ≠ .plain '+') (hd : s ≠ .dangling) :
    (sequence top (fuel + 1) caseless (.piece (.whole node) :: items)).run p
      = (sequence top fuel caseless
        (.piece (.repetition (.repeated .greedy 0 none node)) :: items)).run
          (p.past (.plain '*') (s :: rest)) := by
  let q := p.past (.plain '*') (s :: rest)
  have hread : (sequence top (fuel + 1) caseless (.piece (.whole node) :: items)).run p
      = (next >>= fun _ =>
          afterBounds top fuel caseless (.piece (.whole node) :: items) p.position '*'
          (some (0, none))).run p :=
    run_sequence_character (by decide) (by decide) hp
  have hother {c : Char} (hc : s ≠ .plain c) (tail : List Symbol) : q.rest ≠ .plain c :: tail :=
    fun h => hc (List.cons.inj h).1
  have happetite : appetite.run q = .ok (.greedy, q) := by
    unfold appetite
    rw [run_accept_other _ (hother hs)]
    simp only [Bool.false_eq_true, if_false]
    rw [run_accept_other _ (hother hs')]
    rfl
  have hrepeated : (repetition p.position 0 none (.piece (.whole node) :: items)).run q
      = .ok (.piece (.repetition (.repeated .greedy 0 none node)) :: items, q) :=
    run_bind_of_ok happetite
  rw [hread, run_next_then _ hp fun h => hd (Option.some.inj h)]
  exact run_bind_of_ok hrepeated

/-! ## Groups around a pattern -/

/-- `group` at `(?!` reads alternatives and a closing parenthesis, and makes a negated look-ahead.
-/
theorem run_group_ahead {start : Nat} {noItems : Bool}
    (hp : p.rest = .plain '?' :: .plain '!' :: rest) (hd : rest.head? ≠ some .dangling) :
    (group top (fuel + 1) scope start noItems).run p
      = (do
          let body ← alternatives false fuel scope
          closing start
          return some (lookAround true body (.ahead true (nodeOfPieces body)))).run
        ((p.past (.plain '?') (.plain '!' :: rest)).past (.plain '!') rest) := by
  have hopening : (opening scope start (top && noItems)).run p
      = .ok (.ahead true, (p.past (.plain '?') (.plain '!' :: rest)).past (.plain '!') rest) := by
    unfold opening
    rw [run_accept_then _ hp (by simp)]
    simp only [Bool.not_true, Bool.false_eq_true, if_false]
    rw [run_next_then _ rfl hd]
    rfl
  unfold group
  rw [StateT.run_bind, hopening]
  rfl

/-- `group` at a bare parenthesis opens the next group, and leaves it after its alternatives. -/
theorem run_group_capture {start : Nat} {noItems : Bool}
    (hp : ∀ rest, p.rest ≠ .plain '?' :: rest) :
    (group top (fuel + 1) scope start noItems).run p
      = (do
          let pieces ← alternatives false fuel scope
          closing start
          leave (p.groups.length + 1) (nodeOfPieces pieces)
          return some (Item.piece (.whole
            (.capture (p.groups.length + 1) (nodeOfPieces pieces))))).run
        { p with groups := p.groups ++ [none] } := by
  have hopening : (opening scope start (top && noItems)).run p = .ok (.capture none, p) := by
    unfold opening
    rw [run_accept_other _ hp]
    rfl
  unfold group
  rw [StateT.run_bind, hopening]
  rfl

/-- What is read after a pattern that must not be found. -/
def restOfUnfound (fuel : Nat) (body : List Piece) : Reader (List Piece) := do
  closing 2
  let each ← sequence false (fuel + 1) caseless
    [lookAround true body (.ahead true (nodeOfPieces body))]
  let others ← moreAlternatives (fuel + 2) caseless
  let inside := nodeOfPieces (piecesOfAlternatives caseless.fold each others)
  closing 1
  leave 1 inside
  let all ← sequence true (fuel + 4) caseless
    [.piece (.whole (.capture 1 inside)), .piece (.place '^' .textStart)]
  let options := (← get).flags
  return piecesOfAlternatives options.fold all (← moreAlternatives (fuel + 6) options)

theorem alternatives_false (fuel : Nat) (scope : Flags) :
    alternatives false (fuel + 1) scope = do
      let first ← sequence false fuel scope []
      let others ← moreAlternatives fuel scope
      return piecesOfAlternatives scope.fold first others := by
  conv_lhs => unfold alternatives
  simp only [Bool.false_eq_true, if_false, pure_bind]

theorem run_unfound (flags : Flags) (hd : rest.head? ≠ some .dangling) :
    (alternatives true (fuel + 7) caseless).run
        { rest := .plain '^' :: .plain '(' :: .plain '(' :: .plain '?' :: .plain '!' :: rest,
          position := 0, flags }
      = (alternatives false fuel caseless >>= restOfUnfound fuel).run
        { rest, position := 5, groups := [none], flags } := by
  let start (rest : List Symbol) (position : Nat) (groups : List (Option Width)) : Progress :=
    { rest, position, groups, flags }
  have hopen : (sequence true (fuel + 6) caseless []).run (start (.plain '^' :: .plain '(' ::
      .plain '(' :: .plain '?' :: .plain '!' :: rest) 0 []) = _ :=
    (run_sequence_piece (.head _) rfl (by simp)).trans (run_sequence_group rfl (by simp))
  have hloop : (group true (fuel + 4) caseless 1 false).run
      (start (.plain '(' :: .plain '?' :: .plain '!' :: rest) 2 []) = _ := run_group_capture nofun
  have hinside : (sequence false (fuel + 2) caseless []).run
      (start (.plain '(' :: .plain '?' :: .plain '!' :: rest) 2 [none]) = _ :=
    run_sequence_group rfl (by simp)
  have hlook : (group false (fuel + 1) caseless 2 true).run
      (start (.plain '?' :: .plain '!' :: rest) 3 [none]) = _ := run_group_ahead rfl hd
  conv_lhs => unfold alternatives
  refine (run_bind_congr hopen _).trans ?_
  rw [bind_assoc]
  refine (run_bind_congr hloop _).trans ?_
  rw [bind_assoc, alternatives_false, bind_assoc]
  refine (run_bind_congr hinside _).trans ?_
  rw [bind_assoc]
  refine (run_bind_congr hlook _).trans ?_
  rw [bind_assoc]
  refine congrArg (fun f => (alternatives false fuel caseless >>= f).run _) (funext fun body => ?_)
  simp only [restOfUnfound, bind_assoc, pure_bind]
  rfl

/-! ## After the pattern -/

theorem run_closing {start : Nat} (hp : p.rest = .plain ')' :: rest)
    (hd : rest.head? ≠ some .dangling) :
    (closing start).run p = .ok ((), p.past (.plain ')') rest) := by
  unfold closing
  rw [run_accept_then _ hp hd]
  rfl

/-- A closing parenthesis has to be there. -/
theorem rest_of_closing {start : Nat} {u : Unit} (h : (closing start).run p = .ok (u, q)) :
    ∃ after, p.rest = .plain ')' :: after := by
  by_contra hother
  unfold closing at h
  rw [run_accept_other _ fun rest hrest => hother ⟨rest, hrest⟩] at h
  exact fails_refuseAt _ _ _ _ h

def afterUnfound : List Symbol :=
  [.plain '.', .plain ')', .plain '*', .plain '$']

theorem run_restOfUnfound (fuel : Nat) (body : List Piece)
    (hp : p.rest = .plain ')' :: afterUnfound) :
    ∃ pieces q, (restOfUnfound (fuel + 1) body).run p = .ok (pieces, q) ∧
      nodeOfPieces pieces = unfoundRoot body ∧ q.rest = [] ∧ q.asked = p.asked ∧
      q.flags = p.flags := by
  let p₁ := p.past (.plain ')') afterUnfound
  let p₂ := p₁.past (.plain '.') [.plain ')', .plain '*', .plain '$']
  let p₃ := p₂.past (.plain ')') [.plain '*', .plain '$']
  let look := lookAround true body (.ahead true (nodeOfPieces body))
  let each : List Piece := [.piece (.test .notLineEnd), look].reverse.flatMap Item.pieces
  let inside := nodeOfPieces each
  let p₄ : Progress := { p₃ with groups := p₃.groups.set 0 (some (inside.width (widths p₃))) }
  let all : List Piece := [.place '^' .textStart,
    .repetition (.repeated .greedy 0 none (.capture 1 inside)), .place '$' .beforeFinal]
  let p₅ := p₄.past (.plain '*') [.plain '$']
  let p₆ := p₅.past (.plain '$') []
  have hclosed : (closing 2).run p = .ok ((), p₁) := run_closing hp (by simp [afterUnfound])
  have heach : (sequence false (fuel + 2) caseless [look]).run p₁ = .ok (each, p₂) :=
    (run_sequence_piece (.tail _ (.tail _ (.head _))) rfl (by simp)).trans
      (run_sequence_end (.inr ⟨_, rfl⟩))
  have hsingle : (moreAlternatives (fuel + 3) caseless).run p₂ = .ok ([], p₂) :=
    run_moreAlternatives_end (.inr ⟨_, rfl⟩)
  have hclosed' : (closing 1).run p₂ = .ok ((), p₃) := run_closing rfl (by simp)
  have hleave : (leave 1 inside).run p₃ = .ok ((), p₄) := rfl
  have hall : (sequence true (fuel + 5) caseless
      [.piece (.whole (.capture 1 inside)), .piece (.place '^' .textStart)]).run p₄
        = .ok (all, p₆) :=
    ((run_sequence_star rfl (by simp) (by simp) (by simp)).trans
      (run_sequence_piece (.tail _ (.head _)) rfl (by simp))).trans (run_sequence_end (.inl rfl))
  have hlast : (moreAlternatives (fuel + 7) p₆.flags).run p₆ = .ok ([], p₆) :=
    run_moreAlternatives_end (.inl rfl)
  refine ⟨all, p₆, ?_, ?_, rfl, rfl, rfl⟩
  · refine (run_bind_of_ok hclosed).trans ((run_bind_of_ok heach).trans ?_)
    refine (run_bind_of_ok hsingle).trans ((run_bind_of_ok hclosed').trans ?_)
    refine (run_bind_of_ok hleave).trans ((run_bind_of_ok hall).trans ?_)
    have hget : (get : Reader Progress).run p₆ = .ok (p₆, p₆) := rfl
    exact (run_bind_of_ok hget).trans (run_bind_of_ok hlast)
  · cases body <;> rfl

end Reader

/-! ## The two expressions -/

theorem symbolsOf_unfoundSource (pattern : String) :
    symbolsOf (unfoundSource pattern).toList
      = .plain '^' :: .plain '(' :: .plain '(' :: .plain '?' :: .plain '!' ::
        symbolsOf (pattern.toList ++ ')' :: ['.', ')', '*', '$']) := by
  have hsource : (unfoundSource pattern).toList
      = '^' :: '(' :: '(' :: '?' :: '!' :: (pattern.toList ++ [')', '.', ')', '*', '$']) := by
    unfold unfoundSource
    rw [String.toList_append, String.toList_append]
    rfl
  rw [hsource]
  iterate 5 rw [Reader.symbolsOf_plain (by decide)]

namespace Reader

/-- Where a pattern begins inside of its contrary. -/
def insideUnfound (pattern : String) : Progress :=
  { rest := symbolsOf (pattern.toList ++ ')' :: ['.', ')', '*', '$']), position := 5,
    groups := [none], flags := caseless }

def fuelInside (pattern : String) : Nat := 4 * (insideUnfound pattern).rest.length + 17

theorem head_insideUnfound (pattern : String) :
    (insideUnfound pattern).rest.head? ≠ some .dangling := by
  unfold insideUnfound
  cases pattern.toList with
  | nil =>
    rw [List.nil_append, symbolsOf_plain (by decide)]
    nofun
  | cons c text =>
    rw [List.cons_append]
    by_cases hc : c = Text.backslash
    · obtain ⟨d, after, hafter⟩ :=
        List.exists_cons_of_ne_nil (l := text ++ ')' :: ['.', ')', '*', '$']) (by simp)
      rw [hafter, hc, symbolsOf_escaped]
      nofun
    · rw [symbolsOf_plain hc]
      nofun

theorem alternatives_unfoundSource (pattern : String) :
    (alternatives true (4 * (symbolsOf (unfoundSource pattern).toList).length + 4) caseless).run
        (startOf (unfoundSource pattern) caseless)
      = (alternatives false (fuelInside pattern) caseless
          >>= restOfUnfound (fuelInside pattern)).run
        (insideUnfound pattern) := by
  have hlength : 4 * (symbolsOf (unfoundSource pattern).toList).length + 4
      = fuelInside pattern + 7 := by
    simp only [symbolsOf_unfoundSource, fuelInside, insideUnfound, List.length_cons]
    omega
  rw [hlength, startOf, symbolsOf_unfoundSource]
  exact run_unfound caseless (head_insideUnfound pattern)

/-- The contrary of a pattern is read with the pattern inside of it. -/
theorem inside_of_compile {pattern : String} {n : Regex}
    (hn : compile (unfoundSource pattern) caseless = .ok n) :
    ∃ body p pieces q,
      (alternatives false (fuelInside pattern) caseless).run (insideUnfound pattern)
        = .ok (body, p) ∧
      (restOfUnfound (fuelInside pattern) body).run p = .ok (pieces, q) ∧ Finished pieces q n := by
  obtain ⟨-, -, pieces, q, hpieces, -, hq⟩ := compile_ok_iff.mp hn
  rw [alternatives_unfoundSource] at hpieces
  obtain ⟨body, p, hbody, hrest⟩ := run_bind_eq_ok.mp hpieces
  exact ⟨body, p, pieces, q, hbody, hrest, hq⟩

/-- If the pattern ends with its parenthesis, it is known what it is inside of. -/
theorem root_of_inside {pattern : String} {n : Regex} {body pieces : List Piece} {p q : Progress}
    (hrest : (restOfUnfound (fuelInside pattern) body).run p = .ok (pieces, q))
    (hq : Finished pieces q n) (hp : p.rest = .plain ')' :: afterUnfound) :
    n.root = unfoundRoot body ∧ q.flags = p.flags := by
  obtain ⟨pieces', q', hrest', hroot, -, -, hflags⟩ :=
    run_restOfUnfound (4 * (insideUnfound pattern).rest.length + 16) body hp
  cases hrest.symm.trans hrest'
  exact ⟨hq.root.trans hroot, hflags⟩

end Reader

/-- A pattern and its contrary, if both are regular expressions: the pattern is inside of the
contrary. -/
theorem compile_unfoundSource {pattern : String} {r n : Regex}
    (hr : compile pattern Reader.caseless = .ok r)
    (hn : compile (unfoundSource pattern) Reader.caseless = .ok n) :
    ∃ pieces body, EnclosedAs pieces body ∧ r.root = nodeOfPieces pieces ∧
      n.root = unfoundRoot body ∧
      (∃ groups, r.least = (r.root.width groups).least) ∧
      ∃ groups, n.least = (n.root.width groups).least := by
  obtain ⟨-, hfirst, pieces, q, hpieces, -, hq⟩ := compile_ok_iff.mp hr
  obtain ⟨body, p, _, q', hbody, hrest, hq'⟩ := Reader.inside_of_compile hn
  have hdangling : symbolsOf pattern.toList ≠ [.dangling] := fun h => hfirst (h ▸ rfl)
  have habreast : Reader.Abreast Reader.afterUnfound Reader.caseless
      (startOf pattern Reader.caseless) (Reader.insideUnfound pattern) := by
    refine ⟨?_, rfl, rfl⟩
    have hsymbols := Reader.continues_symbolsOf pattern.toList ['.', ')', '*', '$']
    exact hsymbols.resolve_left fun h => hdangling h.1
  obtain ⟨hbodies, hsame⟩ | ⟨hverbose, -⟩ :=
    (Reader.rereads rfl _).alternatives (fun _ => rfl) habreast _ _ _ _ hpieces hbody
  · have hcontrary := (Reader.root_of_inside hrest hq' (hsame.rest_of_nil hq.rest)).1
    exact ⟨pieces, body, hbodies, hq.root, hcontrary, ⟨_, hq.least⟩, _, hq'.least⟩
  · cases hverbose

end Regex
end QueryOptions
