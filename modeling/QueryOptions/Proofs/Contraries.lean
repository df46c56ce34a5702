import QueryOptions.Proofs.Acceptance
import QueryOptions.Proofs.Closings
import QueryOptions.Proofs.MirroredGrammar
import QueryOptions.Proofs.PatternClauses

/-!
# QueryOptions.Proofs.Contraries

A pattern and its contrary: the one is a regular expression just if the other one is, where nothing
in the pattern reaches beyond it. The pattern is read on its own and inside of the contrary, by
readers that are twins. A pattern that is read to its end closes its own groups
(`closed_of_compile`); and since the contrary is a text, too, this also says of the contrary that
everything is closed there, which is so only if the pattern closes its own groups.

* `contrary_of_compile`: the contrary of a regular expression;
* `compile_of_contrary`: a text the contrary of which is a regular expression;
* `Filters.readClause_contrary`: clauses that look for a pattern and for its contrary.
-/

namespace QueryOptions
namespace Regex

/-- What comes of a text that is scanned on its own. -/
def outcomeOf (text : String) : Except Intrusion Bool := Scan.run {} (symbolsOf text.toList)

theorem intrusion?_eq_none_iff {text : String} :
    intrusion? text = none ↔ ∃ b, outcomeOf text = .ok b := by
  unfold intrusion? outcomeOf
  cases Scan.run {} (symbolsOf text.toList) with
  | error i => exact iff_of_false nofun fun ⟨_, h⟩ => nomatch h
  | ok b => exact ⟨fun _ => ⟨b, rfl⟩, fun _ => rfl⟩

namespace Reader

variable {pattern : String} {pieces body : List Piece} {p q : Progress}

/-- With enough fuel, other fuel makes no difference. -/
theorem alternatives_fuel {fuel fuel' : Nat}
    (hfuel : 3 * (symbolsOf pattern.toList).length + 2 ≤ fuel')
    (h : (alternatives true fuel caseless).run (startOf pattern caseless) = .ok (pieces, q)) :
    ∃ q', (alternatives true fuel' caseless).run (startOf pattern caseless) = .ok (pieces, q') ∧
      Alike q.flags q.flags q q' := by
  obtain ⟨_, q', hq', rfl, -, added, -, hqq'⟩ :=
    (retraces fuel).alternatives (.refl caseless) (fun _ => ⟨rfl, rfl⟩) hfuel
      (.refl (startOf pattern caseless)) pieces q h
  refine ⟨q', hq', ?_⟩
  rw [hqq'.flags]
  exact hqq'

/-- A pattern on its own and inside of its contrary, before any of it has been read. -/
theorem twin_start (hfirst : (symbolsOf pattern.toList).head? ≠ some .dangling) :
    Twin afterUnfound caseless (outcomeOf pattern) {} (startOf pattern caseless)
      (insideUnfound pattern) where
  rest := by
    have hcontinues := continues_symbolsOf pattern.toList ['.', ')', '*', '$']
    exact hcontinues.resolve_left fun h => hfirst (h.1 ▸ rfl)
  first := hfirst
  scan := rfl
  groups := rfl
  names := rfl
  numbered := nofun
  behindFrom := rfl
  asked := rfl
  asked' := rfl
  flags := rfl
  flags' := rfl

theorem length_insideUnfound (pattern : String) :
    (symbolsOf pattern.toList).length ≤ (insideUnfound pattern).rest.length := by
  rcases continues_symbolsOf pattern.toList ['.', ')', '*', '$'] with ⟨hrest, hafter⟩ | h
  · rw [hrest, insideUnfound, hafter]
    exact Nat.succ_le_succ (Nat.zero_le _)
  · exact h.length_le

section Twins

variable (hoptions : outcomeOf pattern ≠ .error .options)
  (hnumber : outcomeOf pattern ≠ .error .number)
include hoptions hnumber

theorem mirrors_start (hfirst : (symbolsOf pattern.toList).head? ≠ some .dangling) (fuel : Nat) :
    Mirrors (outcomeOf pattern) True (alternatives true fuel caseless)
      (alternatives false fuel caseless) (startOf pattern caseless) (insideUnfound pattern)
      fun a q a' q' => ShiftTo a a' ∧ Twin afterUnfound caseless (outcomeOf pattern) {} q q' := by
  have htop : true = true → caseless = caseless := fun _ => rfl
  have hverbose : ({} : Scan).verbose = caseless.verbose := rfl
  have h := (mirrored hoptions hnumber fuel).alternatives htop hverbose (twin_start hfirst)
  exact ⟨fun a q ha _ => h.forth a q ha (.inl rfl), h.back⟩

end Twins

theorem fuelInside_ge (pattern : String) :
    3 * (symbolsOf pattern.toList).length + 2 ≤ fuelInside pattern := by
  have := length_insideUnfound pattern
  unfold fuelInside
  omega

end Reader

open Reader

/-- The options of an expression that is searched without regard to case. -/
def settledCaseless : Flags := { ignoreCase := true, unicode := true }

/-- The options make as much of the contrary impossible as of the pattern: nothing. -/
theorem check_unfoundRoot (body : List Piece) :
    (unfoundRoot body).check false = (nodeOfPieces body).check false := by
  cases body with
  | nil => rfl
  | cons p rest =>
    have hnode : notAhead (p :: rest) = .ahead true (nodeOfPieces (p :: rest)) := rfl
    simp only [unfoundRoot, hnode, Node.check]
    cases (nodeOfPieces (p :: rest)).check false <;> rfl

theorem check_of_shiftTo {pieces body : List Piece} (h : ShiftTo pieces body) :
    (nodeOfPieces body).check false = (nodeOfPieces pieces).check false := by
  rw [h.node.1, Node.check_renumbered]

section Contrary

variable {pattern : String} {r n : Regex}

/-- The contrary of a pattern that nothing reaches beyond. -/
structure IsContrary (r n : Regex) : Prop where
  pieces : ∃ pieces body, ShiftTo pieces body ∧ r.root = nodeOfPieces pieces ∧
    n.root = unfoundRoot body
  least : ∃ groups, n.least = (n.root.width groups).least

/-- The contrary of a regular expression is one, too, and the expression closes its own groups. -/
theorem contrary_of_compile (hoptions : outcomeOf pattern ≠ .error .options)
    (hnumber : outcomeOf pattern ≠ .error .number) (hr : compile pattern caseless = .ok r) :
    outcomeOf pattern = .ok true ∧
      ∃ n, compile (unfoundSource pattern) caseless = .ok n ∧ IsContrary r n := by
  obtain ⟨-, hfirst, pieces, p, hpieces, -, hp⟩ := compile_ok_iff.mp hr
  obtain ⟨p', hpieces', hpp'⟩ := alternatives_fuel (fuelInside_ge pattern) hpieces
  obtain ⟨body, q, hbody, hshift, htwin⟩ :=
    (mirrors_start hoptions hnumber hfirst (fuelInside pattern)).forth pieces p' hpieces'
      (.inl trivial)
  have hnil : p'.rest = [] := hpp'.rest.trans hp.rest
  have hclosed : outcomeOf pattern = .ok true := by
    rw [← htwin.scan, hnil]
    rfl
  obtain ⟨all, q', hall, hroot, hrest, hasked, hflags⟩ :=
    run_restOfUnfound (4 * (insideUnfound pattern).rest.length + 16) body
      (htwin.rest_of_nil hnil)
  have hread := alternatives_unfoundSource pattern
  rw [run_bind_of_ok hbody] at hread
  have hflags : q'.flags = caseless := hflags.trans htwin.flags'
  have hsettled : r.flags = settledCaseless := by
    have hsettled := hp.settled
    rw [← hpp'.flags', htwin.flags] at hsettled
    exact (Except.ok.inj hsettled).symm
  refine ⟨hclosed, ⟨unfoundSource pattern, settledCaseless, unfoundRoot body,
    ((unfoundRoot body).width (widths q')).least⟩, compile_ok_iff.mpr
    ⟨rfl, ?_, all, q', hread.trans hall,
      ⟨settledCaseless, ?_⟩, hrest, ?_, ?_, hroot.symm, rfl, ?_⟩,
    ⟨pieces, body, hshift, hp.root, rfl⟩, _, rfl⟩
  · rw [symbolsOf_unfoundSource]
    nofun
  · rw [hflags]
    rfl
  · rw [hasked, htwin.asked']
    nofun
  · rw [hflags]
    rfl
  · have hcheck := hp.check
    rw [hsettled, hp.root] at hcheck
    exact (check_unfoundRoot body).trans ((check_of_shiftTo hshift).trans hcheck)

/-- A regular expression without options and numbers closes everything. -/
theorem closed_of_compile (hoptions : outcomeOf pattern ≠ .error .options)
    (hnumber : outcomeOf pattern ≠ .error .number) (hr : compile pattern caseless = .ok r) :
    outcomeOf pattern = .ok true := (contrary_of_compile hoptions hnumber hr).1

/-- What comes of the contrary of a text that nothing reaches beyond. -/
theorem outcomeOf_contrary {b : Bool} (h : outcomeOf pattern = .ok b) :
    (outcomeOf (unfoundSource pattern) = .error .closing ∨
      ∃ b, outcomeOf (unfoundSource pattern) = .ok b) ∧
    (outcomeOf (unfoundSource pattern) = .ok true → b = true) := by
  have hstart : outcomeOf (unfoundSource pattern)
      = (Scan.within {} [false, false]).run
        (symbolsOf (pattern.toList ++ ')' :: ['.', ')', '*', '$'])) := by
    rw [outcomeOf, symbolsOf_unfoundSource]
    rfl
  have hcontinued : Continued (List.map .plain ['.', ')', '*', '$']) (symbolsOf pattern.toList)
      (symbolsOf (pattern.toList ++ ')' :: ['.', ')', '*', '$'])) :=
    continued_symbolsOf pattern.toList ['.', ')', '*', '$']
  have hafter : ∀ c ∈ ['.', ')', '*', '$'], c ∈ [')', '.', '*', '$'] := by simp
  rw [hstart]
  exact Scan.run_within hcontinued hafter (by decide) h

/-- A text that nothing reaches beyond is a regular expression if its contrary is one. -/
theorem compile_of_contrary {b : Bool} (h : outcomeOf pattern = .ok b)
    (hn : compile (unfoundSource pattern) caseless = .ok n) :
    ∃ r, compile pattern caseless = .ok r := by
  obtain ⟨hcontrary, hclosed⟩ := outcomeOf_contrary h
  have hb : b = true := by
    refine hclosed (closed_of_compile ?_ ?_ hn)
    all_goals
      intro hintrusion
      rw [hintrusion] at hcontrary
      simp at hcontrary
  have hclosed : outcomeOf pattern = .ok true := hb ▸ h
  have hoptions : outcomeOf pattern ≠ .error .options := by
    rw [hclosed]
    nofun
  have hnumber : outcomeOf pattern ≠ .error .number := by
    rw [hclosed]
    nofun
  have hfirst : (symbolsOf pattern.toList).head? ≠ some .dangling := by
    intro hfirst
    obtain ⟨rest, hrest⟩ := List.head?_eq_some_iff.mp hfirst
    rw [outcomeOf, hrest] at hclosed
    exact Scan.run_dangling {} rest hclosed
  obtain ⟨body, q, all, q', hbody, hrest, hq'⟩ := inside_of_compile hn
  obtain ⟨pieces, p, hpieces, hshift, htwin⟩ :=
    (mirrors_start hoptions hnumber hfirst (fuelInside pattern)).back hclosed body q hbody
  obtain ⟨_, q₁, hclosing, -⟩ := run_bind_eq_ok.mp hrest
  obtain ⟨after, hafter⟩ := rest_of_closing hclosing
  have hnil : p.rest = [] := by
    cases hp : p.rest with
    | nil => rfl
    | cons s rest =>
      -- The text would close a group that it has not opened.
      obtain ⟨rest', hrest'⟩ := htwin.head_eq hp
      rw [hafter] at hrest'
      cases hrest'
      have hscan := htwin.scan
      rw [hp, hclosed] at hscan
      cases hscan
  have hfuel : 3 * (symbolsOf pattern.toList).length + 2
      ≤ 4 * (symbolsOf pattern.toList).length + 4 := by omega
  obtain ⟨p', hpieces', hpp'⟩ := alternatives_fuel hfuel hpieces
  obtain ⟨hroot, hflags⟩ := root_of_inside hrest hq' (htwin.rest_of_nil hnil)
  have hsettled : n.flags = settledCaseless := by
    have hsettled := hq'.settled
    rw [hflags, htwin.flags'] at hsettled
    exact (Except.ok.inj hsettled).symm
  have hflags' : p'.flags = caseless := hpp'.flags'.trans htwin.flags
  refine ⟨⟨pattern, settledCaseless, nodeOfPieces pieces,
    ((nodeOfPieces pieces).width (widths p')).least⟩, compile_ok_iff.mpr
    ⟨rfl, hfirst, pieces, p', hpieces',
      ⟨settledCaseless, ?_⟩, hpp'.rest.trans hnil, ?_, ?_, rfl, rfl, ?_⟩⟩
  · rw [hflags']
    rfl
  · have hasked := hpp'.asked
    rw [htwin.asked, List.map_nil, List.map_eq_nil_iff] at hasked
    rw [hasked]
    nofun
  · rw [hflags']
    rfl
  · have hcheck := hq'.check
    rw [hsettled, hroot] at hcheck
    exact (check_of_shiftTo hshift).symm.trans ((check_unfoundRoot body).symm.trans hcheck)

/-- A text that nothing reaches beyond is a regular expression just if its contrary is one. -/
theorem compile_contrary_iff (h : intrusion? pattern = none) :
    (∃ r, compile pattern caseless = .ok r) ↔
      ∃ n, compile (unfoundSource pattern) caseless = .ok n := by
  obtain ⟨b, hb⟩ := intrusion?_eq_none_iff.mp h
  constructor
  · rintro ⟨r, hr⟩
    obtain ⟨-, n, hn, -⟩ := contrary_of_compile (by rw [hb]; nofun) (by rw [hb]; nofun) hr
    exact ⟨n, hn⟩
  · rintro ⟨n, hn⟩
    exact compile_of_contrary hb hn

end Contrary
end Regex

namespace Filters

/-- Clauses that look for a pattern and for its contrary are read alike, if nothing in the pattern
reaches beyond it. -/
theorem readClause_contrary {library : Library} {operators : Value} {s : Filters}
    (hs : new library operators = .ok s) {key : Value} {pattern : String}
    (hpattern : Regex.intrusion? pattern = none) {clause contrary : Dict}
    (hclause : IsClause key .found (.text pattern) clause)
    (hcontrary : IsClause key .unfound (.text pattern) contrary) :
    (∃ e, readClause s.settings (.dict clause) = .ok e) ↔
      ∃ e, readClause s.settings (.dict contrary) = .ok e := by
  have hbuiltIn := Query.shadowed_of_newFilters hs
  have hread := readClause_ok_iff hbuiltIn rfl hclause
  have hread' := readClause_ok_iff hbuiltIn rfl hcontrary
  rw [hread, hread']
  exact and_congr_right fun _ => Regex.compile_contrary_iff hpattern

def patternClause (o : Operator) (pattern : String) : Dict :=
  [(.text "key", .text "name"), (.text "operator", .text o.token), (.text "value", .text pattern)]

theorem patternClause_isClause (o : Operator) (pattern : String) :
    IsClause (.text "name") o (.text pattern) (patternClause o pattern) := by
  cases o <;> exact ⟨rfl, rfl, rfl⟩

theorem exists_ok_iff {ε α : Type} {x : Except ε α} :
    (∃ e, x = .ok e) ↔ x.toOption.isSome = true := by
  cases x with
  | error f => exact iff_of_false nofun nofun
  | ok e => exact iff_of_true ⟨e, rfl⟩ rfl

/-- Names go with the groups, wherever these are put. -/
theorem readClause_contrary_names :
    new (fun _ _ _ => .error .mismatch) .null = .ok plain ∧
      Regex.intrusion? "(?P<x>a)(?P=x)|[)]" = none ∧
      ((∃ e, readClause plain.settings
          (.dict (patternClause .found "(?P<x>a)(?P=x)|[)]")) = .ok e) ↔
        ∃ e, readClause plain.settings (.dict (patternClause .unfound "(?P<x>a)(?P=x)|[)]"))
          = .ok e) ∧
      ∃ e, readClause plain.settings (.dict (patternClause .unfound "(?P<x>a)(?P=x)|[)]"))
        = .ok e := by
  have hnew : new (fun _ _ _ => .error .mismatch) .null = .ok plain := rfl
  have hnone : Regex.intrusion? "(?P<x>a)(?P=x)|[)]" = none := by decide +kernel
  refine ⟨hnew, hnone, readClause_contrary hnew hnone (patternClause_isClause .found _)
    (patternClause_isClause .unfound _), exists_ok_iff.mpr ?_⟩
  decide +kernel

/-- A parenthesis may close the group that a pattern is put into, options for the whole expression
are refused there, and numbers are those of other groups. -/
theorem intrusions_break_contrary :
    ((¬∃ e, readClause plain.settings (.dict (patternClause .found "a)|(b")) = .ok e) ∧
      ∃ e, readClause plain.settings (.dict (patternClause .unfound "a)|(b")) = .ok e) ∧
    ((∃ e, readClause plain.settings (.dict (patternClause .found "(?i)a")) = .ok e) ∧
      ¬∃ e, readClause plain.settings (.dict (patternClause .unfound "(?i)a")) = .ok e) ∧
    ((∃ e, readClause plain.settings (.dict (patternClause .found "(a)\\1")) = .ok e) ∧
      ¬∃ e, readClause plain.settings (.dict (patternClause .unfound "(a)\\1")) = .ok e) ∧
    ((¬∃ e, readClause plain.settings (.dict (patternClause .found "(a)\\2")) = .ok e) ∧
      ∃ e, readClause plain.settings (.dict (patternClause .unfound "(a)\\2")) = .ok e) := by
  simp only [exists_ok_iff]
  decide +kernel

end Filters
end QueryOptions
