import QueryOptions.Proofs.Beginnings
import QueryOptions.Proofs.NegatedPatterns
import QueryOptions.Proofs.WholeExpressions

/-!
# QueryOptions.Proofs.GivenOptions

Options that are given to an expression, and options that its text brings itself.

* `compile_congr`, `compile_of_brings`: an expression with another text or other options given;
* `compile_alphabet`: the option for the full alphabet need not be given;
* `compile_brought`: options that a text brings may as well be given;
* `compile_caseless_iff`: an option that is given may as well stand in front of the text.
-/

namespace QueryOptions
namespace Regex
namespace Reader

variable {base base' : Flags} {q q' : Progress}

/-! ## Two texts with the same symbols left -/

/-- What is left to check at the end is the same for readers that are alike. -/
theorem Finished.alike {pieces : List Piece} {r : Regex} (h : Finished pieces q r)
    (hq : Alike base base' q q') (hsettled : base'.settled = .ok r.flags) (source : String) :
    Finished pieces q' { r with source } := by
  refine ⟨hq.rest.trans h.rest, ?_, ?_, h.root, ?_, h.check⟩
  · intro a ha
    have hfirst : a.1 ∈ q.asked.map Prod.fst := by
      rw [← hq.asked]
      exact List.mem_map_of_mem ha
    obtain ⟨b, hb, hba⟩ := List.mem_map.mp hfirst
    rw [hq.groups, ← hba]
    exact h.asked b hb
  · rw [hq.flags']
    exact hsettled
  · rw [widths_of_alike hq]
    exact h.least

theorem settled_alphabet {f added settled : Flags} (h : (f.union added).settled = .ok settled) :
    (Flags.union { f with unicode := false } added).settled = .ok settled := by
  unfold Flags.settled Flags.union at h ⊢
  dsimp only at h ⊢
  split at h
  · rename_i hascii
    rw [if_pos hascii]
    exact h
  · rename_i hascii
    rw [if_neg hascii]
    split at h
    · cases h
    · rename_i hunicode
      rw [Bool.or_eq_true, not_or, Bool.not_eq_true, Bool.not_eq_true] at hunicode
      rw [hunicode.1, hunicode.2] at h
      rw [hunicode.2]
      exact h

/-! ## Options in front of the text -/

/-- The letters for an option are read, and the text after them goes on under that option. -/
theorem sequence_caseless (fuel : Nat) {symbols : List Symbol}
    (h : symbols.head? ≠ some .dangling) :
    (sequence true (fuel + 2) {} []).run
        { rest := .plain '(' :: .plain '?' :: .plain 'i' :: .plain ')' :: symbols, position := 0,
          flags := {} }
      = (sequence true (fuel + 1) caseless []).run
        { rest := symbols, position := 4, flags := caseless } := by
  cases symbols with
  | nil => rfl
  | cons s rest =>
    cases s with
    | plain c => rfl
    | escaped c => rfl
    | dangling => exact absurd rfl h

theorem sequence_caseless_dangling (fuel : Nat) (symbols : List Symbol) :
    ∃ e, (sequence true (fuel + 2) {} []).run
      { rest := .plain '(' :: .plain '?' :: .plain 'i' :: .plain ')' :: .dangling :: symbols,
        position := 0, flags := {} } = .error e := ⟨_, rfl⟩

end Reader

open Reader

/-! ## Whole expressions -/

section Compile

variable {source source' : String} {f f' g : Flags} {r : Regex}

/-- A text is a regular expression if another one is that is read alike, with the same options in
the end. -/
theorem compile_congr (h : compile source f = .ok r)
    (hfirst : (symbolsOf source'.toList).head? ≠ some .dangling)
    (hread : ∀ pieces q,
      (alternatives true (4 * (symbolsOf source.toList).length + 4) f).run (startOf source f)
        = .ok (pieces, q) → q.flags.settled = .ok r.flags →
      ∃ q', (alternatives true (4 * (symbolsOf source'.toList).length + 4) f').run
          (startOf source' f') = .ok (pieces, q') ∧
        Alike q.flags q'.flags q q' ∧ q'.flags.settled = .ok r.flags) :
    compile source' f' = .ok { r with source := source' } := by
  obtain ⟨-, -, pieces, q, hpieces, -, hq⟩ := compile_ok_iff.mp h
  obtain ⟨q', hpieces', hqq', hsettled⟩ := hread pieces q hpieces hq.settled
  have hunion : f'.union q'.flags = q'.flags := options_hold (p := startOf source' f') rfl hpieces'
  refine compile_ok_iff.mpr
    ⟨rfl, hfirst, pieces, q', hpieces', ⟨r.flags, ?_⟩, hq.alike hqq' hsettled source'⟩
  rw [hunion]
  exact hsettled

/-- The option for the full alphabet need not be given. -/
theorem compile_alphabet (h : compile source f = .ok r) :
    compile source { f with unicode := false } = .ok r := by
  obtain ⟨rfl, hfirst, -⟩ := compile_ok_iff.mp h
  refine compile_congr h hfirst fun pieces q hq hsettled => ?_
  have hstart : Alike f { f with unicode := false } (startOf r.source f)
      (startOf r.source { f with unicode := false }) := ⟨rfl, rfl, rfl, rfl, rfl, rfl, rfl⟩
  have hfuel : 3 * (startOf r.source f).rest.length + 2
      ≤ 4 * (symbolsOf r.source.toList).length + 4 := by
    rw [rest_startOf]
    omega
  obtain ⟨_, q', hq', rfl, -, added, -, hqq'⟩ :=
    (retraces _).alternatives ⟨false, rfl⟩ (fun _ => ⟨rfl, rfl⟩) hfuel hstart pieces q hq
  refine ⟨q', hq', ?_, ?_⟩
  · rw [hqq'.flags, hqq'.flags']
    exact hqq'
  · rw [hqq'.flags] at hsettled
    rw [hqq'.flags']
    exact settled_alphabet hsettled

/-- An expression with other options given, or with another beginning that brings its options. -/
theorem compile_of_brings (h : compile source f = .ok r)
    (hfirst : (symbolsOf source'.toList).head? ≠ some .dangling)
    (hfinal : ∀ final : Flags, final.settled = .ok r.flags → final.union g = final)
    (hread : Brings g (sequence true (4 * (symbolsOf source.toList).length + 3) f [])
      (sequence true (4 * (symbolsOf source'.toList).length + 3) f' [])
      (startOf source f) (startOf source' f')) :
    compile source' f' = .ok { r with source := source' } := by
  refine compile_congr h hfirst fun pieces q hq hsettled => ?_
  have hfuel : 3 * (startOf source' f').rest.length + 1
      ≤ 4 * (symbolsOf source'.toList).length + 3 := by
    rw [rest_startOf]
    omega
  obtain ⟨q', hq', hqq', -⟩ := brings_alternatives hread hfuel pieces q hq (hfinal _ hsettled)
  refine ⟨q', hq', ?_, ?_⟩
  · rw [hqq'.flags']
    exact hqq'
  · rw [hqq'.flags']
    exact hsettled

theorem union_of_settled {final settled : Flags} (h : final.settled = .ok settled)
    (hg : settled.union g = settled) (halphabet : g.unicode = false) : final.union g = final := by
  unfold Flags.settled at h
  split at h
  · cases h
    simp only [Flags.union, Flags.mk.injEq] at hg
    obtain ⟨h₁, h₂, h₃, h₄, h₅, -, h₇⟩ := hg
    simp only [Flags.union, h₁, h₂, h₃, h₄, h₅, h₇, halphabet, Bool.or_false]
  · split at h
    · cases h
    · cases h
      exact hg

/-- Options that a text brings may as well be given to it. -/
theorem compile_brought (h : compile source f = .ok r) (hg : r.flags.union g = r.flags)
    (halphabet : g.unicode = false) : compile source (f.union g) = .ok r := by
  obtain ⟨rfl, hfirst, -⟩ := compile_ok_iff.mp h
  have hstart : Alike f (f.union g) (startOf r.source f) (startOf r.source (f.union g)) :=
    ⟨rfl, rfl, rfl, rfl, rfl, rfl, rfl⟩
  have hfuel : 3 * (startOf r.source f).rest.length + 1
      ≤ 4 * (symbolsOf r.source.toList).length + 3 := by
    rw [rest_startOf]
    omega
  exact compile_of_brings h hfirst (fun _ hsettled => union_of_settled hsettled hg halphabet)
    (brings_sequence _ hfuel hstart)

/-! ## Options in front of the text -/

theorem symbolsOf_caseless (source : String) :
    symbolsOf ("(?i)" ++ source).toList
      = .plain '(' :: .plain '?' :: .plain 'i' :: .plain ')' :: symbolsOf source.toList := by
  have hsource : ("(?i)" ++ source).toList = '(' :: '?' :: 'i' :: ')' :: source.toList := by
    rw [String.toList_append]
    rfl
  rw [hsource]
  iterate 4 rw [symbolsOf_plain (by decide)]

/-- A reader that has passed over the option in front of a text. -/
def pastCaseless (source : String) : Progress :=
  { rest := symbolsOf source.toList, position := 4, flags := caseless }

theorem length_caseless (source : String) :
    (symbolsOf ("(?i)" ++ source).toList).length = (symbolsOf source.toList).length + 4 := by
  rw [symbolsOf_caseless]
  rfl

theorem alike_pastCaseless (source : String) :
    Alike caseless caseless (pastCaseless source) (startOf source caseless) :=
  ⟨rfl, rfl, rfl, rfl, rfl, rfl, rfl⟩

theorem sequence_startOf_caseless (fuel : Nat)
    (hfirst : (symbolsOf source.toList).head? ≠ some .dangling) :
    (sequence true (fuel + 2) {} []).run (startOf ("(?i)" ++ source) {})
      = (sequence true (fuel + 1) caseless []).run (pastCaseless source) := by
  unfold startOf
  rw [symbolsOf_caseless]
  exact sequence_caseless fuel hfirst

theorem head_of_compile_caseless (h : compile ("(?i)" ++ source) {} = .ok r) :
    (symbolsOf source.toList).head? ≠ some .dangling := by
  obtain ⟨-, -, pieces, q, hpieces, -⟩ := compile_ok_iff.mp h
  unfold startOf at hpieces
  rw [symbolsOf_caseless] at hpieces
  intro hfirst
  obtain ⟨rest, hrest⟩ := List.head?_eq_some_iff.mp hfirst
  rw [hrest] at hpieces
  obtain ⟨first, p, hsequence, -⟩ := run_bind_eq_ok.mp hpieces
  obtain ⟨e, he⟩ := sequence_caseless_dangling (4 * (rest.length + 1) + 17) rest
  cases hsequence.symm.trans he

/-- What is read after the option in front of a text is read under that option from the start. -/
theorem brings_of_caseless (fuel : Nat) {fuel' : Nat}
    (hfirst : (symbolsOf source.toList).head? ≠ some .dangling)
    (hfuel : 3 * (symbolsOf source.toList).length + 1 ≤ fuel') :
    Brings {} (sequence true (fuel + 2) {} []) (sequence true fuel' caseless [])
      (startOf ("(?i)" ++ source) {}) (startOf source caseless) := by
  intro pieces p hp
  rw [sequence_startOf_caseless fuel hfirst] at hp
  have hpast := alike_pastCaseless source
  exact ((retraces _).sequence (.refl caseless) (fun _ => ⟨rfl, rfl⟩) hfuel hpast).brings hpast.rest
    pieces p hp

theorem brings_caseless (fuel : Nat) {fuel' : Nat}
    (hfirst : (symbolsOf source.toList).head? ≠ some .dangling)
    (hfuel : 3 * (symbolsOf source.toList).length ≤ fuel') :
    Brings {} (sequence true fuel caseless []) (sequence true (fuel' + 2) {} [])
      (startOf source caseless) (startOf ("(?i)" ++ source) {}) := by
  intro pieces p hp hnone
  rw [sequence_startOf_caseless fuel' hfirst]
  have hpast := (alike_pastCaseless source).symm
  obtain ⟨p', hp', hpp', hle⟩ :=
    ((retraces _).sequence (.refl caseless) (fun _ => ⟨rfl, rfl⟩) (Nat.succ_le_succ hfuel)
      hpast).brings hpast.rest pieces p hp hnone
  refine ⟨p', hp', hpp', Nat.le_trans hle ?_⟩
  rw [rest_startOf, symbolsOf_caseless]
  exact Nat.le_add_right _ 4

/-- What is read without regard to case may have that option in front of it instead. -/
theorem compile_caseless_iff :
    compile ("(?i)" ++ source) {} = .ok { r with source := "(?i)" ++ source } ↔
      compile source caseless = .ok { r with source } := by
  have hnone : ∀ final : Flags, final.settled = .ok r.flags → final.union {} = final :=
    fun final _ => Flags.union_none final
  have hlong : 4 * (symbolsOf ("(?i)" ++ source).toList).length + 3
      = 4 * (symbolsOf source.toList).length + 17 + 2 := by
    rw [length_caseless]
    omega
  constructor
  · intro h
    have hfirst := head_of_compile_caseless h
    refine compile_of_brings (r := { r with source := "(?i)" ++ source }) h hfirst hnone ?_
    rw [hlong]
    exact brings_of_caseless _ hfirst (by omega)
  · intro h
    have hfirst := (compile_ok_iff.mp h).2.1
    have hfirst' : (symbolsOf ("(?i)" ++ source).toList).head? ≠ some .dangling := by
      rw [symbolsOf_caseless]
      exact nofun
    refine compile_of_brings (r := { r with source }) h hfirst' hnone ?_
    rw [hlong]
    exact brings_caseless _ hfirst (by omega)

end Compile

end Regex
end QueryOptions
