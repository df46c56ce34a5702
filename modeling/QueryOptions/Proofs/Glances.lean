import QueryOptions.Proofs.Ways

/-!
# QueryOptions.Proofs.Glances

What a glance at the next character rules out, as the matcher takes it before it tries anything: an
alternative whose first test fails, and a place given back by a repetition where the test that
follows fails. Nothing is lost by that, as no way of matching begins so
(`ways_of_rejects`).

A test that is compared as it is accepts one character only, since a character without another case
is the lower case of no other one. This is so of the tables of cases (`eq_of_lowerOf_eq`): a run of
the upper-case characters is mapped into the runs of the lower-case ones.

* `CaseRun.exists_contains_apply`, `isCased_of_mem`: runs and their images;
* `Fold.eq_of_sameFolded`, `CharTest.toNat_of_accepts`: characters that are compared as they are;
* `Node.ways_of_rejects`: a node whose first test fails.
-/

namespace QueryOptions
namespace Text

/-! ## Characters without another case -/

namespace CaseRun

/-- Whether the images of the run are in another one. -/
def goesInto (r other : CaseRun) : Bool :=
  other.low ≤ r.apply r.low && r.apply r.low + (r.high - r.low) ≤ other.high
    && (r.apply r.low - other.low) % other.stride == 0
    && (r.low == r.high || r.stride % other.stride == 0)

def goesAmong (r : CaseRun) (others : List CaseRun) : Bool :=
  others.any r.goesInto || (List.range (r.high + 1 - r.low)).all fun i =>
    !r.contains (r.low + i) || others.any fun other => other.contains (r.apply (r.low + i))

variable {r other : CaseRun} {others : List CaseRun} {code : Nat}

theorem contains_iff :
    r.contains code = true ↔ r.low ≤ code ∧ code ≤ r.high ∧ (code - r.low) % r.stride = 0 := by
  simp [contains, and_assoc]

theorem contains_apply_of_goesInto (hlow : 0 ≤ r.low + r.shift) (h : r.goesInto other = true)
    (hcode : r.contains code = true) : other.contains (r.apply code) = true := by
  obtain ⟨hle, hge, hstep⟩ := contains_iff.mp hcode
  simp only [goesInto, Bool.and_eq_true, Bool.or_eq_true, decide_eq_true_eq, beq_iff_eq] at h
  obtain ⟨⟨⟨hstart, hstop⟩, hphase⟩, hstride⟩ := h
  have himage : r.apply code = r.apply r.low + (code - r.low) := by
    unfold apply
    omega
  refine contains_iff.mpr ⟨by omega, by omega, ?_⟩
  rw [himage, Nat.sub_add_comm hstart]
  refine Nat.mod_eq_zero_of_dvd (Nat.dvd_add (Nat.dvd_of_mod_eq_zero hphase) ?_)
  rcases hstride with hsingle | hstride
  · have hzero : code - r.low = 0 := by omega
    rw [hzero]
    exact Nat.dvd_zero _
  · exact Nat.dvd_trans (Nat.dvd_of_mod_eq_zero hstride) (Nat.dvd_of_mod_eq_zero hstep)

theorem exists_contains_apply (hlow : 0 ≤ r.low + r.shift) (h : r.goesAmong others = true)
    (hcode : r.contains code = true) : ∃ other ∈ others, other.contains (r.apply code) = true := by
  unfold goesAmong at h
  rw [Bool.or_eq_true] at h
  rcases h with h | h
  · obtain ⟨other, hother, hgoes⟩ := List.any_eq_true.mp h
    exact ⟨other, hother, contains_apply_of_goesInto hlow hgoes hcode⟩
  · obtain ⟨hle, hge, -⟩ := contains_iff.mp hcode
    have heach := List.all_eq_true.mp h (code - r.low) (List.mem_range.mpr (by omega))
    rw [Nat.add_sub_cancel' hle, hcode] at heach
    exact List.any_eq_true.mp heach

end CaseRun

theorem lowerRuns_goAmong :
    ∀ r ∈ lowerRuns, 0 ≤ r.low + r.shift ∧ r.goesAmong upperRuns = true := by
  decide +kernel

theorem upperRuns_shift : ∀ r ∈ upperRuns, r.shift ≠ 0 ∧ 0 ≤ r.low + r.shift ∧
    (0x80 ≤ r.low ∨ (0x61 ≤ r.low ∧ r.high ≤ 0x7A)) := by
  decide +kernel

theorem peerClasses_contained :
    ∀ peers ∈ peerClasses, ∀ code ∈ peers, ∃ r ∈ upperRuns, r.contains code = true := by
  decide +kernel

variable {code : Nat}

theorem mapRuns_eq (runs : List CaseRun) (code : Nat) :
    (mapRuns runs code = code ∧ ∀ r ∈ runs, r.contains code = false) ∨
      ∃ r ∈ runs, r.contains code = true ∧ mapRuns runs code = r.apply code := by
  unfold mapRuns
  cases hfind : runs.find? fun r => r.contains code with
  | none => exact .inl ⟨rfl, fun r hr => by simpa using List.find?_eq_none.mp hfind r hr⟩
  | some r =>
    have hcontains : r.contains code = true := by simpa using List.find?_some hfind
    exact .inr ⟨r, List.mem_of_find?_eq_some hfind, hcontains, rfl⟩

theorem isCased_of_mem {r : CaseRun} (hr : r ∈ upperRuns) (h : r.contains code = true) :
    isCased code = true := by
  have hne : upperOf code ≠ code := by
    unfold upperOf
    split
    · obtain ⟨-, -, hrange⟩ := upperRuns_shift r hr
      obtain ⟨hle, hge, -⟩ := CaseRun.contains_iff.mp h
      have hletter : (0x61 ≤ code && code ≤ 0x7A) = true := by simp; omega
      rw [asciiUpperOf, if_pos hletter]
      omega
    · rcases mapRuns_eq upperRuns code with ⟨-, hnone⟩ | ⟨other, hother, hcontains, himage⟩
      · rw [hnone r hr] at h
        cases h
      · obtain ⟨hshift, hlow, -⟩ := upperRuns_shift other hother
        obtain ⟨hle, -, -⟩ := CaseRun.contains_iff.mp hcontains
        rw [himage, CaseRun.apply]
        omega
  simp [isCased, hne]

theorem isCased_lowerOf (h : lowerOf code ≠ code) : isCased (lowerOf code) = true := by
  unfold lowerOf at h ⊢
  split
  · rename_i hascii
    rw [if_pos hascii] at h
    unfold asciiLowerOf at h ⊢
    split
    · rename_i hletter
      have hupper : upperOf (code + 32) = code := by
        simp only [Bool.and_eq_true, decide_eq_true_eq] at hletter
        have hrange : (0x61 ≤ code + 32 && code + 32 ≤ 0x7A) = true := by simp; omega
        rw [upperOf, if_pos (by omega), asciiUpperOf, if_pos hrange, Nat.add_sub_cancel]
      simp [isCased, hupper]
    · rename_i hother
      rw [if_neg hother] at h
      exact absurd rfl h
  · rename_i hwide
    rw [if_neg hwide] at h
    rcases mapRuns_eq lowerRuns code with ⟨hstays, -⟩ | ⟨r, hr, hcontains, himage⟩
    · exact absurd hstays h
    · obtain ⟨hlow, hamong⟩ := lowerRuns_goAmong r hr
      obtain ⟨other, hother, hcontained⟩ :=
        CaseRun.exists_contains_apply hlow hamong hcontains
      rw [himage]
      exact isCased_of_mem hother hcontained

/-- A character without another case is the lower case of no other one. -/
theorem eq_of_lowerOf_eq {other : Nat} (hcased : isCased code = false)
    (h : lowerOf other = lowerOf code) : other = code := by
  have hown : lowerOf code = code := by
    simp only [isCased, Bool.or_eq_false_iff, bne_eq_false_iff_eq] at hcased
    exact hcased.1
  by_contra hne
  rw [hown] at h
  have hmoved : lowerOf other ≠ other := fun hstays => hne (hstays.symm.trans h)
  have hcased' := isCased_lowerOf hmoved
  rw [h, hcased] at hcased'
  cases hcased'

theorem lowerPeers_eq_nil (hcased : isCased code = false) : lowerPeers code = [] := by
  have hnone (peers : List Nat) (hpeers : peers ∈ peerClasses) : peers.contains code = false := by
    rw [← Bool.not_eq_true, List.contains_iff_mem]
    intro hmem
    obtain ⟨r, hr, hcontains⟩ := peerClasses_contained peers hpeers code hmem
    rw [isCased_of_mem hr hcontains] at hcased
    cases hcased
  have hfind : (if code < 0x80 then asciiPeerClasses else peerClasses).find?
      (fun peers => peers.contains code) = none := by
    rw [List.find?_eq_none]
    intro peers hpeers
    rw [Bool.not_eq_true]
    split at hpeers
    · exact hnone peers (List.mem_append_left _ hpeers)
    · exact hnone peers hpeers
  simp only [lowerPeers, hfind]

end Text

namespace Regex

/-- A character that is not compared with others is equal to itself only. -/
theorem Fold.eq_of_sameFolded {fold : Fold} {a b : Nat} (hcased : fold.isCased b = false)
    (h : sameFolded fold a b = true) : a = b := by
  cases fold with
  | exact => simpa [sameFolded, lower, peers] using h
  | ascii =>
    have hlower : Text.asciiLowerOf a = Text.asciiLowerOf b := by
      simpa [sameFolded, lower, peers] using h
    simp only [isCased, Bool.or_eq_false_iff, Bool.and_eq_false_iff, decide_eq_false_iff_not]
      at hcased
    simp only [Text.asciiLowerOf, Bool.and_eq_true, decide_eq_true_eq] at hlower
    split at hlower <;> split at hlower <;> omega
  | unicode =>
    have hcased : Text.isCased b = false := hcased
    have hown : Text.lowerOf b = b := by
      simp only [Text.isCased, Bool.or_eq_false_iff, bne_eq_false_iff_eq] at hcased
      exact hcased.1
    have hlower : Text.lowerOf a = Text.lowerOf b := by
      simpa [sameFolded, lower, peers, hown, Text.lowerPeers_eq_nil hcased] using h
    exact Text.eq_of_lowerOf_eq hcased hlower

/-! ## Tests that fail -/

namespace CharTest

theorem toNat_of_accepts {test : CharTest} {code : Nat} (h : test.exactCode? = some code) {c : Char}
    (hc : test.accepts c = true) : c.toNat = code := by
  cases test with
  | literal code' negated fold =>
    cases negated with
    | true => cases h
    | false =>
      simp only [exactCode?] at h
      split at h
      · cases h
      · rename_i hcased
        cases h
        refine Fold.eq_of_sameFolded (Bool.not_eq_true _ ▸ hcased) ?_
        simpa [accepts] using hc
  | _ => cases h

/-- Whether the character that comes next is not accepted, or there is none. -/
def rejects (test : CharTest) : List Char → Bool
  | [] => true
  | c :: _ => !test.accepts c

theorem rejects_of_rulesOut {test : CharTest} {after : List Char}
    (h : test.rulesOut after = true) : test.rejects after = true := by
  unfold rulesOut at h
  rw [Bool.and_eq_true] at h
  cases after <;> exact h.2

end CharTest

theorem rejects_of_isBarred {next : Option CharTest} {p : Place} (h : isBarred next p = true) :
    ∃ test, next = some test ∧ test.rejects p.after = true := by
  cases next with
  | none => cases h
  | some test =>
    refine ⟨test, rfl, ?_⟩
    simp only [isBarred, Option.bind_some] at h
    split at h
    · cases h
    · rename_i code hcode
      cases hafter : p.after with
      | nil => rfl
      | cons c rest =>
        have hne : c.toNat ≠ code := by simpa [hafter] using h
        have hrejects : test.accepts c = false := by
          rw [← Bool.not_eq_true]
          exact fun hc => hne (CharTest.toNat_of_accepts hcode hc)
        simp [CharTest.rejects, hrejects]

/-- A node whose first test fails matches in no way, unless it leaves this test to what follows. -/
theorem Node.ways_of_rejects {n : Node} {next : Option CharTest} {test : CharTest} {t : Trail}
    (hfirst : n.firstTest? next = some test) (h : test.rejects t.place.after = true) :
    n.ways t = [] ∨ (next = some test ∧ n.ways t = [t]) := by
  induction n generalizing next with
  | empty => exact .inr ⟨hfirst, rfl⟩
  | one own =>
    cases hfirst
    refine .inl ?_
    simp only [ways]
    split
    · rfl
    · rename_i c rest hafter
      have hrejects : test.accepts c = false := by simpa [CharTest.rejects, hafter] using h
      rw [hrejects]
      rfl
  | seq a b iha ihb =>
    rcases iha hfirst with hnone | ⟨hfirst, hone⟩
    · exact .inl (by rw [ways, hnone]; rfl)
    · rw [ways, hone, List.flatMap_singleton]
      exact ihb hfirst
  | _ => cases hfirst

end Regex
end QueryOptions
