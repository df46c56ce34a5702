import Mathlib.Data.List.Forall2
import QueryOptions.Proofs.SortMentions
import QueryOptions.Store.Documents

/-!
# QueryOptions.Proofs.FinalSort

The final form of a sort, given to a new section. A field is written with a minus sign in front if
its direction is negative, and read back without it. A text that begins with a minus sign itself
cannot be told from that, so the order comes back just if no ascending field begins so, and all
fields are texts (`final_rereads`, `minusSign_turns`).

* `agrees_iff`: one field, written and read again;
* `Alike`: specs that order rows in one way (`Alike.sortRows_eq`);
* `spec_terms`: what the terms of a spec give.
-/

namespace QueryOptions

/-- One field, which is descending in both or in none. -/
def SortSpec.Agrees (e f : Value × Int) : Prop := f.1 = e.1 ∧ (f.2 < 0 ↔ e.2 < 0)

/-- The same fields in the same order, each descending in both specs or in none. -/
def SortSpec.Alike (spec other : SortSpec) : Prop := List.Forall₂ SortSpec.Agrees spec other

/-! ## The order of rows -/

namespace Store

theorem insertRow_congr {order other : RowOrder} (h : other.before = order.before) (r : Row)
    (rows : List Row) : insertRow other r rows = insertRow order r rows := by
  induction rows with
  | nil => rfl
  | cons s rest ih => rw [insertRow, insertRow, h, ih]

/-- Rows are sorted by comparing them, and by nothing else. -/
theorem sortRows_congr {order other : RowOrder} (h : other.before = order.before) :
    sortRows other = sortRows order := by
  funext rows
  induction rows with
  | nil => rfl
  | cons r rest ih =>
    show insertRow other r (sortRows other rest) = insertRow order r (sortRows order rest)
    rw [ih, insertRow_congr h]

/-- Only the sign of a direction counts. -/
theorem before_cons_congr {c : Column} {d d' : Int} (hd : d' < 0 ↔ d < 0) {order other : RowOrder}
    (h : other.before = order.before) :
    RowOrder.before ((c, d') :: other) = RowOrder.before ((c, d) :: order) := by
  funext r s
  unfold RowOrder.before
  simp only [hd, h]

end Store

namespace SortSpec.Alike

variable {spec other : SortSpec}

theorem fields_eq (h : spec.Alike other) : other.map Prod.fst = spec.map Prod.fst := by
  induction h with
  | nil => rfl
  | cons hfirst _ ih => rw [List.map_cons, List.map_cons, hfirst.1, ih]

theorem before_eq (h : spec.Alike other) (shape : Store.Shape) :
    (Store.Documents.orderOf shape other).map Store.RowOrder.before
      = (Store.Documents.orderOf shape spec).map Store.RowOrder.before := by
  induction h with
  | nil => rfl
  | @cons e f rest rest' he _ ih =>
    obtain ⟨field, d⟩ := e
    obtain ⟨other, d'⟩ := f
    obtain ⟨hfield, hd⟩ := he
    obtain rfl : field = other := hfield.symm
    unfold Store.Documents.orderOf
    cases Store.resolveColumn shape field .sort with
    | error fault => rfl
    | ok c =>
      dsimp only
      cases hrest : Store.Documents.orderOf shape rest <;>
        cases hrest' : Store.Documents.orderOf shape rest' <;> rw [hrest, hrest'] at ih
      · cases ih
        rfl
      · cases ih
      · cases ih
      · exact congrArg Except.ok (Store.before_cons_congr hd (Except.ok.inj ih))

/-- Specs that are alike sort all rows in one way, or are refused for one reason. -/
theorem sortRows_eq (h : spec.Alike other) (shape : Store.Shape) :
    (Store.Documents.orderOf shape other).map Store.sortRows
      = (Store.Documents.orderOf shape spec).map Store.sortRows := by
  have hbefore := h.before_eq shape
  cases hspec : Store.Documents.orderOf shape spec <;>
    cases hother : Store.Documents.orderOf shape other <;> rw [hspec, hother] at hbefore
  · cases hbefore
    rfl
  · cases hbefore
  · cases hbefore
  · exact congrArg Except.ok (Store.sortRows_congr (Except.ok.inj hbefore))

end SortSpec.Alike

namespace Sorting

/-- A field and its direction as a term. -/
def termOf (e : Value × Int) : Value :=
  .text (if e.2 < 0 then "-" ++ e.1.plain else e.1.plain)

/-- The term names the field: a text, without a minus sign in front of it if it is ascending. -/
def IsNamed (e : Value × Int) : Prop :=
  ∃ name, e.1 = .text name ∧ (0 ≤ e.2 → ∀ rest, name ≠ "-" ++ rest)

/-- What the term of a field mentions. -/
def Rereads (e f : Value × Int) : Prop := Mentions (termOf e) f.1 f.2

theorem agrees_iff {e f : Value × Int} (h : Rereads e f) : SortSpec.Agrees e f ↔ IsNamed e := by
  obtain ⟨field, d⟩ := e
  obtain ⟨other, d'⟩ := f
  have hread : Term.ofText (if d < 0 then "-" ++ field.plain else field.plain) = .order other d' :=
    Except.ok.inj (ofValue_of_mentions h)
  have hneg : (-1 : Int) < 0 := by decide
  have hpos : ¬(1 : Int) < 0 := by decide
  by_cases hd : d < 0
  · rw [if_pos hd, ofText_descending] at hread
    cases hread
    constructor
    · rintro ⟨hfield, -⟩
      exact ⟨field.plain, hfield.symm, fun h0 => absurd hd (Int.not_lt.mpr h0)⟩
    · rintro ⟨name, hname, -⟩
      obtain rfl : field = .text name := hname
      exact ⟨rfl, iff_of_true hneg hd⟩
  · rw [if_neg hd] at hread
    by_cases hminus : ∃ rest, field.plain = "-" ++ rest
    · -- the minus sign of the name is taken for that of a direction
      obtain ⟨rest, hrest⟩ := hminus
      rw [hrest, ofText_descending] at hread
      cases hread
      refine iff_of_false (fun hagrees => hd (hagrees.2.mp hneg)) ?_
      rintro ⟨name, hname, hplain⟩
      obtain rfl : field = .text name := hname
      exact hplain (Int.not_lt.mp hd) rest hrest
    · have hplain (rest) : field.plain ≠ "-" ++ rest := fun hrest => hminus ⟨rest, hrest⟩
      rw [ofText_ascending hplain] at hread
      cases hread
      constructor
      · rintro ⟨hfield, -⟩
        exact ⟨field.plain, hfield.symm, fun _ => hplain⟩
      · rintro ⟨name, hname, -⟩
        obtain rfl : field = .text name := hname
        exact ⟨rfl, iff_of_false hpos hd⟩

/-- Each term of a spec mentions something. -/
theorem rereads_of_mentioned {spec mentions : SortSpec} (h : Mentioned (terms spec) mentions) :
    List.Forall₂ Rereads spec mentions := by
  induction spec generalizing mentions with
  | nil =>
    cases h
    exact .nil
  | cons e rest ih =>
    cases h with
    | effective hfirst hrest => exact .cons hfirst (ih hrest)
    | ineffective hnone _ =>
      obtain ⟨field, direction, -, hfirst⟩ :=
        mentions_ofText (if e.2 < 0 then "-" ++ e.1.plain else e.1.plain)
      exact absurd hfirst (hnone field direction)

/-- The terms of a spec are read, and give what they mention. -/
theorem spec_terms (written : SortSpec) :
    ∃ mentions kept, List.Forall₂ Rereads written mentions ∧
      spec (.list (terms written)) = .ok kept ∧ kept.getD [] = lastWins mentions := by
  have hplain : ∀ term ∈ terms written, ¬IsCrowded term := by
    intro term hterm
    obtain ⟨e, -, rfl⟩ := List.mem_map.mp hterm
    rintro ⟨entries, he, -⟩
    cases he
  obtain ⟨mentions, hmentioned, hspec⟩ := takeTerms_of_mentioned hplain []
  have hrereads := rereads_of_mentioned hmentioned
  refine ⟨mentions, if terms written = [] then none else some (lastWins mentions), hrereads, ?_, ?_⟩
  · rw [spec_of_array rfl, hspec, putAll_nil]
    split <;> rfl
  · split
    · rename_i hnil
      obtain rfl := List.map_eq_nil_iff.mp hnil
      cases hrereads
      rw [lastWins]
      rfl
    · rfl

/-! ## A sort and its final form -/

/-- The fields of a spec are apart. -/
theorem areApart_of_spec {v : Value} {kept : Option SortSpec} (h : spec v = .ok kept) :
    AreApart (kept.getD []) := by
  cases hv : v.array? with
  | none =>
    rw [spec_eq, read, hv] at h
    split at h
    · cases h
      exact .nil
    · cases h
  | some terms =>
    rw [spec_of_array hv] at h
    split at h
    · cases h
      exact .nil
    · by_cases hcrowded : ∃ term ∈ terms, IsCrowded term
      · rw [takeTerms_of_crowded hcrowded] at h
        cases h
      · have hplain : ∀ term ∈ terms, ¬IsCrowded term := by simpa using hcrowded
        obtain ⟨mentions, -, hspec⟩ := takeTerms_of_mentioned hplain []
        rw [hspec, putAll_nil] at h
        cases h
        exact areApart_lastWins mentions

theorem agrees_all_iff {written mentions : SortSpec} (h : List.Forall₂ Rereads written mentions) :
    written.Alike mentions ↔ ∀ e ∈ written, IsNamed e := by
  unfold SortSpec.Alike
  induction h with
  | nil => simp
  | cons hfirst _ ih => rw [List.forall₂_cons, List.forall_mem_cons, agrees_iff hfirst, ih]

/-- The fields come back as they were just if each of them is named by its term. Two fields that
come back as one are not, because the list gets shorter. -/
theorem alike_lastWins_iff {written mentions : SortSpec} (hapart : AreApart written)
    (h : List.Forall₂ Rereads written mentions) :
    written.Alike (lastWins mentions) ↔ ∀ e ∈ written, IsNamed e := by
  rw [← agrees_all_iff h]
  constructor
  · intro halike
    have hlength : (lastWins mentions).length = mentions.length :=
      halike.length_eq.symm.trans h.length_eq
    rw [lastWins_of_length hlength] at halike
    exact halike
  · intro halike
    have hmentions : AreApart mentions := by
      rw [areApart_iff_keys, SortSpec.Alike.fields_eq halike]
      exact areApart_iff_keys.mp hapart
    rw [lastWins_of_areApart hmentions]
    exact halike

theorem give_of_spec {v : Value} {kept : Option SortSpec} (h : spec v = .ok kept) :
    ∃ t, give v new = (t, .ok ()) ∧ t.compile = kept := by
  unfold spec at h
  generalize give v new = given at h ⊢
  obtain ⟨t, outcome⟩ := given
  cases outcome with
  | error f => cases h
  | ok _ => exact ⟨t, rfl, Except.ok.inj h⟩

/-- A sort is accepted in its final form, and gives its fields back in their order and with the
signs of their directions, just if each field is a text and no ascending one begins with a minus
sign. It sorts all rows in the same way then. -/
theorem final_rereads {v : Value} {s : Sorting} (h : give v new = (s, .ok ())) :
    ∃ t, give s.final new = (t, .ok ()) ∧
      ((s.compile.getD []).Alike (t.compile.getD []) ↔ ∀ e ∈ s.compile.getD [], IsNamed e) ∧
      ((∀ e ∈ s.compile.getD [], IsNamed e) → ∀ shape,
        (Store.Documents.orderOf shape (t.compile.getD [])).map Store.sortRows
          = (Store.Documents.orderOf shape (s.compile.getD [])).map Store.sortRows) := by
  have hspec : spec v = .ok s.compile := by
    unfold spec
    rw [h]
  obtain ⟨mentions, kept, hrereads, hterms, hkept⟩ := spec_terms (s.compile.getD [])
  obtain ⟨t, ht, rfl⟩ := give_of_spec hterms
  have halike := alike_lastWins_iff (areApart_of_spec hspec) hrereads
  rw [← hkept] at halike
  exact ⟨t, ht, halike, fun hnamed shape => (halike.mpr hnamed).sortRows_eq shape⟩

/-- Terms that give a direction in three ways. -/
def directedTerms : List Value :=
  ["-name", .dict [("age", .int 2)], .dict [("level", "desc")]]

theorem directedTerms_reread :
    ∃ s t, give (.list directedTerms) new = (s, .ok ()) ∧
      s.compile = .some [("name", -1), ("age", 2), ("level", -1)] ∧
      s.final = .list ["-name", "age", "-level"] ∧ give s.final new = (t, .ok ()) ∧
      t.compile = .some [("name", -1), ("age", 1), ("level", -1)] ∧
      (s.compile.getD []).Alike (t.compile.getD []) ∧
      ∀ shape, (Store.Documents.orderOf shape (t.compile.getD [])).map Store.sortRows
        = (Store.Documents.orderOf shape (s.compile.getD [])).map Store.sortRows := by
  have hgive : ∃ s, give (.list directedTerms) new = (s, .ok ()) ∧
      s.compile = .some [("name", -1), ("age", 2), ("level", -1)] := ⟨_, rfl, rfl⟩
  obtain ⟨s, hs, hspec⟩ := hgive
  have hnamed : ∀ e ∈ s.compile.getD [], IsNamed e := by
    rw [hspec]
    show ∀ e ∈ [_, _, _], _
    rw [List.forall_mem_cons, List.forall_mem_cons, List.forall_mem_singleton]
    refine ⟨⟨"name", rfl, fun h => absurd h (by decide)⟩, ⟨"age", rfl, fun _ rest he => ?_⟩,
      ⟨"level", rfl, fun h => absurd h (by decide)⟩⟩
    simpa using congrArg String.toList he
  obtain ⟨t, ht, halike, hsorts⟩ := final_rereads hs
  have hfinal : s.final = .list ["-name", "age", "-level"] := by
    rw [final, hspec]
    rfl
  refine ⟨s, t, hs, hspec, hfinal, ht, ?_, halike.mpr hnamed, hsorts hnamed⟩
  rw [hfinal] at ht
  obtain rfl := congrArg Prod.fst ht
  rfl

/-- An ascending field whose name begins with a minus sign comes back as a descending one of
another name, and is lost if there is that one, too. -/
theorem minusSign_turns :
    (∃ s t, give (.list [.dict [("-level", .int 1)]]) new = (s, .ok ()) ∧
      s.compile = .some [("-level", 1)] ∧ s.final = .list ["-level"] ∧
      give s.final new = (t, .ok ()) ∧ t.compile = .some [("level", -1)] ∧
      ¬SortSpec.Alike [("-level", 1)] [("level", -1)]) ∧
    ∃ s t, give (.list ["-level", .dict [("-level", .int 1)]]) new = (s, .ok ()) ∧
      s.compile = .some [("level", -1), ("-level", 1)] ∧ s.final = .list ["-level", "-level"] ∧
      give s.final new = (t, .ok ()) ∧ t.compile = .some [("level", -1)] ∧
      ¬SortSpec.Alike [("level", -1), ("-level", 1)] [("level", -1)] := by
  constructor
  · obtain ⟨s, hs, hspec, hfinal⟩ : ∃ s,
        give (.list [.dict [("-level", .int 1)]]) new = (s, .ok ()) ∧
        s.compile = .some [("-level", 1)] ∧ s.final = .list ["-level"] := ⟨_, rfl, rfl, rfl⟩
    obtain ⟨t, ht, hturned⟩ : ∃ t, give (.list ["-level"]) new = (t, .ok ()) ∧
        t.compile = .some [("level", -1)] := ⟨_, rfl, rfl⟩
    exact ⟨s, t, hs, hspec, hfinal, hfinal ▸ ht, hturned, fun h => by simpa using h.fields_eq⟩
  · obtain ⟨s, hs, hspec, hfinal⟩ : ∃ s,
        give (.list ["-level", .dict [("-level", .int 1)]]) new = (s, .ok ()) ∧
        s.compile = .some [("level", -1), ("-level", 1)] ∧ s.final = .list ["-level", "-level"] :=
      ⟨_, rfl, rfl, rfl⟩
    obtain ⟨t, ht, hlost⟩ : ∃ t, give (.list ["-level", "-level"]) new = (t, .ok ()) ∧
        t.compile = .some [("level", -1)] := ⟨_, rfl, rfl⟩
    exact ⟨s, t, hs, hspec, hfinal, hfinal ▸ ht, hlost, fun h => by simpa using h.fields_eq⟩

end Sorting
end QueryOptions
