/-!
# QueryOptions.Text.Order

Texts in order, character by character. `sortTexts` gives the texts of a list in ascending order;
texts that are there several times stay so.
-/

namespace QueryOptions
namespace Text

/-- Puts a text before the first one that is greater. -/
def insertText (s : String) : List String → List String
  | [] => [s]
  | t :: rest => if s < t then s :: t :: rest else t :: insertText s rest

/-- The texts in ascending order. -/
def sortTexts : List String → List String
  | [] => []
  | s :: rest => insertText s (sortTexts rest)

theorem mem_insertText {s t : String} {texts : List String} :
    s ∈ insertText t texts ↔ s = t ∨ s ∈ texts := by
  induction texts with
  | nil => simp [insertText]
  | cons u rest ih =>
    by_cases h : t < u
    · simp [insertText, h]
    · simp only [insertText, h, if_false, List.mem_cons, ih]
      constructor
      · rintro (h | h | h) <;> simp [h]
      · rintro (h | h | h) <;> simp [h]

theorem perm_insertText (s : String) (texts : List String) :
    (insertText s texts).Perm (s :: texts) := by
  induction texts with
  | nil => exact .refl _
  | cons t rest ih =>
    unfold insertText
    split
    · exact .refl _
    · exact (ih.cons t).trans (.swap s t rest)

theorem perm_sortTexts (texts : List String) : (sortTexts texts).Perm texts := by
  induction texts with
  | nil => exact .nil
  | cons s rest ih => exact (perm_insertText s (sortTexts rest)).trans (ih.cons s)

theorem pairwise_insertText {s : String} {texts : List String} (h : texts.Pairwise (· ≤ ·)) :
    (insertText s texts).Pairwise (· ≤ ·) := by
  induction texts with
  | nil => exact List.pairwise_singleton _ s
  | cons t rest ih =>
    obtain ⟨ht, hrest⟩ := List.pairwise_cons.mp h
    unfold insertText
    split
    · rename_i hst
      have hs : s ≤ t := String.not_lt.mp (String.lt_asymm hst)
      refine List.pairwise_cons.mpr ⟨fun u hu => ?_, h⟩
      rcases List.mem_cons.mp hu with rfl | hu
      · exact hs
      · exact String.le_trans hs (ht u hu)
    · rename_i hst
      refine List.pairwise_cons.mpr ⟨fun u hu => ?_, ih hrest⟩
      rcases mem_insertText.mp hu with rfl | hu
      · exact String.not_lt.mp hst
      · exact ht u hu

/-- Texts are sorted in ascending order. -/
theorem pairwise_sortTexts (texts : List String) : (sortTexts texts).Pairwise (· ≤ ·) := by
  induction texts with
  | nil => exact .nil
  | cons s rest ih => exact pairwise_insertText ih

end Text
end QueryOptions
