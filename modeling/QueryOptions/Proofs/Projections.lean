import QueryOptions.Proofs.Additions
import QueryOptions.Proofs.Standalone
import QueryOptions.Proofs.Words

/-!
# QueryOptions.Proofs.Projections

The projection that fields give. It depends on the names that they list, in whichever syntax
(`projection_of_namesOf`), and a text lists its words. So a text can be replaced by the array of its
words, and a projection by itself (`projection_of_text`).

* `namesOf_text`, `namesOf_array`: what fields list;
* `give_of_namesOf`: the names that a section keeps, with extra names and those that are always
  included.
-/

namespace QueryOptions

theorem Value.texts?_map (names : List String) : texts? (names.map .text) = some names :=
  texts?_eq_some_iff.mpr rfl

namespace Fields

variable {v extra : Value}

/-- A text lists its words, also if it is empty. -/
theorem namesOf_text (s : String) : namesOf (.text s) = .ok ((Text.words s).map .text) := by
  unfold namesOf
  split
  · rename_i hfalsy
    obtain rfl : s = "" := by simpa [Value.isFalsy] using hfalsy
    rfl
  · rfl

theorem namesOf_array {items : List Value} (h : v.array? = some items) : namesOf v = .ok items := by
  unfold namesOf
  rw [Value.isFalsy_of_array? h]
  cases items with
  | nil => rfl
  | cons item rest => cases v <;> cases h <;> rfl

/-- The projection of names and extra names. -/
theorem projection_of_namesOf {names : List Value} (h : namesOf v = .ok names) :
    projection v extra =
      match Value.texts? (names ++ extra.array?.getD []) with
      | some all => .ok (Text.unwords all)
      | none => .error .mismatch := by
  have hread : read [] v extra = .ok (names ++ extra.array?.getD []) := by
    unfold read
    rw [h]
    dsimp only
    split
    · rename_i hnil
      rw [hnil]
    · rw [List.append_nil]
  rw [projection_eq, hread]
  rfl

theorem projection_text (s : String) :
    projection (.text s) .null = .ok (Text.unwords (Text.words s)) := by
  have hnone : Value.array? .null = none := rfl
  rw [projection_of_namesOf (namesOf_text s), hnone, Option.getD_none, List.append_nil,
    Value.texts?_map]

/-- A text of fields lists its words: with any extra fields it gives the projection of the array of
its words, and without them a projection that has the same words and is its own projection. -/
theorem projection_of_text (s : String) :
    (∀ names, Text.words s = names ↔ Text.Splits s.toList (names.map String.toList)) ∧
    (∀ extra, projection (.text s) extra
      = projection (.list ((Text.words s).map .text)) extra) ∧
    ∃ p, projection (.text s) .null = .ok p ∧ Text.words p = Text.words s ∧
      projection (.text p) .null = .ok p := by
  refine ⟨fun names => Text.words_eq_iff, fun extra => ?_, ?_⟩
  · have hlist : namesOf (.list ((Text.words s).map .text)) = .ok ((Text.words s).map .text) :=
      namesOf_array rfl
    rw [projection_of_namesOf (namesOf_text s), projection_of_namesOf hlist]
  · have hwords : Text.words (Text.unwords (Text.words s)) = Text.words s :=
      Text.words_unwords_words s
    refine ⟨_, projection_text s, hwords, ?_⟩
    rw [projection_text, hwords]

/-- Blanks of three kinds, and a name that is given twice. -/
example : projection (.text "\tname\u00a0 level name\n") (.list ["age", "a b"])
    = .ok "name level name age a b" := by rfl

/-- The names that a section comes to: those that are listed, then extra ones and those that are
always included, unless nothing is named. -/
def allNames (names more always : List String) : List String :=
  if names ++ more = [] then [] else names ++ more ++ always

theorem give_of_namesOf {s : Fields} {names more always : List String}
    (hs : s.received = none) (hforced : s.settings = always.map .text)
    (h : namesOf v = .ok (names.map .text)) (hextra : extra.array?.getD [] = more.map .text) :
    ∃ given, s.give v extra = (given, .ok ()) ∧
      given.compile = .ok (Text.unwords (allNames names more always)) := by
  have hread : read s.settings v extra = .ok ((allNames names more always).map .text) := by
    unfold read allNames
    rw [h, hextra, hforced]
    dsimp only
    rw [← List.map_append]
    split
    · rename_i hnil
      rw [if_pos (List.map_eq_nil_iff.mp hnil)]
      rfl
    · rename_i hsome
      rw [if_neg fun hnil => hsome (by rw [hnil]; rfl), ← List.map_append]
  have hgive : s.give v extra
      = (s.filled v (some ((allNames names more always).map .text)), .ok ()) := by
    unfold give
    rw [Section.receive_ofExcept hs, hread]
  refine ⟨_, hgive, ?_⟩
  simp only [compile, Section.filled, Option.getD_some, Value.texts?_map]

end Fields
end QueryOptions
