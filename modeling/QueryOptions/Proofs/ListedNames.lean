import Mathlib.Data.List.Forall2
import QueryOptions.Proofs.Projections
import QueryOptions.Proofs.Relations

/-!
# QueryOptions.Proofs.ListedNames

What a handle receives of the names that arrays list. Names are handed over as one text with blanks
between them, and the handle takes that text apart. It receives the words of each name, in order
(`TakenApart`), so a name with a blank in it comes as several, and an empty one not at all
(`names_received`, `brokenNames_received`).

* `selectsWords_stepsOf`: the columns of a projection;
* `populatesWords_step`: the fields of a relation.
-/

namespace QueryOptions

/-- A value lists texts: an array of them, or null for none. -/
inductive Value.Lists : Value → List String → Prop where
  | null : Lists .null []
  | list (texts : List String) : Lists (.list (texts.map .text)) texts
  | tuple (texts : List String) : Lists (.tuple (texts.map .text)) texts

/-- Each name is received as its words. All names are received as they were just if they are
words. -/
structure Text.TakenApart (names received : List String) : Prop where
  apart : received = names.flatMap words
  whole : received = names ↔ ∀ name ∈ names, IsWord name

theorem Text.takenApart_words (names : List String) : TakenApart names (words (unwords names)) where
  apart := words_unwords names
  whole := by
    rw [words_unwords]
    exact flatMap_words_eq_iff

/-- Names are written as the empty text just if there are none, or a single empty one. -/
theorem Text.unwords_eq_empty_iff {names : List String} :
    unwords names = "" ↔ names = [] ∨ names = [""] := by
  refine ⟨fun h => ?_, fun h => by rcases h with rfl | rfl <;> rfl⟩
  cases names with
  | nil => exact .inl rfl
  | cons name rest =>
    cases rest with
    | nil =>
      obtain rfl : name = "" := h
      exact .inr rfl
    | cons other rest =>
      have hlist := congrArg String.toList h
      simp [unwords, joinWith_cons_cons] at hlist

namespace Fields

/-- What a handle is told of the columns that are listed. -/
inductive SelectsWords (listed : List String) : List Step → Prop where
  /-- Nothing, so that all columns are loaded. -/
  | nothing : listed = [] ∨ listed = [""] → SelectsWords listed []
  | selected {projection : String} : listed ≠ [] → listed ≠ [""] →
      Text.TakenApart listed (Text.words projection) → SelectsWords listed [.select projection]

theorem selectsWords_stepsOf (listed : List String) :
    SelectsWords listed (stepsOf (Text.unwords listed)) := by
  unfold stepsOf
  split
  · rename_i hempty
    exact .nothing (Text.unwords_eq_empty_iff.mp hempty)
  · rename_i hne
    rw [Text.unwords_eq_empty_iff, not_or] at hne
    exact .selected hne.1 hne.2 (Text.takenApart_words listed)

end Fields

namespace Embed

/-- What a handle is told of a relation that paths mention. -/
inductive PopulatesWords (paths : List String) : String → Step → Prop where
  /-- All fields are loaded. -/
  | full {name : String} : name ∈ paths → PopulatesWords paths name (.populate name none)
  | listed {name fields : String} : name ∉ paths →
      Text.TakenApart ((pathsOf name paths).map fieldOf) (Text.words fields) →
      PopulatesWords paths name (.populate name (some fields))

theorem populatesWords_step {paths : List String} {name : String}
    (h : name ∈ paths.map relationOf) :
    PopulatesWords paths name (gathered paths name).step := by
  obtain ⟨path, hpath, rfl⟩ := List.mem_map.mp h
  have hfull : (gathered paths (relationOf path)).fields = none ↔ relationOf path ∈ paths :=
    fields_gathered_eq_none_iff (isDotted_relationOf path)
  cases hfields : (gathered paths (relationOf path)).fields with
  | none =>
    have hstep : (gathered paths (relationOf path)).step = .populate (relationOf path) none := by
      unfold Relation.step
      rw [hfields]
      rfl
    rw [hstep]
    exact .full (hfull.mp hfields)
  | some fields =>
    have hsome := fields_gathered_ne_nil hpath hfields
    have hstep : (gathered paths (relationOf path)).step
        = .populate (relationOf path) (some (Text.unwords fields)) := by
      unfold Relation.step
      rw [hfields]
      cases fields with
      | nil => exact absurd rfl hsome
      | cons field more => rfl
    have hlisted : relationOf path ∉ paths := by
      intro hmem
      rw [hfull.mpr hmem] at hfields
      cases hfields
    rw [hstep]
    refine .listed hlisted ?_
    rw [← fields_gathered hfields]
    exact Text.takenApart_words fields

end Embed

namespace Value.Lists

variable {v : Value} {texts : List String}

theorem namesOf (h : v.Lists texts) : Fields.namesOf v = .ok (texts.map .text) := by
  cases h with
  | null => rfl
  | list => exact Fields.namesOf_array rfl
  | tuple => exact Fields.namesOf_array rfl

theorem items (h : v.Lists texts) : v.array?.getD [] = texts.map .text := by
  cases h <;> rfl

theorem newFields (h : v.Lists texts) : Fields.new v = .ok { settings := texts.map .text } := by
  cases h with
  | null => rfl
  | list => cases texts <;> rfl
  | tuple => cases texts <;> rfl

theorem relations (h : v.Lists texts) :
    Embed.read v = .ok ((texts.map Embed.relationOf).eraseDups.map (Embed.gathered texts)) := by
  cases h with
  | null => rfl
  | list => exact Embed.read_texts rfl
  | tuple => exact Embed.read_texts rfl

end Value.Lists

/-- The handle receives the words of the columns that are listed, extra names and those that are
always included among them, and for each relation the words of its fields. -/
theorem names_received :
    (∀ {v extra forced : Value} {names more always : List String},
      v.Lists names → extra.Lists more → forced.Lists always →
      ∃ s given steps, Fields.new forced = .ok s ∧ s.give v extra = (given, .ok ()) ∧
        given.steps = .ok steps ∧
        Fields.SelectsWords (Fields.allNames names more always) steps) ∧
    ∀ {v : Value} {paths : List String}, v.Lists paths →
      ∃ given, Embed.new.give v = (given, .ok ()) ∧
        List.Forall₂ (Embed.PopulatesWords paths) (paths.map Embed.relationOf).eraseDups
          given.steps := by
  constructor
  · intro v extra forced names more always hv hextra hforced
    obtain ⟨given, hgive, hcompile⟩ :=
      Fields.give_of_namesOf (s := { settings := always.map .text }) rfl rfl hv.namesOf hextra.items
    refine ⟨_, given, _, hforced.newFields, hgive, ?_, Fields.selectsWords_stepsOf _⟩
    rw [Fields.steps, hcompile]
    rfl
  · intro v paths hv
    have hgive : Embed.new.give v = (Section.filled Embed.new v
        (some ((paths.map Embed.relationOf).eraseDups.map (Embed.gathered paths))), .ok ()) := by
      unfold Embed.give
      rw [Section.receive_ofExcept rfl, hv.relations]
    refine ⟨_, hgive, ?_⟩
    show List.Forall₂ _ _ ((List.map _ _).map Relation.step)
    rw [List.map_map, List.forall₂_map_right_iff, List.forall₂_same]
    intro name hname
    exact Embed.populatesWords_step (List.mem_eraseDups.mp hname)

/-- Whole names, in all places where names are listed. -/
theorem wholeNames_received :
    Value.Lists (.tuple [.text "name", .text "full_name"]) ["name", "full_name"] ∧
    Value.Lists (.list [.text "age"]) ["age"] ∧ Value.Lists (.list [.text "id"]) ["id"] ∧
    (∃ s given, Fields.new (.list [.text "id"]) = .ok s ∧
      s.give (.tuple [.text "name", .text "full_name"]) (.list [.text "age"]) = (given, .ok ()) ∧
      given.steps = .ok [.select "name full_name age id"] ∧
      Fields.SelectsWords ["name", "full_name", "age", "id"]
        [.select "name full_name age id"]) ∧
    Value.Lists (.list [.text "team.name", .text "tags", .text "team.city"])
      ["team.name", "tags", "team.city"] ∧
    ∃ given,
      Embed.new.give (.list [.text "team.name", .text "tags", .text "team.city"])
        = (given, .ok ()) ∧
      given.steps = [.populate "team" (some "name city"), .populate "tags" none] ∧
      List.Forall₂ (Embed.PopulatesWords ["team.name", "tags", "team.city"]) ["team", "tags"]
        given.steps := by
  have hv : Value.Lists (.tuple [.text "name", .text "full_name"]) ["name", "full_name"] :=
    .tuple ["name", "full_name"]
  have hextra : Value.Lists (.list [.text "age"]) ["age"] := .list ["age"]
  have hforced : Value.Lists (.list [.text "id"]) ["id"] := .list ["id"]
  have hpaths : Value.Lists (.list [.text "team.name", .text "tags", .text "team.city"])
      ["team.name", "tags", "team.city"] := .list ["team.name", "tags", "team.city"]
  obtain ⟨s, given, steps, hs, hgive, hsteps, hselects⟩ := names_received.1 hv hextra hforced
  obtain ⟨embed, hembed, hpopulates⟩ := names_received.2 hpaths
  refine ⟨hv, hextra, hforced, ⟨s, given, hs, hgive, ?_⟩, hpaths, embed, hembed, ?_, ?_⟩
  · obtain rfl := Except.ok.inj hs
    obtain rfl := congrArg Prod.fst hgive
    obtain rfl := Except.ok.inj hsteps
    exact ⟨rfl, hselects⟩
  · obtain rfl := congrArg Prod.fst hembed
    rfl
  · exact hpopulates

/-- Names of columns with blanks in them and without any character, and a field that is empty. -/
def brokenNames : List String := ["full name", "", "age"]

theorem brokenNames_received :
    (∃ s given, Fields.new .null = .ok s ∧
      s.give (.list (brokenNames.map .text)) .null = (given, .ok ()) ∧
      given.steps = .ok [.select "full name  age"] ∧
      Text.words "full name  age" = ["full", "name", "age"] ∧
      Text.words "full name  age" ≠ brokenNames) ∧
    ∃ given, Embed.new.give (.list [.text "team.", .text "tags.first label"]) = (given, .ok ()) ∧
      given.steps = [.populate "team" (some ""), .populate "tags" (some "first label")] ∧
      Text.words "" ≠ [""] ∧ Text.words "first label" ≠ ["first label"] := by
  refine ⟨⟨_, _, rfl, rfl, rfl, rfl, ?_⟩, _, rfl, rfl, ?_, ?_⟩ <;> decide

end QueryOptions
