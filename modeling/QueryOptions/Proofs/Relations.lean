import Mathlib.Data.List.TakeWhile
import QueryOptions.Proofs.Standalone

/-!
# QueryOptions.Proofs.Relations

The relations that paths mention. Each path is cut at its first dot (`relationOf`, `fieldOf`).
Taking up the paths one by one gathers the paths of each relation where it was mentioned first
(`foldl_mention`), and a path without a dot stands for all fields, before and after it
(`relations_of_paths`).

* `cutPath_eq`: the two parts of a path;
* `foldl_mention_cons`: the paths of the first relation do not touch the others;
* `foldl_add`: what the paths of one relation add up to.
-/

namespace QueryOptions
namespace Embed

/-- The relation of a path: the text before the first dot, or all of it. -/
def relationOf (path : String) : String := String.ofList (path.toList.takeWhile (· != '.'))

/-- The field of a path: the text after the first dot. -/
def fieldOf (path : String) : String := String.ofList (path.toList.dropWhile (· != '.')).tail

def isDotted (path : String) : Bool := path.toList.contains '.'

def pathsOf (name : String) (paths : List String) : List String :=
  paths.filter fun path => relationOf path == name

/-! ## One path -/

theorem cutPath_eq (cs : List Char) :
    cutPath cs = (cs.takeWhile (· != '.'),
      if cs.contains '.' then some (cs.dropWhile (· != '.')).tail else none) := by
  induction cs with
  | nil => rfl
  | cons c rest ih =>
    unfold cutPath
    by_cases hc : c = '.'
    · subst hc
      simp
    · have hne : '.' ≠ c := Ne.symm hc
      simp [hc, hne, ih]

theorem relationOf_of_not_dotted {path : String} (h : isDotted path = false) :
    relationOf path = path := by
  have hall : ∀ c ∈ path.toList, (c != '.') = true := by
    intro c hc
    refine bne_iff_ne.mpr ?_
    rintro rfl
    rw [isDotted, List.contains_eq_mem, decide_eq_false_iff_not] at h
    exact h hc
  rw [relationOf, List.takeWhile_eq_self_iff.mpr hall, String.ofList_toList]

/-- The name of a relation has no dot. -/
theorem isDotted_relationOf (path : String) : isDotted (relationOf path) = false := by
  rw [isDotted, relationOf, String.toList_ofList, List.contains_eq_mem, decide_eq_false_iff_not]
  intro hmem
  have := List.mem_takeWhile_imp hmem
  simp at this

def mentionPath (relations : List Relation) (path : String) : List Relation :=
  mention relations (relationOf path) (if isDotted path then some (fieldOf path) else none)

def addPath (r : Relation) (path : String) : Relation :=
  r.add (if isDotted path then some (fieldOf path) else none)

theorem mentionAll_texts (relations : List Relation) (paths : List String) :
    mentionAll relations (paths.map .text) = .ok (paths.foldl mentionPath relations) := by
  induction paths generalizing relations with
  | nil => rfl
  | cons path rest ih =>
    have hfield : (cutPath path.toList).2.map String.ofList
        = if isDotted path then some (fieldOf path) else none := by
      rw [cutPath_eq]
      exact apply_ite (Option.map String.ofList) _ _ _
    have hname : String.ofList (cutPath path.toList).1 = relationOf path := by
      rw [cutPath_eq]
      rfl
    rw [List.map_cons, mentionAll]
    dsimp only
    rw [hfield, hname, ih]
    rfl

/-! ## All paths -/

theorem name_add (r : Relation) (field : Option String) : (r.add field).name = r.name := by
  cases field <;> rfl

/-- The first relation takes up its own paths; the others do not touch it. -/
theorem foldl_mention_cons (r : Relation) (relations : List Relation) (paths : List String) :
    paths.foldl mentionPath (r :: relations)
      = (pathsOf r.name paths).foldl addPath r
        :: (paths.filter fun path => relationOf path != r.name).foldl mentionPath relations := by
  induction paths generalizing r relations with
  | nil => rfl
  | cons path rest ih =>
    rw [List.foldl_cons]
    by_cases h : relationOf path = r.name
    · have hstep : mentionPath (r :: relations) path = addPath r path :: relations := by
        simp [mentionPath, mention, addPath, h]
      have hkept : (addPath r path).name = r.name := name_add r _
      rw [hstep, ih, hkept]
      simp [pathsOf, h]
    · have hstep : mentionPath (r :: relations) path = r :: mentionPath relations path := by
        simp [mentionPath, mention, Ne.symm h]
      rw [hstep, ih]
      simp [pathsOf, h]

/-- The paths of one relation add up their fields, unless there is one without a dot. -/
theorem foldl_add (r : Relation) (paths : List String) :
    paths.foldl addPath r =
      { name := r.name
        fields := if paths.all isDotted then r.fields.map (· ++ paths.map fieldOf) else none } := by
  induction paths generalizing r with
  | nil =>
    obtain ⟨name, fields⟩ := r
    cases fields <;> simp
  | cons path rest ih =>
    rw [List.foldl_cons, ih, List.all_cons, List.map_cons]
    cases h : isDotted path with
    | true =>
      have hadd : addPath r path = r.add (some (fieldOf path)) := by simp [addPath, h]
      rw [hadd, Bool.true_and]
      cases hr : r.fields <;> simp [Relation.add, hr]
    | false =>
      have hadd : addPath r path = r.add none := by simp [addPath, h]
      rw [hadd]
      simp [Relation.add]

def gathered (paths : List String) (name : String) : Relation where
  name
  fields :=
    if (pathsOf name paths).all isDotted then some ((pathsOf name paths).map fieldOf) else none

/-- A relation that stands behind others is gathered from the paths that are not theirs. -/
theorem gathered_filter {name other : String} (h : name ≠ other) (paths : List String) :
    gathered (paths.filter fun path => relationOf path != other) name = gathered paths name := by
  have hpaths : pathsOf name (paths.filter fun path => relationOf path != other)
      = pathsOf name paths := by
    unfold pathsOf
    rw [List.filter_filter]
    refine List.filter_congr fun path _ => ?_
    by_cases hp : relationOf path = name
    · simp [hp, h]
    · simp [hp]
  rw [gathered, gathered, hpaths]

/-- Each relation stands where it is mentioned first, with what all its paths say. -/
theorem foldl_mention : ∀ paths : List String,
    paths.foldl mentionPath [] = (paths.map relationOf).eraseDups.map (gathered paths)
  | [] => rfl
  | path :: rest => by
    let others := rest.filter fun p => relationOf p != relationOf path
    have hfirst : (pathsOf (relationOf path) rest).foldl addPath
        (addPath ⟨relationOf path, some []⟩ path) = gathered (path :: rest) (relationOf path) := by
      rw [← List.foldl_cons, foldl_add]
      simp [gathered, pathsOf]
    have hnames : (rest.map relationOf).filter (fun name => !name == relationOf path)
        = others.map relationOf := List.filter_map
    have hothers : (others.map relationOf).eraseDups.map (gathered others)
        = (others.map relationOf).eraseDups.map (gathered (path :: rest)) := by
      refine List.map_congr_left fun name hname => ?_
      obtain ⟨p, hp, rfl⟩ := List.mem_map.mp (List.mem_eraseDups.mp hname)
      have hne : relationOf p ≠ relationOf path := by simpa using (List.mem_filter.mp hp).2
      have hmore : pathsOf (relationOf p) (path :: rest) = pathsOf (relationOf p) rest := by
        simp [pathsOf, Ne.symm hne]
      rw [gathered_filter hne, gathered, gathered, hmore]
    have hstart : mentionPath [] path = [addPath ⟨relationOf path, some []⟩ path] := rfl
    have hkept : (addPath ⟨relationOf path, some []⟩ path).name = relationOf path := name_add _ _
    rw [List.foldl_cons, hstart, foldl_mention_cons, hkept, hfirst, List.map_cons,
      List.eraseDups_cons, hnames, List.map_cons, ← hothers, ← foldl_mention others]
termination_by paths => paths.length
decreasing_by exact Nat.lt_succ_of_le (List.length_filter_le _ rest)

theorem fields_gathered_eq_none_iff {paths : List String} {name : String}
    (h : isDotted name = false) : (gathered paths name).fields = none ↔ name ∈ paths := by
  have hfields : (gathered paths name).fields = none
      ↔ ∃ path ∈ pathsOf name paths, isDotted path = false := by
    unfold gathered
    dsimp only
    split
    · rename_i hall
      refine iff_of_false (fun h => by cases h) ?_
      rintro ⟨path, hpath, hplain⟩
      rw [List.all_eq_true.mp hall path hpath] at hplain
      cases hplain
    · rename_i hsome
      exact iff_of_true rfl (by simpa using hsome)
  rw [hfields]
  constructor
  · rintro ⟨path, hpath, hplain⟩
    obtain ⟨hmem, hname⟩ := List.mem_filter.mp hpath
    rw [← beq_iff_eq.mp hname, relationOf_of_not_dotted hplain]
    exact hmem
  · intro hmem
    exact ⟨name, List.mem_filter.mpr ⟨hmem, beq_iff_eq.mpr (relationOf_of_not_dotted h)⟩, h⟩

theorem fields_gathered {paths fields : List String} {name : String}
    (h : (gathered paths name).fields = some fields) :
    fields = (pathsOf name paths).map fieldOf := by
  unfold gathered at h
  dsimp only at h
  split at h
  · exact (Option.some.inj h).symm
  · cases h

/-- A relation that is mentioned has a path. -/
theorem fields_gathered_ne_nil {paths fields : List String} {path : String} (hpath : path ∈ paths)
    (h : (gathered paths (relationOf path)).fields = some fields) : fields ≠ [] := by
  obtain rfl := fields_gathered h
  have hmentioned : path ∈ pathsOf (relationOf path) paths :=
    List.mem_filter.mpr ⟨hpath, beq_self_eq_true _⟩
  intro hnil
  rw [List.map_eq_nil_iff.mp hnil] at hmentioned
  cases hmentioned

/-! ## Items that are no paths -/

theorem mentionAll_before (relations : List Relation) (before : List String) {item : Value}
    (h : item.text? = none) (after : List Value) :
    mentionAll relations (before.map .text ++ item :: after)
      = .error (.input (.embedItem item.kind)) := by
  induction before generalizing relations with
  | nil => cases item <;> first | rfl | cases h
  | cons path rest ih => exact ih _

/-- The first item that is no text. -/
theorem exists_first_of_not_text {items : List Value} (h : ∃ item ∈ items, item.text? = none) :
    ∃ (before : List String) (item : Value) (after : List Value),
      items = before.map .text ++ item :: after ∧ item.text? = none := by
  induction items with
  | nil => simp at h
  | cons item rest ih =>
    cases hitem : item.text? with
    | none => exact ⟨[], item, rest, rfl, hitem⟩
    | some path =>
      have hrest : ∃ other ∈ rest, other.text? = none := by simpa [hitem] using h
      obtain ⟨before, other, after, rfl, hother⟩ := ih hrest
      obtain rfl : item = .text path := by
        cases item <;> cases hitem
        rfl
      exact ⟨path :: before, other, after, rfl, hother⟩

theorem read_array {v : Value} {items : List Value} (hv : v.array? = some items) :
    read v = mentionAll [] items := by
  cases v <;> cases hv <;> rfl

theorem read_texts {v : Value} {paths : List String} (hv : v.array? = some (paths.map .text)) :
    read v = .ok ((paths.map relationOf).eraseDups.map (gathered paths)) := by
  rw [read_array hv, mentionAll_texts, foldl_mention]

/-- Paths give one relation for each name before a first dot, in the order in which the names are
mentioned first. A relation is loaded in full if its name is one of the paths, and otherwise with
the texts after the first dots of its paths. A single item that is no text is refused, and all
paths with it. -/
theorem relations_of_paths {v : Value} {items : List Value} (hv : v.array? = some items) :
    (∀ paths, items = paths.map .text → ∃ found, relations v = .ok found ∧
      found.map Relation.name = (paths.map relationOf).eraseDups ∧
      ∀ r ∈ found, (r.fields = none ↔ r.name ∈ paths) ∧
        ∀ fields, r.fields = some fields →
          fields ≠ [] ∧ fields = (pathsOf r.name paths).map fieldOf) ∧
    ((∃ item ∈ items, item.text? = none) →
      ∃ (before : List String) (item : Value) (after : List Value),
        items = before.map .text ++ item :: after ∧ item.text? = none ∧
          relations v = .error (.input (.embedItem item.kind))) := by
  constructor
  · rintro paths rfl
    refine ⟨_, (relations_eq v).trans (read_texts hv), ?_, ?_⟩
    · rw [List.map_map]
      exact List.map_id _
    · intro r hr
      obtain ⟨name, hname, rfl⟩ := List.mem_map.mp hr
      obtain ⟨path, hpath, rfl⟩ := List.mem_map.mp (List.mem_eraseDups.mp hname)
      exact ⟨fields_gathered_eq_none_iff (isDotted_relationOf path), fun fields hfields =>
        ⟨fields_gathered_ne_nil hpath hfields, fields_gathered hfields⟩⟩
  · intro h
    obtain ⟨before, item, after, hitems, hitem⟩ := exists_first_of_not_text h
    refine ⟨before, item, after, hitems, hitem, ?_⟩
    rw [relations_eq, read_array hv, hitems, mentionAll_before [] before hitem after]

/-- Paths of three relations, one of which is mentioned in full between its fields. -/
def mixedPaths : List String :=
  ["team.name", "tags.label", "team", ".x", "tags.a.b", "team.city", "tags."]

theorem mixedPaths_relations :
    (∃ found, relations (.list (mixedPaths.map .text)) = .ok found ∧
      found.map Relation.name = (mixedPaths.map relationOf).eraseDups ∧
      ∀ r ∈ found, (r.fields = none ↔ r.name ∈ mixedPaths) ∧
        ∀ fields, r.fields = some fields →
          fields ≠ [] ∧ fields = (pathsOf r.name mixedPaths).map fieldOf) ∧
    relations (.list (mixedPaths.map .text))
      = .ok [⟨"team", none⟩, ⟨"tags", some ["label", "a.b", ""]⟩, ⟨"", some ["x"]⟩] ∧
    ∃ (before : List String) (item : Value) (after : List Value),
      [.text "team", .int 5, .null] = before.map .text ++ item :: after ∧ item.text? = none ∧
        relations (.tuple [.text "team", .int 5, .null])
          = .error (.input (.embedItem item.kind)) := by
  refine ⟨(relations_of_paths rfl).1 mixedPaths rfl, by rfl, (relations_of_paths rfl).2 ?_⟩
  exact ⟨.int 5, by simp, rfl⟩

end Embed
end QueryOptions
