import QueryOptions.Proofs.LastWins
import QueryOptions.Proofs.Standalone

/-!
# QueryOptions.Proofs.SortMentions

The spec that sort terms give. A term mentions a field with a direction (`Mentions`), or nothing, or
it is a mapping of several fields. Terms that mention nothing have no effect at all, and a mapping
of several fields spoils all the others, wherever it stands (`spec_of_terms`).

* `direction?_eq_some_iff`: which values are directions;
* `ofValue_of_mentions`, `mentions_of_ofValue`, `ofValue_of_crowded`: how a term is read;
* `takeTerms_of_mentioned`: what all terms together give.
-/

namespace QueryOptions
namespace Sorting

/-- A value gives a direction. -/
inductive IsDirection : Value → Int → Prop where
  | whole (n : Int) : IsDirection (.int n) n
  /-- A double of a whole size. -/
  | double {x : Float} {n : Int} :
      (Value.float x).size? = some (.finite n) → IsDirection (.float x) n
  | ascending : IsDirection (.text "asc") 1
  | default : IsDirection (.text "default") 1
  | descending : IsDirection (.text "desc") (-1)

/-- A term mentions a field with a direction. -/
inductive Mentions : Value → Value → Int → Prop where
  /-- One minus sign is taken off. -/
  | descending (name : String) : Mentions (.text ("-" ++ name)) (.text name) (-1)
  | ascending {name : String} :
      (∀ rest, name ≠ "-" ++ rest) → Mentions (.text name) (.text name) 1
  | entry {field v : Value} {direction : Int} :
      IsDirection v direction → Mentions (.dict [(field, v)]) field direction

/-- What terms mention, one after the other; the others are passed over. -/
inductive Mentioned : List Value → SortSpec → Prop where
  | nil : Mentioned [] []
  | effective {term field : Value} {direction : Int} {rest : List Value} {mentions : SortSpec} :
      Mentions term field direction → Mentioned rest mentions →
      Mentioned (term :: rest) ((field, direction) :: mentions)
  | ineffective {term : Value} {rest : List Value} {mentions : SortSpec} :
      (∀ field direction, ¬Mentions term field direction) → Mentioned rest mentions →
      Mentioned (term :: rest) mentions

/-- A term is a mapping of several fields. -/
def IsCrowded (term : Value) : Prop := ∃ entries, term = .dict entries ∧ 1 < entries.length

/-! ## One term -/

theorem namedDirection?_eq_some_iff {name : String} {direction : Int} :
    namedDirection? name = some direction ↔ IsDirection (.text name) direction := by
  constructor
  · intro h
    unfold namedDirection? at h
    split at h
    · rename_i hname
      cases h
      exact hname ▸ .descending
    · split at h
      · rename_i hname
        cases h
        exact hname ▸ .ascending
      · split at h
        · rename_i hname
          cases h
          exact hname ▸ .default
        · cases h
  · intro h
    cases h <;> rfl

theorem direction?_eq_some_iff {v : Value} {direction : Int} :
    direction? v = some direction ↔ IsDirection v direction := by
  cases v with
  | int n =>
    constructor
    · intro h
      cases h
      exact .whole _
    · intro h
      cases h
      rfl
  | float x =>
    have hwhole := Decimal.wholeOf?_eq_some_iff x direction
    refine ⟨fun h => .double (hwhole.mp h), fun h => ?_⟩
    cases h with
    | double hsize => exact hwhole.mpr hsize
  | text s => exact namedDirection?_eq_some_iff
  | _ => constructor <;> intro h <;> cases h

theorem ofText_descending (name : String) :
    Term.ofText ("-" ++ name) = .order (.text name) (-1) := by
  have hlist : ("-" ++ name).toList = '-' :: name.toList := String.toList_append
  rw [Term.ofText, hlist]
  exact congrArg (fun s => Term.order (.text s) (-1)) (String.ofList_toList)

theorem ofText_ascending {name : String} (h : ∀ rest, name ≠ "-" ++ rest) :
    Term.ofText name = .order (.text name) 1 := by
  unfold Term.ofText
  split
  · rename_i rest hlist
    refine absurd (String.toList_inj.mp ?_) (h (String.ofList rest))
    simp [hlist]
  · rfl

/-- A text always mentions a field. -/
theorem mentions_ofText (name : String) :
    ∃ field direction, Term.ofText name = .order field direction ∧
      Mentions (.text name) field direction := by
  by_cases h : ∃ rest, name = "-" ++ rest
  · obtain ⟨rest, rfl⟩ := h
    exact ⟨_, _, ofText_descending rest, .descending rest⟩
  · have hplain (rest) : name ≠ "-" ++ rest := fun he => h ⟨rest, he⟩
    exact ⟨_, _, ofText_ascending hplain, .ascending hplain⟩

theorem ofValue_of_mentions {term field : Value} {direction : Int}
    (h : Mentions term field direction) : Term.ofValue term = .ok (.order field direction) := by
  cases h with
  | descending name => rw [Term.ofValue, ofText_descending]
  | ascending hplain => rw [Term.ofValue, ofText_ascending hplain]
  | entry hd => simp only [Term.ofValue, Term.ofEntry, direction?_eq_some_iff.mpr hd]

theorem mentions_of_ofValue {term field : Value} {direction : Int}
    (h : Term.ofValue term = .ok (.order field direction)) : Mentions term field direction := by
  unfold Term.ofValue at h
  split at h
  · rename_i name
    obtain ⟨field', direction', hread, hm⟩ := mentions_ofText name
    rw [hread] at h
    cases h
    exact hm
  · cases h
  · rename_i key v
    unfold Term.ofEntry at h
    split at h
    · rename_i d hd
      cases h
      exact .entry (direction?_eq_some_iff.mp hd)
    · cases h
  · cases h
  · cases h

theorem ofValue_of_crowded {term : Value} (h : IsCrowded term) :
    Term.ofValue term = .error (.input .sortTerm) := by
  obtain ⟨entries, rfl, hlength⟩ := h
  unfold Term.ofValue
  split
  · rename_i he
    cases he
  · rename_i he
    cases he
    cases hlength
  · rename_i he
    cases he
    exact absurd hlength (Nat.lt_irrefl 1)
  · rfl
  · rename_i hother
    exact absurd rfl (hother entries)

theorem crowded_of_ofValue {term : Value} {f : Fault} (h : Term.ofValue term = .error f) :
    IsCrowded term := by
  unfold Term.ofValue at h
  split at h
  · cases h
  · cases h
  · cases h
  · rename_i entries hnone hone
    refine ⟨entries, rfl, ?_⟩
    cases entries with
    | nil => exact absurd rfl hnone
    | cons e rest =>
      cases rest with
      | nil => exact absurd rfl (hone e.1 e.2)
      | cons e' rest => simp
  · cases h

/-! ## All terms -/

theorem takeTerms_of_mentioned {terms : List Value} (h : ∀ term ∈ terms, ¬IsCrowded term)
    (spec : SortSpec) :
    ∃ mentions, Mentioned terms mentions ∧
      (takeTerms spec terms).2 = .ok (putAll spec mentions) := by
  induction terms generalizing spec with
  | nil => exact ⟨[], .nil, rfl⟩
  | cons term rest ih =>
    obtain ⟨hterm, hrest⟩ := List.forall_mem_cons.mp h
    cases hread : Term.ofValue term with
    | error f => exact absurd (crowded_of_ofValue hread) hterm
    | ok said =>
      have hmentions {field : Value} {direction : Int} (hm : Mentions term field direction) :
          said = .order field direction :=
        Except.ok.inj (hread.symm.trans (ofValue_of_mentions hm))
      unfold takeTerms
      rw [hread]
      cases said with
      | order field direction =>
        obtain ⟨mentions, hall, hspec⟩ := ih hrest (spec.put field direction)
        refine ⟨(field, direction) :: mentions, .effective (mentions_of_ofValue hread) hall, ?_⟩
        rw [putAll_cons, ← SortSpec.put_eq_putEntry]
        exact hspec
      | odd field v =>
        obtain ⟨mentions, hall, hspec⟩ := ih hrest spec
        exact ⟨mentions, .ineffective (fun _ _ hm => by cases hmentions hm) hall, hspec⟩
      | idle =>
        obtain ⟨mentions, hall, hspec⟩ := ih hrest spec
        exact ⟨mentions, .ineffective (fun _ _ hm => by cases hmentions hm) hall, hspec⟩

theorem takeTerms_of_crowded {terms : List Value} (h : ∃ term ∈ terms, IsCrowded term)
    (spec : SortSpec) : (takeTerms spec terms).2 = .error (.input .sortTerm) := by
  induction terms generalizing spec with
  | nil => simp at h
  | cons term rest ih =>
    unfold takeTerms
    by_cases hterm : IsCrowded term
    · rw [ofValue_of_crowded hterm]
    · have hrest : ∃ term ∈ rest, IsCrowded term := by simpa [hterm] using h
      cases hread : Term.ofValue term with
      | error f => exact absurd (crowded_of_ofValue hread) hterm
      | ok said => cases said <;> exact ih hrest _

theorem spec_of_array {v : Value} {terms : List Value} (hv : v.array? = some terms) :
    spec v = if terms = [] then .ok none else (takeTerms [] terms).2.map some := by
  rw [spec_eq]
  unfold read
  rw [Value.isFalsy_of_array? hv, hv]
  cases terms with
  | nil => rfl
  | cons term rest => rfl

/-- The spec has the fields that are mentioned, in the order of their first mention, each with the
direction of its last one. -/
theorem spec_of_terms {v : Value} {terms : List Value} (hv : v.array? = some terms) :
    ((∀ term ∈ terms, ¬IsCrowded term) → ∃ mentions, Mentioned terms mentions ∧
      spec v = .ok (if terms = [] then none else some (lastWins mentions))) ∧
    ((∃ term ∈ terms, IsCrowded term) → spec v = .error (.input .sortTerm)) := by
  rw [spec_of_array hv]
  constructor
  · intro h
    obtain ⟨mentions, hall, hspec⟩ := takeTerms_of_mentioned h []
    refine ⟨mentions, hall, ?_⟩
    rw [hspec, putAll_nil]
    split <;> rfl
  · intro h
    obtain ⟨term, hmem, hterm⟩ := h
    rw [if_neg (List.ne_nil_of_mem hmem), takeTerms_of_crowded ⟨term, hmem, hterm⟩]
    rfl

/-- Terms that mention a name twice, beside a boolean and a number that say nothing. -/
def renamedTerms : List Value :=
  ["-name", .dict [("age", .int 2)], .int 5, .dict [("level", .bool true)],
    .dict [("name", "asc")], .dict []]

/-- A term that mentions two fields among others. -/
def crowdedTerms : List Value := [.int 5, .dict [("name", .int 1), ("age", .int 1)], "level"]

theorem renamedTerms_spec :
    (∃ mentions, Mentioned renamedTerms mentions ∧
      spec (.list renamedTerms) = .ok (some (lastWins mentions))) ∧
    spec (.list renamedTerms) = .ok (some [("name", 1), ("age", 2)]) ∧
    spec (.tuple crowdedTerms) = .error (.input .sortTerm) := by
  have hplain : ∀ term ∈ renamedTerms, ¬IsCrowded term := by simp [renamedTerms, IsCrowded]
  have hcrowded : ∃ term ∈ crowdedTerms, IsCrowded term := by simp [crowdedTerms, IsCrowded]
  exact ⟨(spec_of_terms rfl).1 hplain, rfl, (spec_of_terms rfl).2 hcrowded⟩

end Sorting
end QueryOptions
