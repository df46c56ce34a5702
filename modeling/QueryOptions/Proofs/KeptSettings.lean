import QueryOptions.Proofs.Entries
import QueryOptions.Proofs.Setup

/-!
# QueryOptions.Proofs.KeptSettings

A keeper of settings after it has been asked any number of times, for the settings of any signatures
and under any names; signatures may share settings. Whoever asks is given the settings of the
signature, whoever asked before. What the keeper says of a name, and which settings it knows,
depends on who has asked so far (`Keeper.askAll_answers`).

* `mem_asked_askAll`, `mem_known_askAll`, `isEnabled_askAll`: the three records that a keeper keeps;
* `knows_askAll`: the settings that are known;
* `ask_askAll`, `requireKnown_ok_iff`, `requireKnown_error`: what the keeper says.
-/

namespace QueryOptions

namespace Keeper

/-- Somebody asks for the settings of a signature, under a name. -/
structure Ask where
  name : String
  signature : Signature
deriving Repr

def askAll (asks : List Ask) (k : Keeper) : Keeper :=
  asks.foldl (fun k a => (k.ask a.name a.signature).1) k

variable {asks : List Ask} {k : Keeper} {name : String} {settings : Dict} {key : Value}

/-! ## What is kept of those who have asked -/

theorem settings_askAll (asks : List Ask) (k : Keeper) :
    (askAll asks k).settings = k.settings := by
  induction asks generalizing k with
  | nil => rfl
  | cons a rest ih => exact (ih _).trans (ask_settings k a.name a.signature)

theorem mem_asked_askAll :
    name ∈ (askAll asks k).asked ↔ (∃ a ∈ asks, a.name = name) ∨ name ∈ k.asked := by
  induction asks generalizing k with
  | nil => simp [askAll]
  | cons a rest ih =>
    have hstep : askAll (a :: rest) k = askAll rest (k.ask a.name a.signature).1 := rfl
    have hasked : (k.ask a.name a.signature).1.asked = a.name :: k.asked := rfl
    rw [hstep, ih, hasked, List.mem_cons, eq_comm (a := name)]
    simp only [List.mem_cons, exists_eq_or_imp, or_assoc]
    exact or_left_comm

theorem mem_known_askAll :
    name ∈ (askAll asks k).known ↔
      (∃ a ∈ asks, name ∈ a.signature.defaults.map Prod.fst) ∨ name ∈ k.known := by
  induction asks generalizing k with
  | nil => simp [askAll]
  | cons a rest ih =>
    have hstep : askAll (a :: rest) k = askAll rest (k.ask a.name a.signature).1 := rfl
    have hknown : (k.ask a.name a.signature).1.known
        = a.signature.defaults.map Prod.fst ++ k.known := rfl
    rw [hstep, ih, hknown, List.mem_append]
    simp only [List.mem_cons, exists_eq_or_imp, or_assoc]
    exact or_left_comm

theorem isEnabled_askAll (name : String) :
    (askAll asks k).isEnabled name
      = (k.isEnabled name
        && !((asks.any fun a => a.name == name) && Settings.isOff k.settings name)) := by
  induction asks generalizing k with
  | nil => simp [askAll]
  | cons a rest ih =>
    have hstep : askAll (a :: rest) k = askAll rest (k.ask a.name a.signature).1 := rfl
    rw [hstep, ih, isEnabled_ask, ask_settings, List.any_cons]
    by_cases h : a.name = name
    · subst h
      cases k.isEnabled a.name <;> cases Settings.isOff k.settings a.name <;> simp
    · have hne : (a.name == name) = false := beq_eq_false_iff_ne.mpr h
      have hne' : (name == a.name) = false := beq_eq_false_iff_ne.mpr (Ne.symm h)
      simp [hne, hne']

/-! ## What a keeper says -/

/-- A setting is the switch of a name under which somebody has asked, or one of the settings that
somebody has asked for. -/
def IsKnown (asks : List Ask) (key : Value) : Prop :=
  ∃ a ∈ asks, key = .text (switchOf a.name) ∨ ∃ p ∈ a.signature.defaults, key = .text p.1

/-- Somebody has asked under a name, and its switch is there and says no. -/
def IsSwitchedOff (settings : Dict) (asks : List Ask) (name : String) : Prop :=
  (∃ a ∈ asks, a.name = name) ∧
    ∃ v, settings.get? (.text (switchOf name)) = some v ∧ v.isFalsy = true

theorem isOff_iff (settings : Dict) (name : String) :
    Settings.isOff settings name = true ↔
      ∃ v, settings.get? (.text (switchOf name)) = some v ∧ v.isFalsy = true := by
  unfold Settings.isOff Settings.valueOf
  cases settings.get? (.text (switchOf name)) with
  | none => simp [Value.isFalsy]
  | some v => simp

theorem isEnabled_askAll_iff (settings : Dict) (asks : List Ask) (name : String) :
    (askAll asks { settings }).isEnabled name = false ↔ IsSwitchedOff settings asks name := by
  have hstart : isEnabled { settings } name = true := rfl
  rw [isEnabled_askAll, hstart, Bool.true_and, Bool.not_eq_false', Bool.and_eq_true, isOff_iff]
  simp [IsSwitchedOff]

theorem knows_askAll :
    (askAll asks { settings }).knows name = true ↔ IsKnown asks (.text name) := by
  unfold knows IsKnown
  rw [Bool.or_eq_true, List.contains_iff_mem, mem_known_askAll, List.any_eq_true]
  simp only [mem_asked_askAll, beq_iff_eq, List.not_mem_nil, or_false, Value.text.injEq,
    List.mem_map]
  constructor
  · rintro (⟨a, ha, p, hp, rfl⟩ | ⟨_, ⟨a, ha, rfl⟩, rfl⟩)
    · exact ⟨a, ha, .inr ⟨p, hp, rfl⟩⟩
    · exact ⟨a, ha, .inl rfl⟩
  · rintro ⟨a, ha, rfl | ⟨p, hp, rfl⟩⟩
    · exact .inr ⟨a.name, ⟨a, ha, rfl⟩, rfl⟩
    · exact .inl ⟨a, ha, p, hp, rfl⟩

/-- Known settings go by texts. -/
theorem IsKnown.isText (h : IsKnown asks key) : ∃ name, key = .text name := by
  obtain ⟨_, _, rfl | ⟨_, _, rfl⟩⟩ := h
  · exact ⟨_, rfl⟩
  · exact ⟨_, rfl⟩

theorem any_knows_askAll :
    key.text?.any (askAll asks { settings }).knows = true ↔ IsKnown asks key := by
  cases key with
  | text name =>
    rw [Value.text?, Option.any_some]
    exact knows_askAll
  | _ =>
    refine iff_of_false (by simp [Value.text?]) fun h => ?_
    obtain ⟨_, hname⟩ := h.isText
    cases hname

theorem mem_unknown_askAll :
    key ∈ (askAll asks { settings }).unknown ↔ key ∈ settings.keys ∧ ¬IsKnown asks key := by
  rw [unknown, settings_askAll, List.mem_filter, Bool.not_eq_true', Bool.eq_false_iff, Ne,
    any_knows_askAll]

theorem requireKnown_eq (k : Keeper) (owner : String) :
    k.requireKnown owner
      = if k.unknown = [] then .ok () else .error (unknownFault owner k.unknown) := by
  unfold requireKnown
  cases k.unknown <;> rfl

theorem requireEnabled_error_iff {model : String} {f : Fault} :
    k.requireEnabled model name = .error f ↔
      k.isEnabled name = false ∧ f = .disabled name model := by
  unfold requireEnabled
  cases k.isEnabled name with
  | true => simp
  | false => simp [eq_comm]

/-- Whoever asks is given the settings of the signature, whoever has asked before. -/
theorem ask_askAll (settings : Dict) (asks : List Ask) (name : String) (s : Signature) :
    ((askAll asks { settings }).ask name s).2
      = s.defaults.map fun p => (p.1, (settings.get? (.text p.1)).getD p.2) := by
  rw [ask_snd, settings_askAll]
  rfl

/-- What is given is what the parameters with a default value that can be given by name are worth.
-/
theorem mem_ask_askAll {s : Signature} {key : String} {v : Value} :
    (key, v) ∈ ((askAll asks { settings }).ask name s).2 ↔
      ∃ p ∈ s.parameters, p.1.isNamed = true ∧ p.2.name = key ∧
        ∃ default, p.2.default = some default ∧ v = (settings.get? (.text key)).getD default := by
  rw [ask_askAll, List.mem_map]
  constructor
  · rintro ⟨⟨_, default⟩, hmem, he⟩
    cases he
    obtain ⟨p, hp, hkind, hname, hdefault⟩ := Signature.mem_defaults.mp hmem
    exact ⟨p, hp, hkind, hname, default, hdefault, rfl⟩
  · rintro ⟨p, hp, hkind, hname, default, hdefault, rfl⟩
    exact ⟨(key, default), Signature.mem_defaults.mpr ⟨p, hp, hkind, hname, hdefault⟩, rfl⟩

theorem requireKnown_ok_iff {owner : String} :
    (askAll asks { settings }).requireKnown owner = .ok () ↔
      ∀ key ∈ settings.keys, IsKnown asks key := by
  have hnone : (askAll asks { settings }).unknown = [] ↔
      ∀ key ∈ settings.keys, IsKnown asks key := by
    rw [List.eq_nil_iff_forall_not_mem]
    refine forall_congr' fun key => ?_
    rw [mem_unknown_askAll, not_and, Classical.not_not]
  rw [requireKnown_eq, ← hnone]
  split
  · rename_i h
    exact iff_of_true rfl h
  · rename_i h
    exact iff_of_false (fun he => by cases he) h

/-- The names of the settings that are not known, in ascending order. -/
structure AreUnknown (settings : Dict) (asks : List Ask) (names : List String) : Prop where
  mem_iff : ∀ key, key ∈ names.map Value.text ↔ key ∈ settings.keys ∧ ¬IsKnown asks key
  ascending : names.Pairwise (· ≤ ·)
  nodup : settings.keys.Nodup → names.Nodup

/-- Settings are refused in a message with those that are not known, if these all go by texts. -/
theorem requireKnown_error {owner : String} {f : Fault}
    (h : (askAll asks { settings }).requireKnown owner = .error f) :
    (∃ names, f = .unknownSettings owner names ∧ AreUnknown settings asks names) ∨
      f = .mismatch ∧ ∃ key ∈ settings.keys, key.text? = none := by
  rw [requireKnown_eq] at h
  split at h
  · cases h
  · cases h
    unfold unknownFault
    cases ht : Value.texts? (askAll asks { settings }).unknown with
    | some names =>
      rw [Value.texts?_eq_some_iff] at ht
      have hperm := Text.perm_sortTexts names
      refine .inl ⟨_, rfl, fun key => ?_, Text.pairwise_sortTexts names, fun hkeys => ?_⟩
      · rw [(hperm.map Value.text).mem_iff, ← ht, mem_unknown_askAll]
      · have hunknown : (names.map Value.text).Nodup := by
          rw [← ht, unknown, settings_askAll]
          exact hkeys.filter _
        exact hperm.nodup_iff.mpr
          (List.Pairwise.of_map Value.text (fun _ _ hne he => hne (he ▸ rfl)) hunknown)
    | none =>
      obtain ⟨key, hkey, hnone⟩ := Value.texts?_eq_none_iff.mp ht
      exact .inr ⟨rfl, key, (mem_unknown_askAll.mp hkey).1, hnone⟩

/-- A setting of two signatures is given to both, and a setting that goes by a number is refused
without a message of its own. -/
example :
    let s : Signature := .ofParameters [.required "self", ⟨"depth", some (.int 1)⟩] (by decide)
    let k := askAll [⟨"left", s⟩] { settings := [(.text "depth", .int 5), (.int 1, .int 2)] }
    (k.ask "right" s).2 = [("depth", .int 5)] ∧ k.requireKnown "q" = .error .mismatch :=
  ⟨rfl, rfl⟩

end Keeper
end QueryOptions
