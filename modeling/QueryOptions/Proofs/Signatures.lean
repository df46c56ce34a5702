import QueryOptions.Proofs.Calls
import QueryOptions.Proofs.Conduct
import QueryOptions.Proofs.Entries
import QueryOptions.Store.Registry

/-!
# QueryOptions.Proofs.Signatures

A call of any shape and the call that says the same in full. There are eight shapes that are made
of an identifier, options and a callback (`SpelledOut`). Each of them goes exactly as the call for a
single document or for a collection with the same arguments in their own places
(`Query.enter_signatures`): on a query, on a new query for a model, and on a class of models.

Whatever at most two arguments are, only an absent value or a document identifier is taken for an
identifier (`CallShape.resolve_identifier`).

* `Identifier.isIdentifier_iff`: identifiers, character by character;
* `SpelledOut.resolve`: what the arguments of a shape are told apart into;
* `SpelledOut.matchWith`: both calls take the same extra fields, and the same settings.
-/

namespace QueryOptions

/-! ## Identifiers -/

namespace Identifier

/-- The digits of identifiers. -/
def digits : List Char := "0123456789abcdefABCDEF".toList

/-- A text of exactly twenty-four hexadecimal digits. -/
def IsDocument (v : Value) : Prop :=
  ∃ s, v = .text s ∧ s.toList.length = 24 ∧ ∀ c ∈ s.toList, c ∈ digits

theorem mem_digits_of_range : ∀ n ∈ List.range 0x67,
    (isHexDigit (Char.ofNat n) = true ↔ Char.ofNat n ∈ digits) := by decide

theorem lt_of_mem_digits {c : Char} (h : c ∈ digits) : c.toNat < 0x67 := by
  have hall : (digits.all fun c => decide (c.toNat < 0x67)) = true := by decide
  exact of_decide_eq_true (List.all_eq_true.mp hall c h)

theorem isHexDigit_iff {c : Char} : isHexDigit c = true ↔ c ∈ digits := by
  by_cases hc : c.toNat < 0x67
  · have hsame := mem_digits_of_range c.toNat (List.mem_range.mpr hc)
    rwa [Char.ofNat_toNat] at hsame
  · have hno : isHexDigit c = false := by
      simp only [isHexDigit, Bool.or_eq_false_iff, Bool.and_eq_false_iff, decide_eq_false_iff_not]
      omega
    simp only [hno, Bool.false_eq_true, false_iff]
    intro hm
    exact hc (lt_of_mem_digits hm)

theorem isIdentifier_iff {v : Value} : isIdentifier v = true ↔ IsDocument v := by
  cases v with
  | text s =>
    simp only [isIdentifier, isIdentifierText, size, IsDocument, Bool.and_eq_true, beq_iff_eq,
      List.all_eq_true, isHexDigit_iff, Value.text.injEq, exists_eq_left']
  | _ => simp [isIdentifier, IsDocument]

theorem IsDocument.isFalsy_eq {v : Value} (h : IsDocument v) : v.isFalsy = false := by
  obtain ⟨s, rfl, hlength, -⟩ := h
  have hne : s ≠ "" := by
    rintro rfl
    cases hlength
  simpa [Value.isFalsy] using hne

theorem IsDocument.isCallable_eq {v : Value} (h : IsDocument v) : v.isCallable = false := by
  obtain ⟨s, rfl, -⟩ := h
  rfl

end Identifier

/-! ## Shapes -/

namespace CallShape

variable {first second conditions callback : Value}

theorem ofFirst_document (h : Identifier.IsDocument first) (conditions callback : Value) :
    ofFirst first conditions callback = ⟨first, orNoOptions conditions, callback⟩ := by
  unfold ofFirst
  rw [Identifier.isIdentifier_iff.mpr h]
  simp

theorem ofFirst_identifier (first conditions callback : Value) :
    (ofFirst first conditions callback).identifier.isFalsy = true ∨
      Identifier.IsDocument (ofFirst first conditions callback).identifier := by
  unfold ofFirst
  split
  · exact .inl rfl
  · rename_i hother
    by_cases hf : first.isFalsy = true
    · exact .inl hf
    · refine .inr (Identifier.isIdentifier_iff.mp ?_)
      simpa [hf] using hother

/-- Of at most two arguments, nothing but an identifier is taken for one. -/
theorem resolve_identifier {arguments : List Value} (h : arguments.length ≤ 2) :
    ∃ shape, resolve arguments = .ok shape ∧
      (shape.identifier.isFalsy = true ∨ Identifier.IsDocument shape.identifier) := by
  have htwo (first second : Value) : (ofTwo first second).identifier.isFalsy = true ∨
      Identifier.IsDocument (ofTwo first second).identifier := by
    unfold ofTwo
    split
    · exact .inl rfl
    · split
      · exact ofFirst_identifier _ _ _
      · exact ofFirst_identifier _ _ _
  match arguments, h with
  | [], _ => exact ⟨_, rfl, htwo .null .null⟩
  | [first], _ => exact ⟨_, rfl, htwo first .null⟩
  | [first, second], _ => exact ⟨_, rfl, htwo first second⟩

theorem resolve_many {arguments : List Value} (h : 3 < arguments.length) :
    resolve arguments = .error (.tooManyArguments arguments.length) := by
  match arguments, h with
  | _ :: _ :: _ :: _ :: _, _ => rfl

theorem ofTwo_callback (h : first.isCallable = true) (second : Value) :
    ofTwo first second = ⟨.null, .dict [], first⟩ := by
  unfold ofTwo
  rw [if_pos h]

theorem ofTwo_then_callback (hf : first.isCallable = false) (hs : second.isCallable = true) :
    ofTwo first second = ofFirst first .null second := by
  unfold ofTwo
  rw [hf, hs]
  rfl

theorem ofTwo_plain (hf : first.isCallable = false) (hs : second.isCallable = false) :
    ofTwo first second = ofFirst first second .null := by
  unfold ofTwo
  rw [hf, hs]
  rfl

theorem orNoOptions_dict (options : Dict) : orNoOptions (.dict options) = .dict options := by
  cases options <;> rfl

/-- The call for a single document or for a collection that a shape comes to. -/
def loading (shape : CallShape) (extra : Value) : Loading :=
  if shape.identifier.isFalsy then .many shape.conditions shape.callback extra
  else .one shape.identifier shape.conditions shape.callback extra

theorem loading_many (h : first.isFalsy = true) (conditions callback : Value) :
    loading ⟨first, conditions, callback⟩ = .many conditions callback := by
  funext extra
  simp [loading, h]

theorem loading_one (h : Identifier.IsDocument first) (conditions callback : Value) :
    loading ⟨first, conditions, callback⟩ = .one first conditions callback := by
  funext extra
  simp [loading, h.isFalsy_eq]

/-- Options without entries stay in the place of the identifier, where they count for nothing. -/
theorem loading_options (options : Dict) (callback : Value) :
    (ofFirst (.dict options) .null callback).loading = .many (.dict options) callback := by
  cases options with
  | nil => exact loading_many rfl _ _
  | cons option rest => exact loading_many rfl _ _

end CallShape

theorem Query.run_any {H R : Type} {arguments : List Value} {shape : CallShape}
    (h : CallShape.resolve arguments = .ok shape) (watched : Bool) (source : Source H R)
    (extra : Value) (q : Query) :
    q.run watched source (.any arguments extra) = q.run watched source (shape.loading extra) := by
  simp only [run, loadAny, h, CallShape.loading]
  cases shape.identifier.isFalsy <;> rfl

/-- The arguments of a call of any shape, the call that says the same in full, and the arguments
of that call. -/
inductive SpelledOut : List Value → Entry → List Value → Prop where
  | nothing : SpelledOut [] .filterMany [.dict []]
  | callback {c : Value} (hc : c.isCallable = true) : SpelledOut [c] .filterMany [.dict [], c]
  | options (q : Dict) : SpelledOut [.dict q] .filterMany [.dict q]
  | optionsCallback (q : Dict) {c : Value} (hc : c.isCallable = true) :
      SpelledOut [.dict q, c] .filterMany [.dict q, c]
  | identifier {i : Value} (hi : Identifier.IsDocument i) :
      SpelledOut [i] .filterOne [i, .dict []]
  | identifierCallback {i c : Value} (hi : Identifier.IsDocument i) (hc : c.isCallable = true) :
      SpelledOut [i, c] .filterOne [i, .dict [], c]
  | identifierOptions {i : Value} (hi : Identifier.IsDocument i) (q : Dict) :
      SpelledOut [i, .dict q] .filterOne [i, .dict q]
  | all {i c : Value} (hi : Identifier.IsDocument i) (q : Dict) (hc : c.isCallable = true) :
      SpelledOut [i, .dict q, c] .filterOne [i, .dict q, c]

/-- The call that arguments in their places make, when they are completed by extra fields. -/
def Entry.inPlaces : Entry → List Value → Value → Loading
  | .filter, places, extra => .any places extra
  | .filterOne, places, extra =>
    .one (places.getD 0 .null) (places.getD 1 .null) (places.getD 2 .null) extra
  | .filterMany, places, extra => .many (places.getD 0 .null) (places.getD 1 .null) extra

theorem SpelledOut.resolve {places explicit : List Value} {e : Entry}
    (h : SpelledOut places e explicit) :
    ∃ shape, CallShape.resolve places = .ok shape ∧ shape.loading = e.inPlaces explicit := by
  cases h with
  | nothing => exact ⟨_, rfl, CallShape.loading_many rfl _ _⟩
  | callback hc =>
    refine ⟨_, rfl, ?_⟩
    rw [CallShape.ofTwo_callback hc]
    exact CallShape.loading_many rfl _ _
  | options q => exact ⟨_, rfl, CallShape.loading_options q .null⟩
  | @optionsCallback q c hc =>
    refine ⟨_, rfl, ?_⟩
    rw [CallShape.ofTwo_then_callback rfl hc]
    exact CallShape.loading_options q c
  | identifier hi =>
    refine ⟨_, rfl, ?_⟩
    rw [CallShape.ofTwo_plain hi.isCallable_eq rfl, CallShape.ofFirst_document hi]
    exact CallShape.loading_one hi _ _
  | identifierCallback hi hc =>
    refine ⟨_, rfl, ?_⟩
    rw [CallShape.ofTwo_then_callback hi.isCallable_eq hc, CallShape.ofFirst_document hi]
    exact CallShape.loading_one hi _ _
  | identifierOptions hi q =>
    refine ⟨_, rfl, ?_⟩
    rw [CallShape.ofTwo_plain hi.isCallable_eq rfl, CallShape.ofFirst_document hi,
      CallShape.orNoOptions_dict]
    exact CallShape.loading_one hi _ _
  | all hi q hc =>
    refine ⟨_, rfl, ?_⟩
    rw [CallShape.orNoOptions_dict]
    exact CallShape.loading_one hi _ _

/-! ## Arguments by name -/

namespace Arguments

variable {names : Dict} {parameters : List Parameter}

theorem get?_unnamed {name : String} (hnames : names.keys.all (isParameter parameters) = true)
    (hother : ∀ p ∈ parameters, p.name ≠ name) : names.get? (.text name) = none := by
  refine Dict.get?_eq_none ?_
  rintro _ hk rfl
  have hp := List.all_eq_true.mp hnames _ hk
  simp only [isParameter, List.any_eq_true, beq_iff_eq] at hp
  obtain ⟨p, hp, hname⟩ := hp
  exact hother p hp hname

theorem all_isParameter (hnames : names.keys.all (isParameter parameters) = true)
    (others : List Parameter) : names.keys.all (isParameter (others ++ parameters)) = true := by
  rw [List.all_eq_true] at hnames ⊢
  intro k hk
  have hp := hnames k hk
  cases k with
  | text s =>
    simp only [isParameter, List.any_append, Bool.or_eq_true] at hp ⊢
    exact .inr hp
  | _ => cases hp

/-- Parameters that are not named take the arguments in their places; the last ones may go without,
if they are null by default. -/
theorem assign_leading {leading : List Parameter} {places : List Value}
    (hfree : ∀ p ∈ leading, names.get? (.text p.name) = none)
    (hlength : places.length ≤ leading.length)
    (hdefault : ∀ p ∈ leading.drop places.length, p.default = some .null)
    (rest : List Parameter) :
    assign names (leading ++ rest) places
      = (assign names rest []).map
          (places ++ List.replicate (leading.length - places.length) .null ++ ·) := by
  have hmap {α β γ : Type} (x : Except Fault α) (f : α → β) (g : β → γ) :
      (x.map f).map g = x.map (g ∘ f) := by
    cases x <;> rfl
  induction leading generalizing places with
  | nil =>
    obtain rfl := List.eq_nil_of_length_eq_zero (Nat.le_zero.mp hlength)
    rw [List.nil_append]
    cases assign names rest [] <;> rfl
  | cons p leading ih =>
    have hnone := hfree p (by simp)
    have hfree' : ∀ p ∈ leading, names.get? (.text p.name) = none :=
      fun p hp => hfree p (List.mem_cons_of_mem _ hp)
    rw [List.cons_append]
    cases places with
    | nil =>
      have hp := hdefault p (by simp)
      have hleft := @ih [] hfree' (Nat.zero_le _) fun p hp =>
        hdefault p (List.mem_cons_of_mem _ hp)
      simp only [assign, hnone, Option.none_or, hp, hleft, hmap]
      rfl
    | cons v places =>
      have hleft := ih hfree' (Nat.le_of_succ_le_succ hlength) hdefault
      have hopen : names.has p.name = false := by simp [Dict.has, hnone]
      simp only [assign, hopen, Bool.false_eq_true, if_false, hleft, hmap, List.length_cons,
        Nat.add_sub_add_right]
      rfl

theorem values_leading {leading others : List Parameter} {places : List Value}
    (hnames : names.keys.all (isParameter others) = true)
    (hother : ∀ p ∈ leading, ∀ o ∈ others, o.name ≠ p.name)
    (hlength : places.length ≤ leading.length)
    (hdefault : ∀ p ∈ leading.drop places.length, p.default = some .null) :
    values ⟨places, names⟩ (leading ++ others)
      = (assign names others []).map
          (places ++ List.replicate (leading.length - places.length) .null ++ ·) := by
  unfold values
  rw [if_pos (all_isParameter hnames leading)]
  exact assign_leading (fun p hp => get?_unnamed hnames (hother p hp)) hlength hdefault others

end Arguments

namespace Entry

variable {more : List Parameter} {names : Dict}

/-- The parameters of a call that take arguments in their places. -/
def leading : Entry → List Parameter
  | .filter => []
  | .filterOne => [.required "identifier", .optional "conditions", .optional "callback"]
  | .filterMany => [.optional "conditions", .optional "callback"]

/-- The parameters that every call has: the extra fields, and perhaps more. -/
def common (more : List Parameter) : List Parameter := .optional "extra_fields" :: more

theorem parameters_eq (e : Entry) (more : List Parameter) :
    e.parameters ++ more = e.leading ++ common more := by
  cases e <;> rfl

/-- The call with its extra fields, which come first among the values that are given by name. -/
def complete (make : Value → Loading) : List Value → Except Fault (Loading × List Value)
  | [] => .error .mismatch
  | extra :: rest => .ok (make extra, rest)

/-- A call all of whose own arguments stand in their places. -/
theorem matchWith_inPlaces {e : Entry} {places : List Value}
    (hnames : names.keys.all (Arguments.isParameter (common more)) = true)
    (hother : ∀ p ∈ e.leading, ∀ o ∈ common more, o.name ≠ p.name)
    (hlength : e = .filter ∨ places.length ≤ e.leading.length)
    (hdefault : ∀ p ∈ e.leading.drop places.length, p.default = some .null) :
    e.matchWith more ⟨places, names⟩
      = Arguments.assign names (common more) [] >>= complete (e.inPlaces places) := by
  cases e with
  | filter =>
    have hvalues : Arguments.values ⟨[], names⟩ (Entry.filter.leading ++ common more) = _ :=
      Arguments.values_leading hnames hother (Nat.zero_le _) nofun
    rw [← parameters_eq] at hvalues
    simp only [matchWith, Arguments.named, hvalues]
    rcases Arguments.assign names (common more) [] with f | _ | ⟨extra, rest⟩ <;> rfl
  | filterOne =>
    have hshort : places.length ≤ 3 := hlength.resolve_left nofun
    have hvalues := Arguments.values_leading hnames hother hshort hdefault
    rw [← parameters_eq] at hvalues
    simp only [matchWith, hvalues]
    generalize Arguments.assign names (common more) [] = named
    match places, hshort with
    | [], _ | [_], _ | [_, _], _ | [_, _, _], _ =>
      rcases named with f | _ | ⟨extra, rest⟩ <;> rfl
  | filterMany =>
    have hshort : places.length ≤ 2 := hlength.resolve_left nofun
    have hvalues := Arguments.values_leading hnames hother hshort hdefault
    rw [← parameters_eq] at hvalues
    simp only [matchWith, hvalues]
    generalize Arguments.assign names (common more) [] = named
    match places, hshort with
    | [], _ | [_], _ | [_, _], _ =>
      rcases named with f | _ | ⟨extra, rest⟩ <;> rfl

/-- What the parameters of `common` are called in the calls at hand. -/
theorem name_of_common (hmore : ∀ p ∈ more, p.name = "handler_settings") (e : Entry) :
    ∀ p ∈ e.leading, ∀ o ∈ common more, o.name ≠ p.name := by
  have hleading : ∀ p ∈ e.leading, "extra_fields" ≠ p.name ∧ "handler_settings" ≠ p.name := by
    cases e <;> simp [leading, Parameter.required, Parameter.optional]
  intro p hp o ho
  rcases List.mem_cons.mp ho with rfl | ho
  · exact (hleading p hp).1
  · rw [hmore o ho]
    exact (hleading p hp).2

end Entry

namespace SpelledOut

variable {places explicit : List Value} {e : Entry} {more : List Parameter} {names : Dict}

theorem explicit_places (h : SpelledOut places e explicit) :
    explicit.length ≤ e.leading.length ∧
      ∀ p ∈ e.leading.drop explicit.length, p.default = some .null := by
  cases h <;> simp [Entry.leading, Parameter.optional]

/-- Both calls take the same extra fields, and the same settings. -/
theorem matchWith (h : SpelledOut places e explicit)
    (hnames : names.keys.all (Arguments.isParameter (Entry.common more)) = true)
    (hmore : ∀ p ∈ more, p.name = "handler_settings") :
    (∃ f, Entry.filter.matchWith more ⟨places, names⟩ = .error f ∧
      e.matchWith more ⟨explicit, names⟩ = .error f) ∨
    ∃ extra rest, Entry.filter.matchWith more ⟨places, names⟩ = .ok (.any places extra, rest) ∧
      e.matchWith more ⟨explicit, names⟩ = .ok (e.inPlaces explicit extra, rest) := by
  obtain ⟨hlength, hdefault⟩ := h.explicit_places
  have hother := Entry.name_of_common hmore
  rw [Entry.matchWith_inPlaces hnames (hother .filter) (.inl rfl) (by simp [Entry.leading]),
    Entry.matchWith_inPlaces hnames (hother e) (.inr hlength) hdefault]
  rcases Arguments.assign names (Entry.common more) [] with f | _ | ⟨extra, rest⟩
  · exact .inl ⟨f, rfl, rfl⟩
  · exact .inl ⟨.mismatch, rfl, rfl⟩
  · exact .inr ⟨extra, rest, rfl, rfl⟩

theorem run {H R : Type} (h : SpelledOut places e explicit) (watched : Bool) (source : Source H R)
    (extra : Value) (q : Query) :
    q.run watched source (.any places extra)
      = q.run watched source (e.inPlaces explicit extra) := by
  obtain ⟨shape, hshape, hloading⟩ := h.resolve
  rw [Query.run_any hshape, hloading]

end SpelledOut

/-! ## Calls -/

namespace SpelledOut

variable {H R : Type} {places explicit : List Value} {e : Entry} {names : Dict}

theorem isParameter_of_keys {parameters : List Parameter}
    (h : ∀ k ∈ names.keys, ∃ p ∈ parameters, k = .text p.name) :
    names.keys.all (Arguments.isParameter parameters) = true := by
  rw [List.all_eq_true]
  intro k hk
  obtain ⟨p, hp, rfl⟩ := h k hk
  exact List.any_eq_true.mpr ⟨p, hp, beq_self_eq_true _⟩

theorem enter (h : SpelledOut places e explicit)
    (hnames : ∀ k ∈ names.keys, k = .text "extra_fields") (watched : Bool) (source : Source H R)
    (q : Query) :
    q.enter watched source .filter ⟨places, names⟩
      = q.enter watched source e ⟨explicit, names⟩ := by
  have hcommon : ∀ k ∈ names.keys, ∃ p ∈ Entry.common [], k = .text p.name :=
    fun k hk => ⟨_, List.mem_singleton_self _, hnames k hk⟩
  have hall := isParameter_of_keys hcommon
  unfold Query.enter Entry.loading
  rcases h.matchWith hall nofun with ⟨f, hany, hin⟩ | ⟨extra, rest, hany, hin⟩
  · rw [hany, hin]
  · rw [hany, hin]
    exact h.run watched source extra q

theorem enter_class (h : SpelledOut places e explicit)
    (hnames : ∀ k ∈ names.keys, k = .text "extra_fields") (watched : Bool) (library : Library)
    (c : Store.ModelClass) (r : Store.Registry) :
    r.enter watched library c .filter ⟨places, names⟩
      = r.enter watched library c e ⟨explicit, names⟩ := by
  have hcommon : ∀ k ∈ names.keys, ∃ p ∈ Entry.common [], k = .text p.name :=
    fun k hk => ⟨_, List.mem_singleton_self _, hnames k hk⟩
  have hall := isParameter_of_keys hcommon
  unfold Store.Registry.enter Entry.loading
  rcases h.matchWith hall nofun with ⟨f, hany, hin⟩ | ⟨extra, rest, hany, hin⟩
  · rw [hany, hin]
  · rw [hany, hin]
    simp only [Except.map, h.run]

theorem enterNew (h : SpelledOut places e explicit)
    (hnames : ∀ k ∈ names.keys, k = .text "extra_fields" ∨ k = .text "handler_settings")
    (watched : Bool) (library : Library) (model : String) (source : Source H R) :
    Query.enterNew watched library model source .filter ⟨places, names⟩
      = Query.enterNew watched library model source e ⟨explicit, names⟩ := by
  have hcommon : ∀ k ∈ names.keys, ∃ p ∈ Entry.common [Query.settingsParameter],
      k = .text p.name := by
    intro k hk
    rcases hnames k hk with rfl | rfl
    · exact ⟨.optional "extra_fields", List.mem_cons_self, rfl⟩
    · exact ⟨Query.settingsParameter, List.mem_cons_of_mem _ List.mem_cons_self, rfl⟩
  have hall := isParameter_of_keys hcommon
  have hmore : ∀ p ∈ [Query.settingsParameter], p.name = "handler_settings" := by
    simp [Query.settingsParameter, Parameter.optional]
  have hsettings (e : Entry) (arguments : Arguments) : e.loadingWithSettings arguments
      = (e.matchWith [Query.settingsParameter] arguments).map fun m => (m.1, m.2.headD .null) := rfl
  unfold Query.enterNew
  rw [hsettings, hsettings]
  rcases h.matchWith hall hmore with ⟨f, hany, hin⟩ | ⟨extra, rest, hany, hin⟩
  · rw [hany, hin]
  · rw [hany, hin]
    simp only [Except.map, h.run]

end SpelledOut

namespace Query

/-- Calls of the eight shapes, and what is taken for an identifier. -/
theorem enter_signatures (watched : Bool) :
    (∀ {places explicit : List Value} {e : Entry}, SpelledOut places e explicit →
      ∀ names : Dict,
        ((∀ k ∈ names.keys, k = .text "extra_fields") →
          (∀ {H R : Type} (source : Source H R) (q : Query),
            q.enter watched source .filter ⟨places, names⟩
              = q.enter watched source e ⟨explicit, names⟩) ∧
          ∀ (library : Library) (c : Store.ModelClass) (r : Store.Registry),
            r.enter watched library c .filter ⟨places, names⟩
              = r.enter watched library c e ⟨explicit, names⟩) ∧
        ((∀ k ∈ names.keys, k = .text "extra_fields" ∨ k = .text "handler_settings") →
          ∀ {H R : Type} (library : Library) (model : String) (source : Source H R),
            enterNew watched library model source .filter ⟨places, names⟩
              = enterNew watched library model source e ⟨explicit, names⟩)) ∧
    ∀ arguments : List Value,
      (arguments.length ≤ 2 → ∃ shape, CallShape.resolve arguments = .ok shape ∧
        (shape.identifier.isFalsy = true ∨ Identifier.IsDocument shape.identifier)) ∧
      (3 < arguments.length →
        CallShape.resolve arguments = .error (.tooManyArguments arguments.length)) := by
  refine ⟨fun h names => ⟨fun hnames => ⟨?_, ?_⟩, fun hnames => ?_⟩, fun arguments => ⟨?_, ?_⟩⟩
  · exact fun source q => h.enter hnames watched source q
  · exact fun library c r => h.enter_class hnames watched library c r
  · exact fun library model source => h.enterNew hnames watched library model source
  · exact CallShape.resolve_identifier
  · exact CallShape.resolve_many

/-- A call for the name of a person, with a callback and with extra fields of the call. -/
def shapedCall : List Value :=
  [.text "5b0e5b0e5b0e5b0e5b0e5b0e", .dict [(.text "fields", .text "name")], .callback 1 false]

/-- It asks for the document. The text is no identifier when it is one digit short. -/
theorem shapedCall_enter :
    (∃ q, Query.new Sample.library "Person" .null = .ok q ∧
      q.enter true (Sample.recording none .null) .filter
          ⟨shapedCall, [(.text "extra_fields", .list [.text "age"])]⟩
        = q.enter true (Sample.recording none .null) .filterOne
          ⟨shapedCall, [(.text "extra_fields", .list [.text "age"])]⟩ ∧
      (q.enter false (Sample.recording none .null) .filter
          ⟨shapedCall, [(.text "extra_fields", .list [.text "age"])]⟩).events =
        [.opened (.findOne (single "_id" (.text "5b0e5b0e5b0e5b0e5b0e5b0e"))),
          .taken (.select "name age"), .executed, .answered 1 none (some .null)]) ∧
    ∃ shape, CallShape.resolve [.text "5b0e5b0e5b0e5b0e5b0e5b0", .callback 1 false] = .ok shape ∧
      (shape.identifier.isFalsy = true ∨ Identifier.IsDocument shape.identifier) := by
  have hidentifier : Identifier.IsDocument (.text "5b0e5b0e5b0e5b0e5b0e5b0e") :=
    Identifier.isIdentifier_iff.mp (by decide)
  have hspelled : SpelledOut shapedCall .filterOne shapedCall := .all hidentifier _ rfl
  have hnames : ∀ k ∈ Dict.keys [(.text "extra_fields", .list [.text "age"])],
      k = .text "extra_fields" := by
    simp [Dict.keys]
  have hcall := ((enter_signatures true).1 hspelled _).1 hnames
  exact ⟨⟨_, new_null _ _, hcall.1 _ _, rfl⟩, ((enter_signatures true).2 _).1 (Nat.le_refl 2)⟩

end Query
end QueryOptions
