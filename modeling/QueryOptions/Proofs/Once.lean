import QueryOptions.Proofs.Acceptance
import QueryOptions.Proofs.Calls

/-!
# QueryOptions.Proofs.Once

A query takes options once. After that every request is refused, but not without a trace: what a
request asks for, a single document or a collection, is kept before its options are looked at. So a
query comes to the same after any number of refused requests just when it is asked for the same as
before (`Query.take_again`).

* `Query.Again`: what a refused request can still change;
* `Query.attempt_received`, `Query.afterAll_again`: one request after the fields have been read, and
  any number of them;
* `Query.Again.compile_eq`, `Query.target_of_compile`: queries come to the same just with the same
  target.
-/

namespace QueryOptions
namespace Query

variable {q s t : Query} {options : Dict}

/-! ## What a query asks for -/

/-- The document that a query asks for: its identifier, and the criteria that look it up. None is
asked for by a query for a collection. -/
def target (q : Query) : Option (Value × Value) :=
  if q.isCollection then none else some (q.identifier, q.lookup.orElse (single "_id" q.identifier))

/-- A request to a query: options and an identifier, watched or not. -/
structure Request where
  watched : Bool
  options : Value
  identifier : Value

def Request.attempt (r : Request) (q : Query) : Act Notice Query Unit :=
  q.take r.watched r.options r.identifier

def afterAll (requests : List Request) (q : Query) : Query :=
  requests.foldl (fun q r => (r.attempt q).state) q

/-- The target after a request. Options that are no mapping leave the old one. -/
def Request.retarget (r : Request) (old : Option (Value × Value)) : Option (Value × Value) :=
  match entriesOf r.options with
  | none => old
  | some options =>
    if r.identifier.isFalsy then none
    else some (r.identifier, (options.get "indifier").orElse (single "_id" r.identifier))

theorem target_aim (options : Dict) (identifier : Value) (q : Query) :
    (q.aim options identifier).target =
      if identifier.isFalsy then none
      else some (identifier, (options.get "indifier").orElse (single "_id" identifier)) := by
  unfold target aim isCollection
  cases h : identifier.isFalsy with
  | true => simp [Value.orElse_of_falsy .null h, Value.isFalsy_null]
  | false => simp [Value.orElse_of_not_falsy .null h, h]

/-! ## Requests to a query that has read its fields -/

/-- The queries are the same but for their targets, and for filters where there were none. -/
def Again (q s : Query) : Prop :=
  ∃ lookup identifier filters, s = { q with lookup, identifier, filters } ∧
    (q.filters.isReceived = true → filters = q.filters)

theorem Again.refl (q : Query) : Again q q := ⟨_, _, _, rfl, fun _ => rfl⟩

theorem Again.trans (h : Again q s) (g : Again s t) : Again q t := by
  obtain ⟨_, _, _, rfl, hf⟩ := h
  obtain ⟨lookup, identifier, filters, rfl, hg⟩ := g
  refine ⟨lookup, identifier, filters, rfl, fun hr => ?_⟩
  obtain rfl := hf hr
  exact hg hr

theorem again_aim (options : Dict) (identifier : Value) (q : Query) :
    Again q (q.aim options identifier) := ⟨_, _, _, rfl, fun _ => rfl⟩

theorem giveFilters_again (options : Dict) (q : Query) :
    ∃ filters, (q.giveFilters options).state = { q with filters } ∧
      (q.filters.isReceived = true → filters = q.filters) := by
  unfold giveFilters
  dsimp only
  split
  · exact ⟨_, rfl, fun _ => rfl⟩
  · refine ⟨_, rfl, fun hr => ?_⟩
    obtain ⟨w, hw⟩ := Option.isSome_iff_exists.mp hr
    exact congrArg Prod.fst (Section.receive_received _ _ _ w _ hw)

/-- Fields are read once. -/
theorem giveFields_received (options : Dict) (hr : q.fields.isReceived = true) :
    ∃ f, q.giveFields options = .done q (.error f) := by
  unfold giveFields
  dsimp only
  split
  · exact ⟨_, rfl⟩
  · obtain ⟨w, hw⟩ := Option.isSome_iff_exists.mp hr
    have hgive : q.fields.give (options.get SectionName.fields.text) (extraFields options)
        = (q.fields, .error (.consumed SectionName.fields.reader)) :=
      Section.receive_received _ _ _ w _ hw
    rw [hgive]
    exact ⟨_, rfl⟩

theorem giveSections_received (options : Dict) (hr : q.fields.isReceived = true) :
    ∃ f filters, (q.giveSections options).outcome = .error f ∧
      (q.giveSections options).state = { q with filters } ∧
      (q.filters.isReceived = true → filters = q.filters) := by
  unfold giveSections
  cases hc : q.isCollection with
  | true =>
    obtain ⟨filters, hs, hkeep⟩ := giveFilters_again options q
    generalize q.giveFilters options = first at hs
    obtain ⟨events, state, outcome⟩ := first
    obtain rfl : state = { q with filters } := hs
    -- the filters may still be read, but the fields come next
    cases outcome with
    | error f => exact ⟨f, filters, rfl, rfl, hkeep⟩
    | ok _ =>
      obtain ⟨f, hf⟩ := giveFields_received (q := { q with filters }) options hr
      simp only [if_true, Act.andThen_ok, hf]
      exact ⟨f, filters, rfl, rfl, hkeep⟩
  | false =>
    obtain ⟨f, hf⟩ := giveFields_received options hr
    simp only [Bool.false_eq_true, if_false, hf]
    exact ⟨f, q.filters, rfl, rfl, fun _ => rfl⟩

/-- A request to a query that has read its fields is refused. Only its target is kept, and filters
where there were none. -/
theorem attempt_received (r : Request) (hr : q.fields.isReceived = true) :
    (∃ f, (r.attempt q).outcome = .error f) ∧ Again q (r.attempt q).state ∧
      (r.attempt q).state.target = r.retarget q.target := by
  unfold Request.attempt Request.retarget
  cases hv : entriesOf r.options with
  | none =>
    rw [take_of_none hv]
    exact ⟨⟨_, rfl⟩, .refl q, rfl⟩
  | some options =>
    rw [take_of_some hv]
    have haim := again_aim options r.identifier q
    split
    · obtain ⟨f, filters, hf, hs, hkeep⟩ :=
        giveSections_received (q := q.aim options r.identifier) options hr
      generalize (q.aim options r.identifier).giveSections options = a at hf hs
      obtain ⟨events, state, outcome⟩ := a
      obtain rfl : outcome = .error f := hf
      obtain rfl : state = { q.aim options r.identifier with filters } := hs
      exact ⟨⟨f, rfl⟩, haim.trans ⟨_, _, filters, rfl, hkeep⟩, target_aim options r.identifier q⟩
    · exact ⟨⟨_, rfl⟩, haim, target_aim options r.identifier q⟩

theorem Again.fields_eq (h : Again q s) : s.fields = q.fields := by
  obtain ⟨_, _, _, rfl, -⟩ := h
  rfl

/-- Any requests after the fields have been read change nothing but the target, which the last
retargeting one decides. -/
theorem afterAll_again (requests : List Request) (hr : q.fields.isReceived = true) :
    Again q (q.afterAll requests) ∧
      (q.afterAll requests).target = requests.foldl (fun old r => r.retarget old) q.target := by
  induction requests generalizing q with
  | nil => exact ⟨.refl q, rfl⟩
  | cons r rest ih =>
    obtain ⟨-, hagain, htarget⟩ := attempt_received r hr
    obtain ⟨hrest, hlast⟩ := ih (q := (r.attempt q).state) (by rw [hagain.fields_eq]; exact hr)
    refine ⟨hagain.trans hrest, ?_⟩
    rw [htarget] at hlast
    exact hlast

/-! ## What a query comes to -/

theorem isCollection_of_target : q.isCollection = q.target.isNone := by
  unfold target
  cases q.isCollection <;> rfl

/-- A query with the target of another one comes to the same, if the filters of a collection were
read before. -/
theorem Again.compile_eq (h : Again q s) (hf : q.isCollection = true → q.filters.isReceived = true)
    (ht : s.target = q.target) : s.compile = q.compile := by
  have hc : s.isCollection = q.isCollection := by
    rw [isCollection_of_target, isCollection_of_target, ht]
  obtain ⟨lookup, identifier, filters, rfl, hkeep⟩ := h
  cases hq : q.isCollection with
  | true =>
    rw [hq] at hc
    unfold compile
    rw [hc, hq, hkeep (hf hq)]
    rfl
  | false =>
    rw [hq] at hc
    unfold target at ht
    rw [hc, hq] at ht
    simp only [Bool.false_eq_true, if_false, Option.some.injEq, Prod.mk.injEq] at ht
    obtain ⟨rfl, hl⟩ := ht
    unfold compile
    rw [hc, hq, hl]
    rfl

/-- A compiled query tells the target. -/
theorem target_of_compile {compiled : CompiledQuery} (h : q.compile = .ok compiled) :
    q.target =
      if compiled.isCollection then none else some (compiled.identifier, compiled.predicate) := by
  rw [isCollection_of_compile h]
  unfold target
  cases hc : q.isCollection with
  | true => rfl
  | false =>
    obtain ⟨_, -, rfl⟩ := compile_document hc h
    rfl

/-- Queries that come to the same get the same handles. -/
theorem handle_congr {H R : Type} (source : Source H R) (h : s.compile = q.compile) :
    s.handle source = q.handle source := by
  cases hq : q.compile with
  | error f => rw [handle_eq_error source hq, handle_eq_error source (h.trans hq)]
  | ok compiled => rw [handle_eq_prepare source hq, handle_eq_prepare source (h.trans hq)]

/-! ## After options have been accepted -/

/-- Accepted options have been read. -/
theorem received_of_take {watched : Bool} {options identifier : Value}
    (h : (q.take watched options identifier).outcome = .ok ()) :
    (q.take watched options identifier).state.fields.isReceived = true ∧
      ((q.take watched options identifier).state.isCollection = true →
        (q.take watched options identifier).state.filters.isReceived = true) := by
  obtain ⟨entries, -, hsections, hstate⟩ := take_ok h
  obtain ⟨hc, ⟨names, -, hfields⟩, hfilters⟩ := giveSections_ok hsections
  rw [hstate]
  refine ⟨by rw [hfields]; rfl, fun hcollection => ?_⟩
  obtain ⟨es, -, hes⟩ := hfilters (hc ▸ hcollection)
  rw [hes]
  rfl

/-- A query that has accepted options refuses all requests after that. It comes to the same as
before, and gets the same handles, just when it is asked for the same; the last request whose
options are a mapping tells what it is asked for. -/
theorem take_again {watched : Bool} {p : Query} {options identifier : Value}
    (h : (p.take watched options identifier).outcome = .ok ()) (requests : List Request) :
    let q := (p.take watched options identifier).state
    let s := q.afterAll requests
    (∀ r : Request, ∃ f, (r.attempt s).outcome = .error f) ∧
      s.target = requests.foldl (fun old r => r.retarget old) q.target ∧
      (s.target = q.target → s.compile = q.compile ∧
        ∀ {H R : Type} (source : Source H R), s.handle source = q.handle source) ∧
      ∀ compiled, q.compile = .ok compiled → s.compile = .ok compiled → s.target = q.target := by
  intro q s
  obtain ⟨hfields, hfilters⟩ := received_of_take h
  obtain ⟨hagain, htarget⟩ := afterAll_again requests hfields
  have hreceived : s.fields.isReceived = true := by
    rw [hagain.fields_eq]
    exact hfields
  refine ⟨fun r => (attempt_received r hreceived).1, htarget, fun ht => ?_,
    fun compiled hq hs => ?_⟩
  · have hcompile := hagain.compile_eq hfilters ht
    exact ⟨hcompile, fun source => handle_congr source hcompile⟩
  · rw [target_of_compile hq, target_of_compile hs]

/-- The options of a second request: filters, and an option that there is not. -/
def secondOptions : Value :=
  .dict [(.text "filters", .list []), (.text "colour", .text "red")]

/-- A second request for the same collection changes nothing. -/
theorem secondRequest_collection :
    ∃ (new : Query) (compiled : CompiledQuery),
      Query.new Sample.library "Person" .null = .ok new ∧
      (new.take false fullOptions .null).outcome = .ok () ∧
      let q := (new.take false fullOptions .null).state
      let s := q.afterAll [⟨false, secondOptions, .null⟩]
      q.compile = .ok compiled ∧ compiled.limit = .int 10 ∧ compiled.skip = .int 20 ∧
        s.target = q.target ∧ s.compile = .ok compiled := by
  have hsame (new : Query) (h : (new.take false fullOptions .null).outcome = .ok ())
      (ht : ((new.take false fullOptions .null).state.afterAll
        [⟨false, secondOptions, .null⟩]).target
          = (new.take false fullOptions .null).state.target) :=
    ((take_again h [⟨false, secondOptions, .null⟩]).2.2.1 ht).1
  exact ⟨_, _, new_null _ _, rfl, rfl, rfl, rfl, rfl, (hsame _ rfl rfl).trans rfl⟩

/-- A request for a document turns a collection into a document, although it is refused. -/
theorem secondRequest_document :
    ∃ (new q s : Query) (before after : CompiledQuery) (f : Fault),
      Query.new Sample.library "Person" .null = .ok new ∧
      new.take false (.dict []) .null = .done q (.ok ()) ∧ q.compile = .ok before ∧
      q.take false (.dict []) (.text (Identifier.ofNat 0x5B0E0001)) = .done s (.error f) ∧
      s.compile = .ok after ∧ before.isCollection = true ∧ after.isCollection = false ∧
      before.limit = .int 30 ∧ after.limit = .null :=
  ⟨_, _, _, _, _, _, new_null _ _, rfl, rfl, rfl, rfl, rfl, rfl, rfl, rfl⟩

end Query
end QueryOptions
