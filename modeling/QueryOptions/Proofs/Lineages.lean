import QueryOptions.Proofs.Entries
import QueryOptions.Proofs.Refusals
import QueryOptions.Sample.Operators
import QueryOptions.Section.Family

/-!
# QueryOptions.Proofs.Lineages

A section and its copies, under requests in any order. What has been offered to a section was
offered to itself or, before it was copied, to what it is a copy of (`Family.offersTo`). At most one
offer of these is taken, and it decides what the section comes to, whatever happens to other
sections (`Family.lineage_once`).

* `AnySection.Offered`: a section that has been offered inputs, one after the other;
* `Offered.accepted`, `Offered.untouched`: it is the first section after the offer that it took, or
  that section itself;
* `AnySection.Unread.give_refused`: a section that has refused its input is as good as new;
* `Family.offered_after`: every section of a family has come from the first one that way.
-/

namespace QueryOptions

/-! ## Refused inputs -/

/-- The outcome is anything but a refusal. -/
def NeverRefuses {α : Type} (x : Except Fault α) : Prop := ∀ f, x = .error f → f.isRefusal = false

section

variable {α β : Type}

theorem NeverRefuses.ok (a : α) : NeverRefuses (.ok a) := nofun

theorem NeverRefuses.error {f : Fault} (h : f.isRefusal = false) :
    NeverRefuses (.error f : Except Fault α) := by
  intro g hg
  cases hg
  exact h

theorem NeverRefuses.map {x : Except Fault α} (h : NeverRefuses x) (g : α → β) :
    NeverRefuses (x.map g) := by
  cases x with
  | ok a => exact .ok _
  | error f => exact .error (h f rfl)

end

namespace Value

theorem less_neverRefuses (a b : Value) : NeverRefuses (less a b) := by
  unfold less
  split
  · exact .ok _
  · exact .error rfl

theorem lesser_neverRefuses (a b : Value) : NeverRefuses (lesser a b) := by
  have hless := less_neverRefuses b a
  unfold lesser
  split
  · rename_i f hf
    exact .error (hless f hf)
  · exact .ok _
  · exact .ok _

theorem pred_neverRefuses (a : Value) : NeverRefuses a.pred := by
  unfold pred
  split
  · exact .ok _
  · exact .ok _
  · exact .error rfl

theorem repeatItems_neverRefuses {α : Type} (items : List α) (count : Int) :
    NeverRefuses (repeatItems items count) := by
  unfold repeatItems
  split
  · exact .error rfl
  · split
    · exact .error rfl
    · exact .ok _

theorem replicated_neverRefuses (v : Value) (count : Int) : NeverRefuses (v.replicated count) := by
  unfold replicated
  split
  · exact (repeatItems_neverRefuses _ _).map _
  · exact (repeatItems_neverRefuses _ _).map _
  · exact (repeatItems_neverRefuses _ _).map _
  · exact (repeatItems_neverRefuses _ _).map _
  · exact .error rfl

theorem timesDouble_neverRefuses (n : Int) (x : Float) : NeverRefuses (timesDouble n x) := by
  unfold timesDouble
  split
  · exact .error rfl
  · exact .ok _

theorem times_neverRefuses (a b : Value) : NeverRefuses (a.times b) := by
  unfold times
  split
  · exact .ok _
  · exact timesDouble_neverRefuses _ _
  · exact timesDouble_neverRefuses _ _
  · exact .ok _
  · exact replicated_neverRefuses _ _
  · exact replicated_neverRefuses _ _
  · exact .error rfl

end Value

namespace Pagination

theorem settle_neverRefuses {settings : PageSettings} {page size : Value} {f : Fault}
    (h : (settle settings page size).refusal = some f) : f.isRefusal = false := by
  have hbounded : ∀ size, NeverRefuses (bounded settings.maxSize size) := by
    intro size
    unfold bounded
    split
    · exact .ok _
    · exact Value.lesser_neverRefuses _ _
  have hbefore : ∀ page size, NeverRefuses (rowsBefore page size) := by
    intro page size
    unfold rowsBefore
    split
    · rename_i f hf
      exact .error (Value.pred_neverRefuses page f hf)
    · exact Value.times_neverRefuses _ _
  unfold settle at h
  dsimp only at h
  split at h
  · rename_i g hg
    cases h
    exact hbounded _ _ hg
  · split at h
    · rename_i g hg
      cases h
      exact hbefore _ _ _ hg
    · cases h

/-- Nothing is kept of an input that is refused. -/
theorem look_refused {settings : PageSettings} {v : Value} {f : Fault}
    (h : (look settings v).refusal = some f) (hf : f.isRefusal = true) :
    (look settings v).kept = none := by
  have hsettled {page size : Value} (hs : (settle settings page size).refusal = some f) :
      False := by
    simp [settle_neverRefuses hs] at hf
  unfold look at h ⊢
  split
  · exact (hsettled h).elim
  · dsimp only at h ⊢
    split
    · rfl
    · rename_i hpage
      rw [if_neg hpage] at h
      split
      · rfl
      · rename_i hsize
        rw [if_neg hsize] at h
        exact (hsettled h).elim
  · rfl

end Pagination

theorem Attempt.kept_ofExcept {ρ : Type} {x : Except Fault ρ} {f : Fault}
    (h : (ofExcept x).refusal = some f) : (ofExcept x).kept = none := by
  cases x with
  | ok r => cases h
  | error g => rfl

/-- A section that has refused its input and kept nothing of it. -/
theorem Section.receive_refused {π ρ : Type} {reader : String} {look : π → Value → Attempt ρ}
    {v : Value} {s : Section π ρ} {f : Fault} (hr : s.received = none)
    (h : (s.receive reader look v).2 = .error f)
    (hkept : (look s.settings v).refusal = some f → (look s.settings v).kept = none) :
    (s.receive reader look v).1 = s.filled v none := by
  unfold receive at h ⊢
  rw [hr] at h ⊢
  dsimp only at h ⊢
  split at h
  · rename_i g hg
    cases h
    rw [hkept hg]
    rfl
  · cases h

theorem Fields.give_refused {settings : List Value} (v extra : Value) {f : Fault}
    (h : (Fields.give v extra { settings }).2 = .error f) :
    (Fields.give v extra { settings }).1 = { settings, received := some v } :=
  Section.receive_refused rfl h Attempt.kept_ofExcept

theorem Embed.give_refused (v : Value) {f : Fault} (h : (Embed.give v .new).2 = .error f) :
    (Embed.give v .new).1 = { settings := (), received := some v } :=
  Section.receive_refused rfl h Attempt.kept_ofExcept

theorem Sorting.give_refused (v : Value) {f : Fault} (h : (Sorting.give v .new).2 = .error f) :
    (Sorting.give v .new).1 = { settings := (), received := some v } :=
  Section.receive_refused rfl h Attempt.kept_ofExcept

theorem Filters.give_refused {settings : FilterSettings} (v : Value) {f : Fault}
    (h : (Filters.give v { settings }).2 = .error f) :
    (Filters.give v { settings }).1 = { settings, received := some v } :=
  Section.receive_refused rfl h Attempt.kept_ofExcept

/-- Of a page, something may have been settled when a fault of another kind turns up. -/
theorem Pagination.give_refused {settings : PageSettings} (v : Value) {f : Fault}
    (h : (Pagination.give v { settings }).2 = .error f) (hf : f.isRefusal = true) :
    (Pagination.give v { settings }).1 = { settings, received := some v } :=
  Section.receive_refused rfl h fun hr => look_refused hr hf

/-! ## One section -/

namespace AnySection

variable {s t : AnySection} {part : SectionName}

theorem give_received (h : s.isReceived = true) (arguments : List Value) :
    s.give arguments = (s, .error (.consumed s.reader)) := by
  unfold give
  rw [if_pos h]

/-- Only arguments of the wrong number leave a section as it was. -/
theorem give_unreceived (h : s.isReceived = false) (arguments : List Value) :
    s.give arguments = (s, .error .mismatch) ∨ (s.give arguments).1.isReceived = true := by
  unfold give
  rw [if_neg (by simp [h])]
  split
  · exact .inr (Section.isReceived_receive _ _ _ _)
  · exact .inr (Section.isReceived_receive _ _ _ _)
  · exact .inr (Section.isReceived_receive _ _ _ _)
  · exact .inr (Section.isReceived_receive _ _ _ _)
  · exact .inr (Section.isReceived_receive _ _ _ _)
  · exact .inr (Section.isReceived_receive _ _ _ _)
  · exact .inl rfl

theorem isReceived_give (h : s.isReceived = true) (arguments : List Value) :
    (s.give arguments).1.isReceived = true := by
  rw [give_received h]
  exact h

theorem reader_give (arguments : List Value) (s : AnySection) :
    (s.give arguments).1.reader = s.reader := by
  unfold give
  split
  · rfl
  · split <;> rfl

/-- A section of a kind that has been made from settings and has not been given anything. -/
inductive Unread : SectionName → AnySection → Prop where
  | fields (settings : List Value) : Unread .fields (.fields { settings })
  | embed : Unread .embed (.embed .new)
  | sort : Unread .sort (.sort .new)
  | filters (settings : FilterSettings) : Unread .filters (.filters { settings })
  | pagination (settings : PageSettings) : Unread .pagination (.pagination { settings })

theorem Unread.isReceived_eq (h : Unread part s) : s.isReceived = false := by
  cases h <;> rfl

theorem Unread.reader_eq (h : Unread part s) : s.reader = part.reader := by
  cases h <;> rfl

theorem unread_of_new {library : Library} {settings : Dict}
    (h : AnySection.new library part settings = .ok s) : Unread part s := by
  unfold AnySection.new at h
  dsimp only at h
  split at h
  · cases h
  · cases part with
    | fields =>
      obtain ⟨f, hf, rfl⟩ := map_eq_ok_iff.mp h
      unfold Fields.new at hf
      split at hf
      · cases hf
        exact .fields _
      · cases hf
    | embed =>
      cases h
      exact .embed
    | sort =>
      cases h
      exact .sort
    | filters =>
      obtain ⟨f, hf, rfl⟩ := map_eq_ok_iff.mp h
      unfold Filters.new at hf
      split at hf
      · cases hf
      · split at hf
        · cases hf
          exact .filters _
        · cases hf
    | pagination =>
      obtain ⟨p, hp, rfl⟩ := map_eq_ok_iff.mp h
      unfold Pagination.new at hp
      split at hp
      · cases hp
        exact .pagination _
      · split at hp
        · cases hp
        · cases hp
          exact .pagination _
        · cases hp

/-- A section that has refused its input comes to what it came to before. A page alone may have been
settled in part when a fault of another kind turns up. -/
theorem Unread.give_refused (h : Unread part s) {arguments : List Value} {f : Fault}
    (hg : s.give arguments = (t, .error f)) (hf : part = .pagination → f.isRefusal = true) :
    t.compile = s.compile ∧ t.steps = s.steps := by
  have hstate : (s.give arguments).1 = t := congrArg Prod.fst hg
  have houtcome : (s.give arguments).2 = .error f := congrArg Prod.snd hg
  subst hstate
  cases h with
  | fields settings =>
    match arguments with
    | [v] =>
      have hgiven := congrArg AnySection.fields (Fields.give_refused v .null houtcome)
      exact ⟨(congrArg compile hgiven :), (congrArg steps hgiven :)⟩
    | [v, extra] =>
      have hgiven := congrArg AnySection.fields (Fields.give_refused v extra houtcome)
      exact ⟨(congrArg compile hgiven :), (congrArg steps hgiven :)⟩
    | [] | _ :: _ :: _ :: _ => exact ⟨rfl, rfl⟩
  | embed =>
    match arguments with
    | [v] =>
      have hgiven := congrArg AnySection.embed (Embed.give_refused v houtcome)
      exact ⟨(congrArg compile hgiven :), (congrArg steps hgiven :)⟩
    | [] | _ :: _ :: _ => exact ⟨rfl, rfl⟩
  | sort =>
    match arguments with
    | [v] =>
      have hgiven := congrArg AnySection.sort (Sorting.give_refused v houtcome)
      exact ⟨(congrArg compile hgiven :), (congrArg steps hgiven :)⟩
    | [] | _ :: _ :: _ => exact ⟨rfl, rfl⟩
  | filters settings =>
    match arguments with
    | [v] =>
      have hgiven := congrArg AnySection.filters (Filters.give_refused v houtcome)
      exact ⟨(congrArg compile hgiven :), (congrArg steps hgiven :)⟩
    | [] | _ :: _ :: _ => exact ⟨rfl, rfl⟩
  | pagination settings =>
    match arguments with
    | [v] =>
      have hgiven := congrArg AnySection.pagination (Pagination.give_refused v houtcome (hf rfl))
      exact ⟨(congrArg compile hgiven :), (congrArg steps hgiven :)⟩
    | [] | _ :: _ :: _ => exact ⟨rfl, rfl⟩

/-! ## Offers, one after the other -/

/-- What a section was offered, whether it looked at it, and what it said. -/
structure Offer where
  arguments : List Value
  isTaken : Bool
  outcome : Except Fault Unit

/-- Offers arguments to a section. It takes them if it had no input before and has one then. -/
def offer (arguments : List Value) (s : AnySection) : Offer where
  arguments
  isTaken := !s.isReceived && (s.give arguments).1.isReceived
  outcome := (s.give arguments).2

/-- A section, and what it is after offers; the latest one is the first. -/
inductive Offered (s : AnySection) : List Offer → AnySection → Prop where
  | nothing : Offered s [] s
  | next {offers : List Offer} {t : AnySection} (h : Offered s offers t) (arguments : List Value) :
      Offered s (t.offer arguments :: offers) (t.give arguments).1

theorem isTaken_offer_iff {arguments : List Value} :
    (s.offer arguments).isTaken = true ↔
      s.isReceived = false ∧ (s.give arguments).1.isReceived = true := by
  simp [offer]

namespace Offered

variable {offers : List Offer} {o : Offer}

theorem reader_eq (h : Offered s offers t) : t.reader = s.reader := by
  induction h with
  | nothing => rfl
  | next _ arguments ih => exact (reader_give arguments _).trans ih

theorem isReceived_of_taken (h : Offered s offers t) (ho : o ∈ offers) (htaken : o.isTaken = true) :
    t.isReceived = true := by
  induction h with
  | nothing => cases ho
  | next _ arguments ih =>
    rcases List.mem_cons.mp ho with rfl | ho
    · exact (isTaken_offer_iff.mp htaken).2
    · exact isReceived_give (ih ho) arguments

theorem not_taken (h : Offered s offers t) (ht : t.isReceived = false) (ho : o ∈ offers) :
    o.isTaken = false := by
  refine Bool.eq_false_iff.mpr fun htaken => ?_
  rw [h.isReceived_of_taken ho htaken] at ht
  cases ht

/-- A section that was offered nothing it took is what it was. -/
theorem untouched (h : Offered s offers t) (hs : s.isReceived = false)
    (hnone : ∀ o ∈ offers, o.isTaken = false) : t = s := by
  induction h with
  | nothing => rfl
  | @next offers t _ arguments ih =>
    obtain rfl := ih fun o ho => hnone o (List.mem_cons_of_mem _ ho)
    rcases give_unreceived hs arguments with hmismatch | hreceived
    · rw [hmismatch]
    · have hnot := hnone _ List.mem_cons_self
      rw [isTaken_offer_iff.mpr ⟨hs, hreceived⟩] at hnot
      cases hnot

/-- A section that took an offer is what `give` makes of it, whatever was offered before and after.
-/
theorem accepted (h : Offered s offers t) (hs : s.isReceived = false) (ho : o ∈ offers)
    (htaken : o.isTaken = true) : s.give o.arguments = (t, o.outcome) := by
  induction h with
  | nothing => cases ho
  | @next offers t hoffered arguments ih =>
    rcases List.mem_cons.mp ho with rfl | ho
    · have hfree := (isTaken_offer_iff.mp htaken).1
      obtain rfl := hoffered.untouched hs fun o ho => hoffered.not_taken hfree ho
      rfl
    · rw [give_received (hoffered.isReceived_of_taken ho htaken)]
      exact ih ho

theorem countP_taken_le (h : Offered s offers t) : offers.countP (·.isTaken) ≤ 1 := by
  induction h with
  | nothing => exact Nat.zero_le 1
  | @next offers t hoffered arguments ih =>
    rw [List.countP_cons]
    cases ht : t.isReceived with
    | true => simpa [offer, ht] using ih
    | false =>
      have hnone : offers.countP (·.isTaken) = 0 :=
        List.countP_eq_zero.mpr fun o ho => by simp [hoffered.not_taken ht ho]
      rw [hnone]
      split <;> omega

/-- After an offer that was taken, all others are refused as such. -/
theorem pairwise_consumed (h : Offered s offers t) :
    offers.Pairwise fun later earlier =>
      earlier.isTaken = true → later.outcome = .error (.consumed s.reader) := by
  induction h with
  | nothing => exact .nil
  | next hoffered arguments ih =>
    refine List.pairwise_cons.mpr ⟨fun earlier ho htaken => ?_, ih⟩
    have hgive := give_received (hoffered.isReceived_of_taken ho htaken) arguments
    rw [hoffered.reader_eq] at hgive
    exact congrArg Prod.snd hgive

end Offered
end AnySection

/-! ## A section and its copies -/

namespace Family

open AnySection

/-- What can be asked of the sections of a family. -/
inductive Request where
  /-- A section is given arguments. -/
  | give (name : String) (arguments : List Value)
  /-- A section is compiled. -/
  | compile (name : String)
  /-- A section is asked what it does to a handle. -/
  | steps (name : String)
  /-- A section is asked for its input in the final form. -/
  | final (name : String)
  /-- A section is copied to a name. -/
  | copy (name other : String)

namespace Request

def subject : Request → String
  | .give name _ => name
  | .compile name => name
  | .steps name => name
  | .final name => name
  | .copy name _ => name

/-- The name that may have another section after the request. -/
def target? : Request → Option String
  | .give name _ => some name
  | .copy _ other => some other
  | _ => none

end Request

inductive Answer where
  | given (outcome : Except Fault Unit)
  | compiled (outcome : Except Fault SectionResult)
  | steps (outcome : Except Fault (List Step))
  | final (v : Value)
  | copied
  | missing

def answer (family : Family) (r : Request) : Family × Answer :=
  match family.get? r.subject with
  | none => (family, .missing)
  | some s =>
    match r with
    | .give name arguments =>
      let (t, outcome) := s.give arguments
      (family.put name t, .given outcome)
    | .compile _ => (family, .compiled s.compile)
    | .steps _ => (family, .steps s.steps)
    | .final _ => (family, .final s.final)
    | .copy _ other => (family.put other s, .copied)

/-- The family after requests; the latest one is the first. -/
def after (family : Family) : List Request → Family
  | [] => family
  | r :: earlier => ((after family earlier).answer r).1

/-- What has been offered to the section of a name: to itself, or to what it is a copy of before it
was copied. The latest offer is the first. -/
def offersTo (family : Family) (name : String) : List Request → List Offer
  | [] => []
  | r :: earlier =>
    match (after family earlier).get? r.subject, r with
    | some s, .give n arguments =>
      if n = name then s.offer arguments :: offersTo family name earlier
      else offersTo family name earlier
    | some _, .copy n other =>
      if other = name then offersTo family n earlier else offersTo family name earlier
    | _, _ => offersTo family name earlier

variable {family : Family} {name : String} {r : Request}

theorem get?_put (family : Family) (name other : String) (s : AnySection) :
    (family.put name s).get? other = if name = other then some s else family.get? other :=
  lookup_replaced family name other s

/-- A request changes no section but that of its target. -/
theorem get?_answer (family : Family) (h : r.target? ≠ some name) :
    (family.answer r).1.get? name = family.get? name := by
  unfold answer
  split
  · rfl
  · cases r with
    | give n arguments => exact (get?_put _ _ _ _).trans (if_neg fun he => h (congrArg some he))
    | copy n other => exact (get?_put _ _ _ _).trans (if_neg fun he => h (congrArg some he))
    | compile n => rfl
    | steps n => rfl
    | final n => rfl

/-- What a section answers depends on nothing but the section. -/
theorem answer_congr {other : Family} (h : family.get? r.subject = other.get? r.subject) :
    (family.answer r).2 = (other.answer r).2 := by
  unfold answer
  rw [h]
  split
  · rfl
  · cases r <;> rfl

theorem get?_after (family : Family) {later : List Request}
    (h : ∀ r ∈ later, r.target? ≠ some name) (earlier : List Request) :
    (after family (later ++ earlier)).get? name = (after family earlier).get? name := by
  induction later with
  | nil => rfl
  | cons r rest ih =>
    exact (get?_answer _ (h r List.mem_cons_self)).trans
      (ih fun r hr => h r (List.mem_cons_of_mem _ hr))

/-- Every section of a family comes from the first one, by what has been offered to it. -/
theorem offered_after {root : String} {s t : AnySection} {requests : List Request}
    (h : (after [(root, s)] requests).get? name = some t) :
    Offered s (offersTo [(root, s)] name requests) t := by
  induction requests generalizing name t with
  | nil =>
    have hone : (after [(root, s)] []).get? name = if root = name then some s else none :=
      get?_put [] root name s
    rw [hone] at h
    split at h
    · cases h
      exact .nothing
    · cases h
  | cons r earlier ih =>
    have hafter : after [(root, s)] (r :: earlier) = ((after [(root, s)] earlier).answer r).1 := rfl
    rw [hafter] at h
    unfold answer at h
    unfold offersTo
    cases hsubject : (after [(root, s)] earlier).get? r.subject with
    | none =>
      rw [hsubject] at h
      exact ih h
    | some u =>
      rw [hsubject] at h
      cases r with
      | give n arguments =>
        have hput := (get?_put _ n name _).symm.trans h
        dsimp only
        split
        · rename_i hn
          rw [if_pos hn] at hput
          cases hput
          exact .next (ih (hn ▸ hsubject)) arguments
        · rename_i hn
          rw [if_neg hn] at hput
          exact ih hput
      | copy n other =>
        have hput := (get?_put _ other name u).symm.trans h
        dsimp only
        split
        · rename_i hn
          rw [if_pos hn] at hput
          cases hput
          exact ih hsubject
        · rename_i hn
          rw [if_neg hn] at hput
          exact ih hput
      | compile n => exact ih h
      | steps n => exact ih h
      | final n => exact ih h

/-- What a new section of a kind is after offers, the latest one first. -/
structure LivesOnce (part : SectionName) (s : AnySection) (offers : List Offer) (t : AnySection) :
    Prop where
  /-- At most one offer is taken. -/
  once : offers.countP (·.isTaken) ≤ 1
  /-- Every offer after that one is refused as such. -/
  later : offers.Pairwise fun later earlier =>
    earlier.isTaken = true → later.outcome = .error (.consumed part.reader)
  /-- The section is what the new one becomes when it is given what was taken. -/
  accepted : ∀ o ∈ offers, o.isTaken = true → s.give o.arguments = (t, o.outcome)
  /-- It comes to what the new one comes to if that was refused. A page alone may be settled in
  part, when a fault of another kind turns up. -/
  refused : ∀ o ∈ offers, o.isTaken = true → ∀ f, o.outcome = .error f →
    (part = .pagination → f.isRefusal = true) → t.compile = s.compile ∧ t.steps = s.steps
  /-- It is still the new one if nothing was taken. -/
  untouched : (∀ o ∈ offers, o.isTaken = false) → t = s

theorem livesOnce_of_offered {part : SectionName} {s t : AnySection} {offers : List Offer}
    (hnew : Unread part s) (h : Offered s offers t) : LivesOnce part s offers t where
  once := h.countP_taken_le
  later := hnew.reader_eq ▸ h.pairwise_consumed
  accepted := fun _ ho htaken => h.accepted hnew.isReceived_eq ho htaken
  refused := fun _ ho htaken _ hf hkind =>
    hnew.give_refused (hf ▸ h.accepted hnew.isReceived_eq ho htaken) hkind
  untouched := h.untouched hnew.isReceived_eq

/-- A section that has taken an offer refuses all others, and they change nothing. -/
theorem answer_consumed {s : AnySection} (hs : family.get? name = some s)
    (hreceived : s.isReceived = true) (arguments : List Value) :
    (family.answer (.give name arguments)).2 = .given (.error (.consumed s.reader)) ∧
      ∀ other, (family.answer (.give name arguments)).1.get? other = family.get? other := by
  have hanswer : family.answer (.give name arguments)
      = (family.put name s, .given (.error (.consumed s.reader))) := by
    unfold answer
    rw [Request.subject, hs]
    dsimp only
    rw [give_received hreceived]
  rw [hanswer]
  refine ⟨rfl, fun other => ?_⟩
  rw [get?_put]
  split
  · rename_i hname
    exact (hname ▸ hs).symm
  · rfl

/-- A new section and its copies, after any requests. Each of them lives once; when it has taken an
offer, itself or as what it is a copy of, it refuses all others and they change nothing; and nothing
that is asked of other sections changes its answers. -/
theorem lineage_once {library : Library} {part : SectionName} {settings : Dict} {s : AnySection}
    (hnew : AnySection.new library part settings = .ok s) (root : String) (requests : List Request)
    {name : String} {t : AnySection} (ht : (after [(root, s)] requests).get? name = some t) :
    LivesOnce part s (offersTo [(root, s)] name requests) t ∧
    (∀ o ∈ offersTo [(root, s)] name requests, o.isTaken = true → ∀ arguments,
      let (next, a) := (after [(root, s)] requests).answer (.give name arguments)
      a = .given (.error (.consumed part.reader)) ∧
        ∀ other, next.get? other = (after [(root, s)] requests).get? other) ∧
    ∀ later : List Request, (∀ r ∈ later, r.target? ≠ some name) → ∀ r : Request, r.subject = name →
      ((after [(root, s)] (later ++ requests)).answer r).2
        = ((after [(root, s)] requests).answer r).2 := by
  have hunread := unread_of_new hnew
  have hoffered := offered_after ht
  refine ⟨livesOnce_of_offered hunread hoffered, fun o ho htaken arguments => ?_,
    fun later hlater r hr => ?_⟩
  · have hreader : t.reader = part.reader := hoffered.reader_eq.trans hunread.reader_eq
    rw [← hreader]
    exact answer_consumed ht (hoffered.isReceived_of_taken ho htaken) arguments
  · subst hr
    exact answer_congr (get?_after _ hlater requests)

/-- A sort that is copied before and after an input that it refuses. The first copy is then given
another input, and so is the second one. -/
def sortCopies : List Request :=
  [.give "c" [.list [.text "name"]], .give "b" [.list [.text "-age"]], .copy "a" "c",
    .give "a" [.text "age"], .copy "a" "b"]

/-- The first copy sorts, the second one has nothing left to take. -/
theorem sortCopies_once :
    (∃ t, (after [("a", .sort .new)] sortCopies).get? "b" = some t ∧
      LivesOnce .sort (.sort .new) (offersTo [("a", .sort .new)] "b" sortCopies) t ∧
      t.compile = .ok (.order (some [("age", -1)]))) ∧
    ∃ t, (after [("a", .sort .new)] sortCopies).get? "c" = some t ∧
      LivesOnce .sort (.sort .new) (offersTo [("a", .sort .new)] "c" sortCopies) t ∧
      (offersTo [("a", .sort .new)] "c" sortCopies).map (fun o => (o.isTaken, o.outcome))
        = [(false, .error (.consumed "MongoSort")),
          (true, .error (.input (.notArray "sort" .text)))] ∧
      t.compile = .ok (.order none) := by
  have hnew : AnySection.new Sample.library .sort [] = .ok (.sort .new) := rfl
  refine ⟨⟨_, rfl, (lineage_once hnew "a" sortCopies rfl).1, rfl⟩,
    ⟨_, rfl, (lineage_once hnew "a" sortCopies rfl).1, rfl, rfl⟩⟩

end Family
end QueryOptions
