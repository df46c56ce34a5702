import QueryOptions.Proofs.Executions

/-!
# QueryOptions.Proofs.RefusedSteps

Queries on rows that stay in use after a step has been refused. A step works on the query in place:
it goes through names one by one, keeps what it has found so far beside the query, and may be
refused at any name, with all that was found before it (`Documents.goThrough`). Only after the last
name is anything stored. So a refused step leaves no trace, and whatever the query is used for later
comes to the same as if the step had not been tried.

* `goThrough_handle`, `goThrough_outcome`: the query is not touched on the way, and the first name
  that is not known is refused;
* `attempt_eq_take`: in place, a step does what it does otherwise;
* `attempt_outcome`: the fault of a step is that of its first unknown name (`Model.refusal?`);
* `refused_step_forgotten`: a refused step in a whole course of uses.
-/

namespace QueryOptions
namespace Store

/-! ## Names that are not known -/

/-- Whether a term of a sort names the key or a column. -/
def Shape.isTerm (s : Shape) (term : Value × Int) : Bool := term.1.text?.any s.isName

namespace Model

/-- Some name in a step is not known. A projection may have names of the key, of columns and of
relationships, the fields of a relationship those of its own key and columns, and a sort those of
the key and of columns. -/
def Unknown (m : Model) : Step → Prop
  | .select projection => ∃ name ∈ Text.words projection, m.isName name = false
  | .populate relation fields =>
    m.relationship? relation = none ∨
      ∃ r, m.relationship? relation = some r ∧
        ∃ name ∈ Text.words (fields.getD ""), r.target.isName name = false
  | .sort spec => ∃ term ∈ spec, m.shape.isTerm term = false
  | .limit _ | .skip _ => False

/-- The fault of the first name in a step that is not known. -/
def refusal? (m : Model) : Step → Option Fault
  | .select projection =>
    ((Text.words projection).find? fun name => !m.isName name).map fun name =>
      .invalidColumn m.shape.title (.text name) .fields
  | .populate relation fields =>
    match m.relationship? relation with
    | none => some (.invalidRelation m.shape.title (.text relation) .embed)
    | some r =>
      ((Text.words (fields.getD "")).find? fun name => !r.target.isName name).map fun name =>
        .invalidColumn r.target.title (.text name) .embed
  | .sort spec =>
    (spec.find? fun term => !m.shape.isTerm term).map fun term =>
      .invalidColumn m.shape.title term.1 .sort
  | .limit _ | .skip _ => none

theorem exists_map_find? {κ : Type} (known : κ → Bool) (fault : κ → Fault) (keys : List κ) :
    (∃ f, (keys.find? fun key => !known key).map fault = some f) ↔
      ∃ key ∈ keys, known key = false := by
  rw [← Option.isSome_iff_exists, Option.isSome_map, List.find?_isSome]
  simp

theorem exists_refusal_iff (m : Model) (s : Step) :
    (∃ f, m.refusal? s = some f) ↔ m.Unknown s := by
  cases s with
  | select projection => exact exists_map_find? _ _ _
  | populate relation fields =>
    dsimp only [refusal?, Unknown]
    cases m.relationship? relation with
    | none => simp
    | some r =>
      dsimp only
      rw [exists_map_find?]
      simp
  | sort spec => exact exists_map_find? _ _ _
  | limit count | skip count => simp [refusal?, Unknown]

/-- A name that is not known is refused as a column or as a relation. -/
theorem class_of_refusal {m : Model} {s : Step} {f : Fault} (h : m.refusal? s = some f) :
    f.class? = some .column ∨ f.class? = some .relation := by
  cases s with
  | select projection | sort spec =>
    obtain ⟨_, -, rfl⟩ := Option.map_eq_some_iff.mp h
    exact .inl rfl
  | populate relation fields =>
    dsimp only [refusal?] at h
    split at h
    · cases h
      exact .inr rfl
    · obtain ⟨_, -, rfl⟩ := Option.map_eq_some_iff.mp h
      exact .inl rfl
  | limit count | skip count => cases h

/-! ### One name -/

/-- What a projection takes of a name: a column, or nothing. -/
def look (m : Model) (name : String) : Except Fault (Option String) :=
  if name = "_id" then .ok none
  else if (m.shape.column? name).isSome then .ok (some name)
  else if (m.relationship? name).isSome then .ok none
  else .error (.invalidColumn m.shape.title (.text name) .fields)

end Model

namespace Shape

/-- What the fields of a relationship take of a name: a column, or nothing. -/
def look (s : Shape) (name : String) : Except Fault (Option String) :=
  if name = "_id" then .ok none
  else if (s.column? name).isSome then .ok (some name)
  else .error (.invalidColumn s.title (.text name) .embed)

def lookTerm (s : Shape) (term : Value × Int) : Except Fault (Option (Column × Int)) :=
  (resolveColumn s term.1 .sort).map fun c => some (c, term.2)

end Shape

/-- A key is refused just if it is not known. -/
def Refuses {κ α : Type} (look : κ → Except Fault (Option α)) (known : κ → Bool)
    (fault : κ → Fault) : Prop :=
  ∀ key, (known key = true ∧ ∃ found, look key = .ok found) ∨
    (known key = false ∧ look key = .error (fault key))

theorem Model.look_refuses (m : Model) :
    Refuses m.look m.isName fun name => .invalidColumn m.shape.title (.text name) .fields := by
  intro name
  unfold look isName
  split
  · rename_i hkey
    exact .inl ⟨by simp [hkey], none, rfl⟩
  · split
    · rename_i hcolumn
      exact .inl ⟨by simp [hcolumn], some name, rfl⟩
    · split
      · rename_i hrelation
        exact .inl ⟨by simp [hrelation], none, rfl⟩
      · rename_i hkey hcolumn hrelation
        exact .inr ⟨by simp [hkey, hcolumn, hrelation], rfl⟩

theorem Shape.look_refuses (s : Shape) :
    Refuses s.look s.isName fun name => .invalidColumn s.title (.text name) .embed := by
  intro name
  unfold look isName
  split
  · rename_i hkey
    exact .inl ⟨by simp [hkey], none, rfl⟩
  · split
    · rename_i hcolumn
      exact .inl ⟨by simp [hcolumn], some name, rfl⟩
    · rename_i hkey hcolumn
      exact .inr ⟨by simp [hkey, hcolumn], rfl⟩

theorem Shape.isSome_resolve? (s : Shape) (name : String) :
    (s.resolve? name).isSome = s.isName name := by
  unfold resolve? isName
  split
  · rename_i hkey
    simp [hkey]
  · rename_i hkey
    simp [hkey]

theorem Shape.lookTerm_refuses (s : Shape) :
    Refuses s.lookTerm s.isTerm fun term => .invalidColumn s.title term.1 .sort := by
  rintro ⟨key, direction⟩
  have hknown : s.isTerm (key, direction) = (key.text?.bind s.resolve?).isSome := by
    unfold isTerm
    cases key.text? with
    | none => rfl
    | some name => exact (s.isSome_resolve? name).symm
  rw [hknown]
  unfold lookTerm resolveColumn
  cases key.text?.bind s.resolve? with
  | none => exact .inr ⟨rfl, rfl⟩
  | some c => exact .inl ⟨rfl, some (c, direction), rfl⟩

namespace Documents

/-! ## Going through names -/

/-- A query while keys are gone through, with what has been found for them so far. -/
structure Search (α : Type) where
  handle : Documents
  found : List α := []

section Search

variable {κ α : Type} {look : κ → Except Fault (Option α)} {known : κ → Bool} {fault : κ → Fault}

/-- Goes through keys, up to the first one that is refused. -/
def goThrough (look : κ → Except Fault (Option α)) :
    List κ → Search α → Act Notice (Search α) Unit
  | [], s => .done s (.ok ())
  | key :: rest, s =>
    match look key with
    | .error f => .done s (.error f)
    | .ok found => goThrough look rest { s with found := s.found ++ found.toList }

/-- Goes through keys, and after the last one stores what has been found for them. -/
def storeAll (look : κ → Except Fault (Option α)) (keys : List κ)
    (put : List α → Documents → Documents) (q : Documents) : Act Notice Documents Unit :=
  let a := goThrough look keys { handle := q }
  match a.outcome with
  | .error f => .done a.state.handle (.error f)
  | .ok _ => .done (put a.state.found a.state.handle) (.ok ())

/-- However far it gets, going through keys does not touch the query. -/
theorem goThrough_handle (keys : List κ) (s : Search α) :
    (goThrough look keys s).state.handle = s.handle := by
  induction keys generalizing s with
  | nil => rfl
  | cons key rest ih =>
    unfold goThrough
    split
    · rfl
    · exact ih _

/-- The first key that is not known is refused. -/
theorem goThrough_outcome (h : Refuses look known fault) (keys : List κ) (s : Search α) :
    (goThrough look keys s).outcome =
      match (keys.find? fun key => !known key).map fault with
      | none => .ok ()
      | some f => .error f := by
  induction keys generalizing s with
  | nil => rfl
  | cons key rest ih =>
    unfold goThrough
    rcases h key with ⟨hknown, found, hfound⟩ | ⟨hknown, hfault⟩
    · rw [hfound, List.find?_cons_of_neg (by simp [hknown])]
      exact ih _
    · rw [hfault, List.find?_cons_of_pos (by simp [hknown])]
      rfl

/-- A recursion puts what is found for a key before what is found for the rest. In place the keys
come to the same, with what was found before them in front. -/
theorem goThrough_of_cons {collect : List κ → Except Fault (List α)} (hnil : collect [] = .ok [])
    (hcons : ∀ key rest, collect (key :: rest)
      = (look key).bind fun found => (collect rest).map (found.toList ++ ·))
    (keys : List κ) (s : Search α) :
    (∃ f, collect keys = .error f ∧ (goThrough look keys s).outcome = .error f) ∨
      ∃ found, collect keys = .ok found ∧
        goThrough look keys s = .done { s with found := s.found ++ found } (.ok ()) := by
  induction keys generalizing s with
  | nil => exact .inr ⟨[], hnil, by rw [List.append_nil]; rfl⟩
  | cons key rest ih =>
    rw [hcons]
    unfold goThrough
    cases look key with
    | error f => exact .inl ⟨f, rfl, rfl⟩
    | ok first =>
      rcases ih { s with found := s.found ++ first.toList } with
        ⟨f, hrest, houtcome⟩ | ⟨found, hrest, hdone⟩
      · exact .inl ⟨f, by simp [Except.bind, hrest, Except.map], houtcome⟩
      · refine .inr ⟨first.toList ++ found, by simp [Except.bind, hrest, Except.map], ?_⟩
        dsimp only
        rw [hdone, List.append_assoc]

variable {put : List α → Documents → Documents} {q : Documents}

theorem storeAll_outcome (h : Refuses look known fault) (keys : List κ) :
    (storeAll look keys put q).outcome =
      match (keys.find? fun key => !known key).map fault with
      | none => .ok ()
      | some f => .error f := by
  rw [← goThrough_outcome h keys { handle := q }]
  unfold storeAll
  dsimp only
  split
  · rename_i f hf
    exact hf.symm
  · rename_i hok
    exact hok.symm

theorem storeAll_of_cons (collect : List κ → Except Fault (List α)) (hnil : collect [] = .ok [])
    (hcons : ∀ key rest, collect (key :: rest)
      = (look key).bind fun found => (collect rest).map (found.toList ++ ·)) (keys : List κ) :
    storeAll look keys put q =
      match collect keys with
      | .error f => .done q (.error f)
      | .ok found => .done (put found q) (.ok ()) := by
  have hhandle : (goThrough look keys { handle := q }).state.handle = q := goThrough_handle keys _
  unfold storeAll
  rcases goThrough_of_cons hnil hcons keys { handle := q } with
    ⟨f, hcollect, houtcome⟩ | ⟨found, hcollect, hdone⟩
  · dsimp only
    rw [hcollect, houtcome, hhandle]
  · rw [hcollect, hdone]
    rfl

end Search

/-! ## Steps in place -/

/-- Takes a step in place. Where it is refused, the query is left behind as it is then. -/
def attempt : Step → Documents → Act Notice Documents Unit
  | .select projection, q =>
    storeAll q.model.look (Text.words projection) (fun found q => { q with columns := found }) q
  | .populate relation fields, q =>
    match q.model.relationship? relation with
    | none => .done q (.error (.invalidRelation q.model.shape.title (.text relation) .embed))
    | some r =>
      storeAll r.target.look (Text.words (fields.getD ""))
        (fun found q => { q with relations := putRelation q.relations relation found }) q
  | .sort spec, q =>
    storeAll q.model.shape.lookTerm spec (fun found q => { q with order := found }) q
  | .limit count, q => .done (q.withLimit count) (.ok ())
  | .skip count, q => .done (q.withSkip count) (.ok ())

theorem selectedColumns_cons (m : Model) (name : String) (rest : List String) :
    selectedColumns m (name :: rest)
      = (m.look name).bind fun found => (selectedColumns m rest).map (found.toList ++ ·) := by
  rw [selectedColumns]
  unfold Model.look
  split
  · cases selectedColumns m rest <;> rfl
  · split
    · cases selectedColumns m rest <;> rfl
    · split
      · cases selectedColumns m rest <;> rfl
      · rfl

theorem relatedColumns_cons (target : Shape) (name : String) (rest : List String) :
    relatedColumns target (name :: rest)
      = (target.look name).bind fun found =>
          (relatedColumns target rest).map (found.toList ++ ·) := by
  rw [relatedColumns]
  unfold Shape.look
  split
  · cases relatedColumns target rest <;> rfl
  · split
    · cases relatedColumns target rest <;> rfl
    · rfl

theorem orderOf_cons (shape : Shape) (term : Value × Int) (rest : SortSpec) :
    orderOf shape (term :: rest)
      = (shape.lookTerm term).bind fun found => (orderOf shape rest).map (found.toList ++ ·) := by
  obtain ⟨name, direction⟩ := term
  rw [orderOf]
  unfold Shape.lookTerm
  cases resolveColumn shape name .sort with
  | error f => rfl
  | ok c => cases orderOf shape rest <;> rfl

/-- In place, a step leads where it leads otherwise, or it is refused and leads nowhere. -/
theorem attempt_eq_take (s : Step) (q : Documents) :
    q.attempt s =
      match q.take s with
      | .error f => .done q (.error f)
      | .ok d => .done d (.ok ()) := by
  cases s with
  | select projection =>
    unfold attempt take select
    dsimp only
    rw [storeAll_of_cons (selectedColumns q.model) rfl (selectedColumns_cons q.model)]
    cases selectedColumns q.model (Text.words projection) <;> rfl
  | populate relation fields =>
    unfold attempt take populate
    dsimp only
    cases q.model.relationship? relation with
    | none => rfl
    | some r =>
      dsimp only
      rw [storeAll_of_cons (relatedColumns r.target) rfl (relatedColumns_cons r.target)]
      cases relatedColumns r.target (Text.words (fields.getD "")) <;> rfl
  | sort spec =>
    unfold attempt take sort
    dsimp only
    rw [storeAll_of_cons (orderOf q.model.shape) rfl (orderOf_cons q.model.shape)]
    cases orderOf q.model.shape spec <;> rfl
  | limit count | skip count => rfl

theorem attempt_outcome (s : Step) (q : Documents) :
    (q.attempt s).outcome =
      match q.model.refusal? s with
      | none => .ok ()
      | some f => .error f := by
  cases s with
  | select projection => exact storeAll_outcome q.model.look_refuses _
  | populate relation fields =>
    dsimp only [attempt, Model.refusal?]
    cases q.model.relationship? relation with
    | none => rfl
    | some r => exact storeAll_outcome r.target.look_refuses _
  | sort spec => exact storeAll_outcome q.model.shape.lookTerm_refuses _
  | limit count | skip count => rfl

theorem take_error_iff {q : Documents} {s : Step} {f : Fault} :
    q.take s = .error f ↔ q.model.refusal? s = some f := by
  have houtcome := attempt_outcome s q
  rw [attempt_eq_take] at houtcome
  cases htake : q.take s with
  | error g =>
    rw [htake] at houtcome
    cases hrefusal : q.model.refusal? s with
    | none => simp [hrefusal, Act.done] at houtcome
    | some h =>
      simp only [hrefusal, Act.done, Except.error.injEq] at houtcome
      simp [houtcome]
  | ok d =>
    rw [htake] at houtcome
    cases hrefusal : q.model.refusal? s with
    | none => simp
    | some h => simp [hrefusal, Act.done] at houtcome

/-! ## Courses of uses -/

/-- What a query on rows can be used for. -/
inductive Use where
  /-- It takes a step. -/
  | attempt (s : Step)
  /-- It is given a session, or none. -/
  | bind (session : Option Session)
  /-- It is run as it was made, perhaps for a callback. -/
  | exec (callback : Value)
  /-- It is run for all documents. -/
  | all
  /-- It is run for the first document. -/
  | first
  /-- It is gone through. -/
  | items

inductive Answer where
  | attempted (outcome : Except Fault Unit)
  | bound
  | executed (events : List (Event Result)) (outcome : Except Fault (Option Result))
  | all (outcome : Except Fault (List Document))
  | first (outcome : Except Fault (Option Document))
  | items (notices : List Notice) (outcome : Except Fault (List (Option Document)))

def answer (q : Documents) : Use → Documents × Answer
  | .attempt s =>
    let a := q.attempt s
    (a.state, .attempted a.outcome)
  | .bind session => (q.withSession session, .bound)
  | .exec callback =>
    let a := q.exec callback
    (q, .executed a.events a.outcome)
  | .all => (q, .all q.all)
  | .first => (q, .first q.first)
  | .items => (q, .items q.items.1 q.items.2)

/-- What a query comes to in one use after the other. -/
def answers (q : Documents) : List Use → List Answer
  | [] => []
  | u :: rest => (q.answer u).2 :: answers (q.answer u).1 rest

def after (q : Documents) (uses : List Use) : Documents := uses.foldl (fun q u => (q.answer u).1) q

theorem answers_append (q : Documents) (before later : List Use) :
    q.answers (before ++ later) = q.answers before ++ (q.after before).answers later := by
  induction before generalizing q with
  | nil => rfl
  | cons u rest ih => exact congrArg ((q.answer u).2 :: ·) (ih (q.answer u).1)

theorem length_answers (q : Documents) (uses : List Use) :
    (q.answers uses).length = uses.length := by
  induction uses generalizing q with
  | nil => rfl
  | cons u rest ih => exact congrArg (· + 1) (ih (q.answer u).1)

theorem answer_model (q : Documents) (u : Use) : (q.answer u).1.model = q.model := by
  cases u with
  | attempt s =>
    unfold answer
    dsimp only
    rw [attempt_eq_take]
    cases htake : q.take s with
    | error f => rfl
    | ok d => exact (take_sameRows htake).model
  | bind session => rfl
  | exec callback => rfl
  | all => rfl
  | first => rfl
  | items => rfl

theorem after_model (q : Documents) (uses : List Use) : (q.after uses).model = q.model := by
  induction uses generalizing q with
  | nil => rfl
  | cons u rest ih => exact (ih (q.answer u).1).trans (answer_model q u)

/-- A step that is tried in the course of any uses, refused ones among them. It is refused just if
some name in it is not known, as a column or as a relation. If it is refused, then all uses but the
step itself come to what they come to without it. -/
theorem refused_step_forgotten (q : Documents) (before later : List Use) (s : Step) :
    ((∃ f, (q.after before).take s = .error f) ↔ q.model.Unknown s) ∧
      ∀ f, (q.after before).take s = .error f →
        (f.class? = some .column ∨ f.class? = some .relation) ∧
        q.answers (before ++ .attempt s :: later)
          = q.answers before ++ .attempted (.error f) :: (q.after before).answers later ∧
        (q.answers (before ++ .attempt s :: later)).eraseIdx before.length
          = q.answers (before ++ later) := by
  refine ⟨?_, fun f hf => ?_⟩
  · simp only [take_error_iff, after_model]
    exact q.model.exists_refusal_iff s
  · have hstep : (q.after before).answer (.attempt s)
        = (q.after before, .attempted (.error f)) := by
      change (((q.after before).attempt s).state, Answer.attempted _) = _
      rw [attempt_eq_take, hf]
      rfl
    have hanswers : q.answers (before ++ .attempt s :: later)
        = q.answers before ++ .attempted (.error f) :: (q.after before).answers later := by
      rw [answers_append, answers, hstep]
    refine ⟨Model.class_of_refusal (take_error_iff.mp hf), hanswers, ?_⟩
    have hlength : before.length = (q.answers before).length := (length_answers q before).symm
    rw [hanswers, answers_append, hlength, List.eraseIdx_append_of_length_le (Nat.le_refl _),
      Nat.sub_self]
    rfl

/-- A relationship of which the first field is known and the second is not, tried between uses. -/
theorem halfKnownFields_forgotten :
    ∃ q, ((source (some Sample.session) (Sample.personModel "Person")).prepare
        (.find none) []).outcome = .ok q ∧
      (q.after [.attempt (.select "name"), .all]).take (.populate "tags" (some "label nope"))
        = .error (.invalidColumn "Tag" (.text "nope") .embed) ∧
      (q.answers ([.attempt (.select "name"), .all] ++
          .attempt (.populate "tags" (some "label nope")) :: [.exec .null, .first])).eraseIdx 2
        = q.answers ([.attempt (.select "name"), .all] ++ [.exec .null, .first]) := by
  have hforgotten {q : Documents}
      (h : (q.after [.attempt (.select "name"), .all]).take (.populate "tags" (some "label nope"))
        = .error (.invalidColumn "Tag" (.text "nope") .embed)) :=
    ((refused_step_forgotten q [.attempt (.select "name"), .all] [.exec .null, .first]
      (.populate "tags" (some "label nope"))).2 _ h).2.2
  exact ⟨_, rfl, rfl, hforgotten rfl⟩

end Documents
end Store
end QueryOptions
