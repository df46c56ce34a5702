import QueryOptions.Section.Intake
import QueryOptions.Call
import QueryOptions.Notice

/-!
# QueryOptions.Section.Sorting

The `sort` section: the order of the rows. A term is a field, with a minus sign in front for
descending order, or a mapping of one field to its direction. Terms that say nothing are passed
over; a direction that is none is noticed. A field that is mentioned again keeps its place and
takes the new direction.
-/

namespace QueryOptions

/-- The `sort` section; its reading is a spec, or none for no order at all. -/
abbrev Sorting := Section Unit (Option SortSpec)

namespace Sorting

def new : Sorting := { settings := () }

def namedDirection? (name : String) : Option Int :=
  if name = "desc" then some (-1)
  else if name = "asc" then some 1
  else if name = "default" then some 1
  else none

/-- The direction that a value gives: a whole number, or a name. -/
def direction? : Value → Option Int
  | .int n => some n
  | .float x => Decimal.wholeOf? x
  | .text s => namedDirection? s
  | _ => none

inductive Term where
  /-- A field has a direction. -/
  | order (field : Value) (direction : Int)
  /-- A field is given something that is no direction. -/
  | odd (field : Value) (direction : Value)
  /-- Nothing. -/
  | idle
deriving Repr

/-- Reads a field with an optional minus sign. -/
def Term.ofText (s : String) : Term :=
  match s.toList with
  | '-' :: rest => .order (.text (String.ofList rest)) (-1)
  | _ => .order (.text s) 1

def Term.ofEntry (field direction : Value) : Term :=
  match direction? direction with
  | some d => .order field d
  | none => .odd field direction

def Term.ofValue : Value → Except Fault Term
  | .text s => .ok (.ofText s)
  | .dict [] => .ok .idle
  | .dict [(field, direction)] => .ok (.ofEntry field direction)
  | .dict _ => .error (.input .sortTerm)
  | _ => .ok .idle

/-- What is written about a direction that is none. -/
def oddNotice (field direction : Value) : Notice :=
  ⟨.sort, "Ignoring sort direction " ++ direction.written ++ " for field " ++ field.written⟩

def takeTerms : SortSpec → List Value → List Notice × Except Fault SortSpec
  | spec, [] => ([], .ok spec)
  | spec, v :: rest =>
    match Term.ofValue v with
    | .error f => ([], .error f)
    | .ok (.order field direction) => takeTerms (spec.put field direction) rest
    | .ok (.odd field direction) =>
      let (notices, outcome) := takeTerms spec rest
      (oddNotice field direction :: notices, outcome)
    | .ok .idle => takeTerms spec rest

/-- Reads terms; an absent list of terms means no order at all. -/
def read (v : Value) : List Notice × Except Fault (Option SortSpec) :=
  if v.isFalsy then ([], .ok none)
  else
    match v.array? with
    | none => ([], .error (.input (.notArray SectionName.sort.text v.kind)))
    | some terms =>
      let (notices, outcome) := takeTerms [] terms
      (notices, outcome.map some)

def give (v : Value) (s : Sorting) : Sorting × Except Fault Unit :=
  s.receive SectionName.sort.reader (fun _ w => .ofExcept (read w).2) v

/-- What is noticed when the section is given an input: nothing if one came before. -/
def notices (v : Value) (s : Sorting) : List Notice := if s.isReceived then [] else (read v).1

/-- The spec, none for no order at all. -/
def compile (s : Sorting) : Option SortSpec := s.reading.getD none

/-- The steps for a spec: none without one. -/
def stepsOf : Option SortSpec → List Step
  | none => []
  | some spec => [.sort spec]

def steps (s : Sorting) : List Step := stepsOf s.compile

/-- The terms of a spec: each field, with a minus sign in front if its direction is negative. -/
def terms (spec : SortSpec) : List Value :=
  spec.map fun e => .text (if e.2 < 0 then "-" ++ e.1.plain else e.1.plain)

def final (s : Sorting) : Value := .list (terms (s.compile.getD []))

def spec (v : Value) : Except Fault (Option SortSpec) :=
  let (s, outcome) := give v new
  match outcome with
  | .error f => .error f
  | .ok _ => .ok s.compile

end Sorting
end QueryOptions
