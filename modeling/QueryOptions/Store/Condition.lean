import QueryOptions.Regex.Match
import QueryOptions.Store.Schema

/-!
# QueryOptions.Store.Condition

Conditions on rows. A condition is true, false or unknown of a row: comparisons with null are
unknown, and the connectives follow from that. Rows of which a condition is true are selected.

The database may fail while it looks at a row: a regular expression is looked for in a number, or is
none. A part of a condition is only looked at if the parts before it leave the outcome open; `fails`
says whether a part that fails is looked at.
-/

namespace QueryOptions
namespace Store

/-- True, false or unknown. -/
abbrev Truth := Option Bool

namespace Truth

/-- True if both are, false if one is. -/
def both : Truth → Truth → Truth
  | some false, _ => some false
  | _, some false => some false
  | some true, t => t
  | none, _ => none

/-- True if one is, false if both are. -/
def either : Truth → Truth → Truth
  | some true, _ => some true
  | _, some true => some true
  | some false, t => t
  | none, _ => none

def negate (t : Truth) : Truth := t.map not

/-- True or false, with a choice for unknown. -/
def settle (unknown : Bool) (t : Truth) : Bool := t.getD unknown

theorem both_true (t : Truth) : both (some true) t = t := by
  cases t with
  | none => rfl
  | some b => cases b <;> rfl

theorem either_false (t : Truth) : either (some false) t = t := by
  cases t with
  | none => rfl
  | some b => cases b <;> rfl

theorem settle_both (unknown : Bool) (s t : Truth) :
    settle unknown (both s t) = (settle unknown s && settle unknown t) := by
  rcases s with _ | _ | _ <;> rcases t with _ | _ | _ <;> cases unknown <;> rfl

theorem settle_either (unknown : Bool) (s t : Truth) :
    settle unknown (either s t) = (settle unknown s || settle unknown t) := by
  rcases s with _ | _ | _ <;> rcases t with _ | _ | _ <;> cases unknown <;> rfl

theorem settle_negate (unknown : Bool) (t : Truth) :
    settle unknown (negate t) = !settle (!unknown) t := by
  rcases t with _ | _ | _ <;> cases unknown <;> rfl

end Truth

/-- Comparisons of a column with a value. -/
inductive Comparison where
  | equal
  | less
  | atMost
  | greater
  | atLeast
deriving DecidableEq, Repr

def Comparison.holds : Comparison → Ordering → Bool
  | .equal, o => o == .eq
  | .less, o => o == .lt
  | .atMost, o => o != .gt
  | .greater, o => o == .gt
  | .atLeast, o => o != .lt

/-- A condition on rows. -/
inductive Condition where
  | always
  | never
  /-- The column is null. -/
  | isNull (c : Column)
  /-- The column compares so with a value. -/
  | compare (c : Column) (comparison : Comparison) (v : Value)
  /-- The column is not the value; null is not any value but null. -/
  | differs (c : Column) (v : Value)
  /-- The column equals one of the values. -/
  | member (c : Column) (items : List Value)
  /-- A regular expression is found in the column. -/
  | found (c : Column) (pattern : String)
  | both (a b : Condition)
  | either (a b : Condition)
  | negated (a : Condition)
  /-- The database cannot read the condition. -/
  | malformed
deriving Repr

namespace Condition

/-! ## Building -/

/-- Both conditions. What always holds adds nothing, and what never holds outweighs all else. -/
def andAlso : Condition → Condition → Condition
  | .never, _ => .never
  | _, .never => .never
  | .always, b => b
  | a, .always => a
  | a, b => .both a b

/-- One of two conditions. What never holds adds nothing, and what always holds outweighs all
else. -/
def orElse : Condition → Condition → Condition
  | .always, _ => .always
  | _, .always => .always
  | .never, b => b
  | a, .never => a
  | a, b => .either a b

def contrary : Condition → Condition
  | .always => .never
  | .never => .always
  | a => .negated a

def all : List Condition → Condition
  | [] => .always
  | [a] => a
  | a :: rest => andAlso a (all rest)

/-! ## Meaning -/

/-- A value as a column sees it; values that the database refuses are null. -/
def datumFor (c : Column) (v : Value) : Datum :=
  match Datum.ofValue v with
  | .ok d => d.seenBy c.kind
  | .error _ => .null

def orderOf (row : Row) (c : Column) (v : Value) : Option Ordering :=
  (row.cell c.name).compareTo (datumFor c v)

/-- Whether a column is among values: unknown if it is not and there is a null among them. -/
def memberTruth (row : Row) (c : Column) (items : List Value) : Truth :=
  items.foldr (fun v t => Truth.either ((orderOf row c v).map (· == .eq)) t) (some false)

/-- Whether a regular expression is found in a cell; none if the database fails. -/
def search? (pattern : String) : Cell → Option Truth
  | .null => some none
  | .integer _ => none
  | .text s =>
    match Regex.compile pattern {} with
    | .ok r => some (some (r.search s))
    | .error _ => none

/-- Whether a condition is true, false or unknown of a row. -/
def truth (row : Row) : Condition → Truth
  | .always => some true
  | .never => some false
  | .isNull c => some (row.cell c.name).isNull
  | .compare c comparison v => (orderOf row c v).map comparison.holds
  | .differs c v =>
    some (if (row.cell c.name).isNull then !(datumFor c v).isNull else orderOf row c v != some .eq)
  | .member c items => memberTruth row c items
  | .found c pattern => (search? pattern (row.cell c.name)).getD none
  | .both a b => (a.truth row).both (b.truth row)
  | .either a b => (a.truth row).either (b.truth row)
  | .negated a => (a.truth row).negate
  | .malformed => none

def selects (row : Row) (a : Condition) : Bool := (a.truth row).settle false

/-! ## Failures -/

/-- Whether the database fails on a row, where unknown counts as true or as false. -/
def fails (row : Row) : Bool → Condition → Bool
  | _, .found c pattern => (search? pattern (row.cell c.name)).isNone
  | unknown, .both a b =>
    a.fails row unknown || ((a.truth row).settle unknown && b.fails row unknown)
  | unknown, .either a b =>
    a.fails row unknown || (!(a.truth row).settle unknown && b.fails row unknown)
  | unknown, .negated a => a.fails row (!unknown)
  | _, _ => false

/-- Whether the database cannot read a condition. -/
def isMalformed : Condition → Bool
  | .malformed => true
  | .both a b => a.isMalformed || b.isMalformed
  | .either a b => a.isMalformed || b.isMalformed
  | .negated a => a.isMalformed
  | _ => false

/-- The values that are given to the database, in the order of the condition. -/
def parameters : Condition → List Value
  | .compare _ _ v => [v]
  | .differs _ v => [v]
  | .member _ items => items.filter fun v => !v.isNull
  | .found _ pattern => [.text pattern]
  | .both a b => a.parameters ++ b.parameters
  | .either a b => a.parameters ++ b.parameters
  | .negated a => a.parameters
  | _ => []

/-- Gives values to the database one after the other. -/
def bindAll : List Value → Except Fault Unit
  | [] => .ok ()
  | v :: rest =>
    match Datum.ofValue v with
    | .error f => .error f
    | .ok _ => bindAll rest

def filterRows (a : Condition) (rows : List Row) : Except Fault (List Row) :=
  if rows.any fun row => a.fails row false then .error .databaseFailed
  else .ok (rows.filter fun row => a.selects row)

end Condition
end Store
end QueryOptions
