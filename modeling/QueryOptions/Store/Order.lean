import QueryOptions.Store.Schema

/-!
# QueryOptions.Store.Order

The order of rows, and the part of an ordered list that a limit and a number of rows to skip cut
out. Rows are compared by the columns of a sort, the first one that tells them apart; null is the
smallest value, and a negative direction turns the order of its column around. Rows that no column
tells apart keep their places.
-/

namespace QueryOptions
namespace Store

/-- Columns with directions, the most significant first. -/
abbrev RowOrder := List (Column × Int)

def RowOrder.before : RowOrder → Row → Row → Bool
  | [], _, _ => false
  | (c, direction) :: rest, r, s =>
    let a := r.cell c.name
    let b := s.cell c.name
    let (first, second) := if direction < 0 then (b, a) else (a, b)
    if first.before second then true
    else if second.before first then false
    else RowOrder.before rest r s

/-- Puts a row in front of the first one that does not come before it. -/
def insertRow (order : RowOrder) (r : Row) : List Row → List Row
  | [] => [r]
  | s :: rest => if order.before s r then s :: insertRow order r rest else r :: s :: rest

/-- The rows in order. -/
def sortRows (order : RowOrder) (rows : List Row) : List Row := rows.foldr (insertRow order) []

/-- How much of a list is taken. -/
structure Slice where
  /-- The largest number of rows; none or a negative number for all of them. -/
  limit : Option Int := none
  /-- The number of rows to leave out; none or a negative number for none of them. -/
  skip : Option Int := none
deriving DecidableEq, Repr

namespace Slice

def take {α : Type} (s : Slice) (rows : List α) : List α :=
  let rest := rows.drop (s.skip.getD 0).toNat
  match s.limit with
  | none => rest
  | some n => if n < 0 then rest else rest.take n.toNat

/-- The numbers that are given to the database. -/
def parameters (s : Slice) : List Value := (s.limit.toList ++ s.skip.toList).map .int

theorem take_all {α : Type} (rows : List α) : ({} : Slice).take rows = rows := rfl

end Slice

theorem mem_insertRow {order : RowOrder} {r s : Row} {rows : List Row} :
    s ∈ insertRow order r rows ↔ s = r ∨ s ∈ rows := by
  induction rows with
  | nil => simp [insertRow]
  | cons t rest ih =>
    by_cases h : order.before t r = true
    · simp only [insertRow, h, if_true, List.mem_cons, ih]
      constructor
      · rintro (h | h | h) <;> simp [h]
      · rintro (h | h | h) <;> simp [h]
    · simp [insertRow, h]

theorem mem_sortRows {order : RowOrder} {s : Row} {rows : List Row} :
    s ∈ sortRows order rows ↔ s ∈ rows := by
  induction rows with
  | nil => simp [sortRows]
  | cons t rest ih =>
    show s ∈ insertRow order t (sortRows order rest) ↔ s ∈ t :: rest
    rw [mem_insertRow, ih, List.mem_cons]

end Store
end QueryOptions
