import QueryOptions.Fault.Basic

/-!
# QueryOptions.Value.Number

Arithmetic on values, as pages are counted with it. Booleans count as whole numbers. A whole number
and a double give a double. A product of a text or an array and a whole number is its repetition.
Everything else is refused.
-/

namespace QueryOptions
namespace Value

inductive Numeric where
  | whole (n : Int)
  | double (x : Float)

def numeric? : Value → Option Numeric
  | .bool b => some (.whole (if b then 1 else 0))
  | .int n => some (.whole n)
  | .float x => some (.double x)
  | _ => none

/-- Whether a value is less than another; only numbers are compared. -/
def less (a b : Value) : Except Fault Bool :=
  match a.numeric?, b.numeric? with
  | some _, some _ => .ok (compareNumbers a b == some .lt)
  | _, _ => .error .mismatch

/-- The lesser of two numbers; the first one if they are equal. -/
def lesser (a b : Value) : Except Fault Value :=
  match less b a with
  | .error f => .error f
  | .ok true => .ok b
  | .ok false => .ok a

def pred (a : Value) : Except Fault Value :=
  match a.numeric? with
  | some (.whole n) => .ok (.int (n - 1))
  | some (.double x) => .ok (.float (x - 1))
  | none => .error .mismatch

/-- Counts of repetitions are below this bound. -/
def countLimit : Int := 9223372036854775808

/-- Repetitions are shorter than this. -/
def lengthLimit : Nat := 1099511627776

/-- The items so many times over; a negative number counts as zero. -/
def repeatItems {α : Type} (items : List α) (count : Int) : Except Fault (List α) :=
  if countLimit ≤ count || count < -countLimit then .error .overflow
  else if lengthLimit ≤ items.length * count.toNat then .error .tooLarge
  else .ok (List.replicate (if items.isEmpty then 0 else count.toNat) items).flatten

/-- A text or an array so many times over. -/
def replicated (v : Value) (count : Int) : Except Fault Value :=
  match v with
  | .text s => (repeatItems s.toList count).map fun cs => .text (String.ofList cs)
  | .bytes bs => (repeatItems bs count).map .bytes
  | .list items => (repeatItems items count).map .list
  | .tuple items => (repeatItems items count).map .tuple
  | _ => .error .mismatch

def timesDouble (n : Int) (x : Float) : Except Fault Value :=
  match Decimal.doubleOf? n with
  | none => .error .overflow
  | some y => .ok (.float (y * x))

def times (a b : Value) : Except Fault Value :=
  match a.numeric?, b.numeric? with
  | some (.whole m), some (.whole n) => .ok (.int (m * n))
  | some (.whole m), some (.double y) => timesDouble m y
  | some (.double x), some (.whole n) => timesDouble n x
  | some (.double x), some (.double y) => .ok (.float (x * y))
  | some (.whole m), none => replicated b m
  | none, some (.whole n) => replicated a n
  | _, _ => .error .mismatch

theorem pred_int (n : Int) : pred (.int n) = .ok (.int (n - 1)) := rfl

theorem times_int (m n : Int) : times (.int m) (.int n) = .ok (.int (m * n)) := rfl

theorem less_int (m n : Int) :
    less (.int m) (.int n) = .ok (compareNumbers (.int m) (.int n) == some .lt) := rfl

end Value
end QueryOptions
