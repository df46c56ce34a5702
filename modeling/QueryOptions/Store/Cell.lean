import QueryOptions.Decimal.Notation
import QueryOptions.Decimal.Reading
import QueryOptions.Fault.Basic

/-!
# QueryOptions.Store.Cell

Values in tables, and how they compare with values from outside. A column of numbers sees a text
that reads as a number as that number, and a column of texts sees a number as its text. After that,
numbers come before texts and texts before bytes; numbers compare by size and texts character by
character. A comparison with null has no outcome.
-/

namespace QueryOptions
namespace Store

/-- A value in a table. Booleans are kept as one and zero. -/
inductive Cell where
  | null
  | integer (n : Int)
  | text (s : String)
deriving DecidableEq, Repr, Inhabited

inductive ColumnKind where
  | text
  | integer
  | boolean
deriving DecidableEq, Repr

/-- A value from outside that the database can take. -/
inductive Datum where
  | null
  | integer (n : Int)
  | real (x : Float)
  | text (s : String)
  | blob (bytes : List UInt8)
deriving Repr

/-- Whole numbers of the database lie in this range. -/
def integerLimit : Int := 9223372036854775808

/-- Whether a whole number is within the range of the database. -/
def isStorable (n : Int) : Bool := -integerLimit ≤ n && n < integerLimit

/-- Gives a value to the database, which takes neither arrays nor mappings, and an undefined double
for null. -/
def Datum.ofValue (v : Value) : Except Fault Datum :=
  match v with
  | .null => .ok .null
  | .bool b => .ok (.integer (if b then 1 else 0))
  | .int n => if isStorable n then .ok (.integer n) else .error .overflow
  | .float x => .ok (if Decimal.readDouble x = .undefined then .null else .real x)
  | .text s => .ok (.text s)
  | .bytes bs => .ok (.blob bs)
  | _ => .error .badValue

def Datum.isNull : Datum → Bool
  | .null => true
  | _ => false

/-- Blanks around a number do not count. -/
def isMargin (c : Char) : Bool := c = ' ' || (0x9 ≤ c.toNat && c.toNat ≤ 0xD)

/-- A text as a number, if it reads as one; whole numbers out of range become doubles. -/
def numberOfText? (s : String) : Option Datum :=
  match Decimal.readNumber? (Text.trimWhere isMargin s.toList) with
  | none => none
  | some (.double x) => some (.real x)
  | some (.whole n) =>
    if isStorable n then some (.integer n)
    else
      let x := Decimal.nearest n.natAbs 0
      some (.real (if n < 0 then -x else x))

/-- A value as a column sees it. -/
def Datum.seenBy (kind : ColumnKind) (d : Datum) : Datum :=
  match kind with
  | .text =>
    match d with
    | .integer n => .text (Decimal.intText n)
    | .real x => .text (Decimal.storedText x)
    | d => d
  | _ =>
    match d with
    | .text s => (numberOfText? s).getD (.text s)
    | d => d

def compareTexts (s t : String) : Ordering :=
  if s = t then .eq else if s < t then .lt else .gt

/-- The order of a value in a table and a value from outside. -/
def Cell.compareTo : Cell → Datum → Option Ordering
  | .null, _ => none
  | _, .null => none
  | .integer m, .integer n => some (compare m n)
  | .integer m, .real x => (Decimal.compareDoubleInt x m).map Ordering.swap
  | .integer _, _ => some .lt
  | .text s, .text t => some (compareTexts s t)
  | .text _, .blob _ => some .lt
  | .text _, _ => some .gt

/-- Whether a cell comes before another one: null first, numbers before texts. -/
def Cell.before : Cell → Cell → Bool
  | .null, .null => false
  | .null, _ => true
  | _, .null => false
  | .integer m, .integer n => m < n
  | .integer _, .text _ => true
  | .text _, .integer _ => false
  | .text s, .text t => s < t

def Cell.isNull : Cell → Bool
  | .null => true
  | _ => false

def Cell.toValue (kind : ColumnKind) : Cell → Value
  | .null => .null
  | .integer n =>
    match kind with
    | .boolean => .bool (n != 0)
    | _ => .int n
  | .text s => .text s

theorem Cell.compareTo_null_left (d : Datum) : Cell.compareTo .null d = none := rfl

theorem Cell.isNull_iff {c : Cell} : c.isNull = true ↔ c = .null := by
  cases c <;> simp [isNull]

end Store
end QueryOptions
