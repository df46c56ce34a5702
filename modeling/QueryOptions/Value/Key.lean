import QueryOptions.Value.Basic

/-!
# QueryOptions.Value.Key

Equality of values, and mappings looked up by it. Numbers are equal if they have the same size,
whether they are booleans, whole numbers or doubles, so `1`, `1.0` and `true` are one key. A list
never equals a tuple, and the order of entries does not matter to mappings.

A mapping looks for the very object before it compares. This matters to undefined doubles only,
which equal nothing: an undefined double is the key that it is (`Decimal.sameDouble`), and another
one is another key. A document holds one undefined double, however often it is written down.

`put` keeps the key that was first inserted, and its place; only the value changes.
-/

namespace QueryOptions
namespace Value

/-- The whole number that a boolean or a whole number stands for. -/
def int? : Value → Option Int
  | .bool b => some (if b then 1 else 0)
  | .int n => some n
  | _ => none

/-- The order of two numbers; none if a side is no number or undefined. -/
def compareNumbers : Value → Value → Option Ordering
  | .float x, .float y => Decimal.compareDoubles x y
  | .float x, b =>
    match b.int? with
    | some n => Decimal.compareDoubleInt x n
    | none => none
  | a, .float y =>
    match a.int? with
    | some n => (Decimal.compareDoubleInt y n).map Ordering.swap
    | none => none
  | a, b =>
    match a.int?, b.int? with
    | some m, some n => some (compare m n)
    | _, _ => none

mutual

/-- Whether two values are equal, or the same object. -/
def same : Value → Value → Bool
  | .null, .null => true
  | .float x, .float y => Decimal.sameDouble x y
  | .text a, .text b => a == b
  | .bytes a, .bytes b => a == b
  | .list a, .list b => sameItems a b
  | .tuple a, .tuple b => sameItems a b
  | .dict a, .dict b => a.length == b.length && entriesIn a b
  | .regex a, .regex b => a.source == b.source && a.flags == b.flags
  | .callback a _, .callback b _ => a == b
  | .function a, .function b => a == b
  | a, b => compareNumbers a b == some .eq

def sameItems : List Value → List Value → Bool
  | [], [] => true
  | a :: as, b :: bs => same a b && sameItems as bs
  | _, _ => false

/-- Whether every entry has an equal one in another mapping. -/
def entriesIn : List (Value × Value) → List (Value × Value) → Bool
  | [], _ => true
  | (k, v) :: rest, other =>
    other.any (fun e => same k e.1 && same v e.2) && entriesIn rest other

end

mutual

/-- Whether a value may be a key: lists and mappings may not, nor tuples that hold one. -/
def isKey : Value → Bool
  | .list _ => false
  | .dict _ => false
  | .tuple items => areKeys items
  | _ => true

def areKeys : List Value → Bool
  | [] => true
  | v :: rest => isKey v && areKeys rest

end

end Value

namespace Dict

def get? (entries : Dict) (key : Value) : Option Value :=
  match entries with
  | [] => none
  | (k, v) :: rest => if k.same key then some v else get? rest key

/-- The value of a key, null if there is none. -/
def get (entries : Dict) (key : String) : Value := (get? entries (.text key)).getD .null

def has (entries : Dict) (key : String) : Bool := (get? entries (.text key)).isSome

/-- Gives a key a value: in the place of the old one, or at the end. -/
def put (entries : Dict) (key value : Value) : Dict :=
  match entries with
  | [] => [(key, value)]
  | (k, v) :: rest =>
    if k.same key then (k, value) :: rest else (k, v) :: put rest key value

def merge (entries more : Dict) : Dict := more.foldl (fun all e => put all e.1 e.2) entries

def erase (entries : Dict) (key : String) : Dict :=
  entries.filter (fun e => !e.1.same (.text key))

/-- The keys, in order. -/
def keys (entries : Dict) : List Value := entries.map Prod.fst

theorem get?_put_of_same {key value : Value} (h : key.same key = true) (entries : Dict) :
    (put entries key value).get? key = some value := by
  induction entries with
  | nil => simp [put, get?, h]
  | cons e rest ih =>
    obtain ⟨k, v⟩ := e
    by_cases hk : k.same key = true
    · simp [put, get?, hk]
    · simp [put, get?, hk, ih]

end Dict
end QueryOptions
