import QueryOptions.Regex.Parser
import QueryOptions.Decimal.Binary

/-!
# QueryOptions.Value.Basic

The values that options, settings, criteria and calls are made of. A value is a plain document
value (null, boolean, number, text, list, mapping), or one of the few things beside them: bytes,
tuples, compiled regular expressions, callbacks and named functions.

A mapping keeps its entries in the order in which the keys were first put.
-/

namespace QueryOptions

/-- A value of options, settings or criteria. -/
inductive Value where
  | null
  | bool (b : Bool)
  | int (n : Int)
  | float (x : Float)
  | text (s : String)
  | bytes (bs : List UInt8)
  | list (items : List Value)
  | tuple (items : List Value)
  | dict (entries : List (Value × Value))
  | regex (r : Regex)
  /-- A receiver of an error and a result, known by its number; it may raise an error of its own. -/
  | callback (number : Nat) (raises : Bool)
  /-- A function of a key and a value, known by its name. -/
  | function (name : String)
deriving Repr, Inhabited

instance : Coe String Value := ⟨.text⟩

abbrev Dict := List (Value × Value)

inductive Kind where
  | null
  | bool
  | int
  | float
  | text
  | bytes
  | list
  | tuple
  | dict
  | regex
  | callback
  | function
deriving DecidableEq, Repr

/-- The word for a kind in messages. -/
def Kind.name : Kind → String
  | .null => "NoneType"
  | .bool => "bool"
  | .int => "int"
  | .float => "float"
  | .text => "str"
  | .bytes => "bytes"
  | .list => "list"
  | .tuple => "tuple"
  | .dict => "dict"
  | .regex => "Pattern"
  | .callback => "Callback"
  | .function => "function"

/-- The word for a kind together with where the kind belongs. -/
def Kind.fullName : Kind → String
  | .regex => "re.Pattern"
  | k => k.name

namespace Value

def kind : Value → Kind
  | .null => .null
  | .bool _ => .bool
  | .int _ => .int
  | .float _ => .float
  | .text _ => .text
  | .bytes _ => .bytes
  | .list _ => .list
  | .tuple _ => .tuple
  | .dict _ => .dict
  | .regex _ => .regex
  | .callback _ _ => .callback
  | .function _ => .function

/-- Whether a double is zero, with either sign. -/
def isZeroDouble (x : Float) : Bool :=
  match Decimal.readDouble x with
  | .finite f => f.mantissa == 0
  | _ => false

/-- Whether a value counts as absent: null, false, zero, or something empty. -/
def isFalsy : Value → Bool
  | .null => true
  | .bool b => !b
  | .int n => n == 0
  | .float x => isZeroDouble x
  | .text s => s == ""
  | .bytes bs => bs.isEmpty
  | .list items => items.isEmpty
  | .tuple items => items.isEmpty
  | .dict entries => entries.isEmpty
  | .regex _ => false
  | .callback _ _ => false
  | .function _ => false

/-- The value, or another one in place of an absent one. -/
def orElse (v other : Value) : Value := if v.isFalsy then other else v

def isNull : Value → Bool
  | .null => true
  | _ => false

def isCallable : Value → Bool
  | .callback _ _ => true
  | .function _ => true
  | _ => false

/-- The items of an array: a list or a tuple. -/
def array? : Value → Option (List Value)
  | .list items => some items
  | .tuple items => some items
  | _ => none

def dict? : Value → Option Dict
  | .dict entries => some entries
  | _ => none

def text? : Value → Option String
  | .text s => some s
  | _ => none

/-- The texts of a list of texts; none if another value is among them. -/
def texts? : List Value → Option (List String)
  | [] => some []
  | v :: rest =>
    match v.text?, texts? rest with
    | some s, some more => some (s :: more)
    | _, _ => none

/-- What going through a value gives, one by one: characters of a text, numbers of bytes, items of
an array, keys of a mapping. -/
def items? : Value → Option (List Value)
  | .text s => some (s.toList.map fun c => .text (String.ofList [c]))
  | .bytes bs => some (bs.map fun b => .int b.toNat)
  | .list items => some items
  | .tuple items => some items
  | .dict entries => some (entries.map Prod.fst)
  | _ => none

theorem isFalsy_null : isFalsy .null = true := rfl

theorem array?_list (items : List Value) : array? (.list items) = some items := rfl

/-- An array is absent if it is empty. -/
theorem isFalsy_of_array? {v : Value} {items : List Value} (h : v.array? = some items) :
    v.isFalsy = items.isEmpty := by
  cases v <;> cases h <;> rfl

theorem orElse_of_falsy {v : Value} (other : Value) (h : v.isFalsy = true) :
    v.orElse other = other := by
  simp [orElse, h]

theorem orElse_of_not_falsy {v : Value} (other : Value) (h : v.isFalsy = false) :
    v.orElse other = v := by
  simp [orElse, h]

theorem texts?_eq_some_iff {values : List Value} {names : List String} :
    texts? values = some names ↔ values = names.map .text := by
  induction values generalizing names with
  | nil => cases names <;> simp [texts?]
  | cons v rest ih =>
    unfold texts?
    cases names with
    | nil => cases v.text? <;> cases texts? rest <;> simp
    | cons name more =>
      have hrest := @ih more
      cases v <;> cases hr : texts? rest <;> simp_all [text?]

theorem texts?_isSome (values : List Value) :
    (texts? values).isSome = values.all fun v => v.text?.isSome := by
  induction values with
  | nil => rfl
  | cons v rest ih =>
    rw [List.all_cons, ← ih, texts?]
    cases v.text? <;> cases texts? rest <;> rfl

theorem texts?_eq_none_iff {values : List Value} :
    texts? values = none ↔ ∃ v ∈ values, v.text? = none := by
  rw [← Option.not_isSome_iff_eq_none, texts?_isSome]
  simp

end Value
end QueryOptions
