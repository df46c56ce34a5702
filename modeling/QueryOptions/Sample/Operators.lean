import QueryOptions.Section.Clause

/-!
# QueryOptions.Sample.Operators

A few operators for settings: texts that start with a value, empty texts, a value and its contrary
under two keys, nothing at all, a choice with null, and criteria given as they are.
-/

namespace QueryOptions
namespace Sample

/-- Characters that mean something in a regular expression, blanks included. -/
def specialCodes : List Nat :=
  "()[]?*+-|^$.&~# \t\n\r".toList.map Char.toNat ++ [0x7B, 0x7D, 0x5C, 0x0B, 0x0C]

/-- A text as a regular expression that matches just this text. -/
def escaped (s : String) : String :=
  String.ofList (s.toList.flatMap fun c =>
    if specialCodes.contains c.toNat then [Text.backslash, c] else [c])

def under (key v : Value) : Except Fault Value := (keyed key v).map .dict

/-- The field starts with a text. -/
def startsWith (key v : Value) : Except Fault Value :=
  match v with
  | .text s =>
    match Regex.compile ("^" ++ escaped s) {} with
    | .ok r => under key (.regex r)
    | .error _ => .error .mismatch
  | _ => .error .mismatch

/-- The field is empty or null. -/
def isEmpty (key _ : Value) : Except Fault Value :=
  under key (single "$in" (.list [.text "", .null]))

/-- The field equals a value, and a second field differs from it. -/
def pair (key v : Value) : Except Fault Value :=
  match key with
  | .text s => .ok (.dict (Dict.put [(.text s, v)] (.text (s ++ "2")) (single "$ne" v)))
  | _ => .error .mismatch

/-- The field equals a value or is null. -/
def orNull (key v : Value) : Except Fault Value :=
  match under key v, under key .null with
  | .ok a, .ok b => .ok (single "$or" (.list [a, b]))
  | .error f, _ => .error f
  | _, .error f => .error f

def library : Library := fun name key v =>
  if name = "prefix" then startsWith key v
  else if name = "empty" then isEmpty key v
  else if name = "pair" then pair key v
  else if name = "nothing" then .ok (.dict [])
  else if name = "or" then orNull key v
  else if name = "raw" then .ok v
  else .error .mismatch

def operatorNames : List String := ["prefix", "empty", "pair", "nothing", "or", "raw"]

end Sample
end QueryOptions
