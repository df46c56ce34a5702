import QueryOptions.Fault.Basic

/-!
# QueryOptions.Value.Pairs

Mappings made from other values. A mapping gives a copy of itself. Anything else is gone through,
and each of its items has to give exactly two values: a key and its value.
-/

namespace QueryOptions
namespace Dict

/-- Adds the pairs of a list; a key that is there already gets the new value. -/
def putPairs (entries : Dict) : List Value → Except Fault Dict
  | [] => .ok entries
  | item :: rest =>
    match item.items? with
    | none => .error .mismatch
    | some [key, value] =>
      if key.isKey then putPairs (entries.put key value) rest else .error .mismatch
    | some _ => .error .unreadable

/-- The mapping that a value gives. -/
def ofValue (v : Value) : Except Fault Dict :=
  match v with
  | .dict entries => .ok entries
  | v =>
    match v.items? with
    | none => .error .mismatch
    | some items => putPairs [] items

end Dict
end QueryOptions
