import QueryOptions.Fault.Basic
import QueryOptions.Identifier

/-!
# QueryOptions.CallShape

The shapes of a call that may be given an identifier, options and a callback. With fewer than three
arguments, a first argument that is no identifier is taken for the options, and a callback may stand
in either place.
-/

namespace QueryOptions

/-- The arguments of a call, told apart. -/
structure CallShape where
  identifier : Value
  conditions : Value
  callback : Value
deriving Repr

namespace CallShape

def orNoOptions (v : Value) : Value := v.orElse (.dict [])

/-- Tells the first argument apart: an identifier, or options in place of the second one. -/
def ofFirst (first conditions callback : Value) : CallShape :=
  if !first.isFalsy && !Identifier.isIdentifier first then ⟨.null, orNoOptions first, callback⟩
  else ⟨first, orNoOptions conditions, callback⟩

/-- Tells at most two arguments apart. -/
def ofTwo (first second : Value) : CallShape :=
  if first.isCallable then ⟨.null, .dict [], first⟩
  else if second.isCallable then ofFirst first .null second
  else ofFirst first second .null

/-- Tells arguments apart. -/
def resolve : List Value → Except Fault CallShape
  | [] => .ok (ofTwo .null .null)
  | [first] => .ok (ofTwo first .null)
  | [first, second] => .ok (ofTwo first second)
  | [first, second, third] => .ok ⟨first, orNoOptions second, third⟩
  | many => .error (.tooManyArguments many.length)

end CallShape
end QueryOptions
