import QueryOptions.Fault.Basic

/-!
# QueryOptions.Arguments

Arguments of a call, by place and by name. Each parameter takes the argument in its place or the
one under its name, but not both; parameters without an argument take their default value, or the
call is refused.
-/

namespace QueryOptions

/-- Arguments by place and by name. -/
structure Arguments where
  places : List Value := []
  names : Dict := []
deriving Repr

/-- A parameter; one without a default value has to be given an argument. -/
structure Parameter where
  name : String
  default : Option Value
deriving Repr

namespace Parameter

def required (name : String) : Parameter := ⟨name, none⟩

def optional (name : String) : Parameter := ⟨name, some .null⟩

end Parameter

namespace Arguments

def isParameter (parameters : List Parameter) : Value → Bool
  | .text s => parameters.any fun p => p.name == s
  | _ => false

/-- The values of parameters; `places` are the arguments not used up yet. -/
def assign (names : Dict) : List Parameter → List Value → Except Fault (List Value)
  | [], [] => .ok []
  | [], _ :: _ => .error .mismatch
  | p :: rest, v :: places =>
    if names.has p.name then .error .mismatch
    else (assign names rest places).map (v :: ·)
  | p :: rest, [] =>
    match (names.get? (.text p.name)).or p.default with
    | none => .error .mismatch
    | some v => (assign names rest []).map (v :: ·)

def values (arguments : Arguments) (parameters : List Parameter) : Except Fault (List Value) :=
  if arguments.names.keys.all (isParameter parameters) then
    assign arguments.names parameters arguments.places
  else .error .mismatch

/-- The values of parameters that are given by name only. -/
def named (arguments : Arguments) (parameters : List Parameter) : Except Fault (List Value) :=
  values { arguments with places := [] } parameters

end Arguments
end QueryOptions
