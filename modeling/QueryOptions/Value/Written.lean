import QueryOptions.Value.Basic
import QueryOptions.Decimal.Notation

/-!
# QueryOptions.Value.Written

Values as text. `written` writes a value so that its kind can be seen: texts in quotes, lists in
brackets, mappings in braces with their entries in order. `plain` is the same but for a text,
which stands for itself.
-/

namespace QueryOptions

namespace Regex

/-- The options of an expression by name; the wide alphabet is the usual one and goes unsaid. -/
def Flags.names (f : Flags) : List String :=
  (if f.template then ["re.TEMPLATE"] else [])
    ++ (if f.ignoreCase then ["re.IGNORECASE"] else [])
    ++ (if f.multiline then ["re.MULTILINE"] else [])
    ++ (if f.dotAll then ["re.DOTALL"] else [])
    ++ (if f.verbose then ["re.VERBOSE"] else [])
    ++ (if f.ascii then ["re.ASCII"] else [])

/-- A quoted source longer than this is cut. -/
def writtenLimit : Nat := 200

/-- An expression: its quoted source and the names of its options. -/
def written (r : Regex) : String :=
  let source := String.ofList ((Text.quote r.source).toList.take writtenLimit)
  let options :=
    match r.flags.names with
    | [] => ""
    | names => ", " ++ Text.joinWith "|" names
  "re.compile(" ++ source ++ options ++ ")"

end Regex

namespace Value

mutual

/-- A value with its kind in sight. -/
def written : Value → String
  | .null => "None"
  | .bool b => if b then "True" else "False"
  | .int n => Decimal.intText n
  | .float x => Decimal.doubleText x
  | .text s => Text.quote s
  | .bytes bs => Text.quoteBytes bs
  | .list items => "[" ++ Text.joinWith ", " (writtenItems items) ++ "]"
  | .tuple [item] => "(" ++ written item ++ ",)"
  | .tuple items => "(" ++ Text.joinWith ", " (writtenItems items) ++ ")"
  | .dict entries => "\x7b" ++ Text.joinWith ", " (writtenEntries entries) ++ "\x7d"
  | .regex r => r.written
  | .callback _ _ => "<callback>"
  | .function name => "<function " ++ name ++ ">"

def writtenItems : List Value → List String
  | [] => []
  | v :: rest => written v :: writtenItems rest

def writtenEntries : List (Value × Value) → List String
  | [] => []
  | (k, v) :: rest => (written k ++ ": " ++ written v) :: writtenEntries rest

end

def plain : Value → String
  | .text s => s
  | v => written v

end Value
end QueryOptions
