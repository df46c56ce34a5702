import QueryOptions.Text.Blank
import QueryOptions.Text.Letter

/-!
# QueryOptions.Text.Integer

Whole numbers as text: decimal digits of any script, with an optional sign. Blanks around the number
do not count, and single low lines may stand between digits.
-/

namespace QueryOptions
namespace Text

/-- The number of digits read on from a number; `afterDigit` says whether a digit came last. -/
def readDigits : Bool → Nat → List Char → Option Nat
  | afterDigit, n, [] => if afterDigit then some n else none
  | afterDigit, n, c :: rest =>
    if c = '_' then (if afterDigit then readDigits false n rest else none)
    else
      match decimalValue? c.toNat with
      | some d => readDigits true (10 * n + d) rest
      | none => none

/-- The whole number that is written so. -/
def readInteger? (cs : List Char) : Option Int :=
  match trimWhere isBlank cs with
  | '-' :: digits => (readDigits false 0 digits).map fun n => -(n : Int)
  | '+' :: digits => (readDigits false 0 digits).map Int.ofNat
  | digits => (readDigits false 0 digits).map Int.ofNat

end Text
end QueryOptions
