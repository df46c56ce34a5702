/-!
# QueryOptions.Text.Ranges

Character classes are written as ascending lists of closed ranges of code points.
`inRanges` reads such a list; it may stop at the first range that lies beyond the code point.
-/

namespace QueryOptions
namespace Text

/-- Whether a code point lies in one of the ascending closed ranges. -/
def inRanges : List (Nat × Nat) → Nat → Bool
  | [], _ => false
  | (low, high) :: rest, code =>
    if code < low then false
    else if code ≤ high then true
    else inRanges rest code

end Text
end QueryOptions
