/-!
# QueryOptions.Text.CharacterName.Basic

Tables of the names of characters. The names of consecutive code points make a run. Each is written
as the number of words that it shares with the beginning of the name before, then its other words:
after `LATIN SMALL LETTER A` comes `3B`.
-/

namespace QueryOptions
namespace Text
namespace CharacterName

/-- Names of consecutive code points, separated by semicolons. -/
structure NameRun where
  first : Nat
  lines : List String
deriving Repr

/-- The words of a text between blanks; an empty text has none. -/
def wordsOf (text : String) : List String := if text.isEmpty then [] else text.splitOn " "

/-- The words of a name, given those of the name before. -/
def expand (previous : List String) (written : String) : List String :=
  match written.toList with
  | [] => previous
  | digit :: rest =>
    previous.take (digit.toNat - 0x30) ++ wordsOf (String.ofList rest)

def NameRun.written (r : NameRun) : List String := r.lines.flatMap (fun line => line.splitOn ";")

/-- The code point with the given words among written names from a code point on. -/
def findAmong (target : List String) : Nat → List String → List String → Option Nat
  | _, _, [] => none
  | code, previous, entry :: rest =>
    let words := expand previous entry
    if words = target then some code else findAmong target (code + 1) words rest

/-- The code point of a run that has the given name. -/
def NameRun.find? (r : NameRun) (target : List String) : Option Nat :=
  findAmong target r.first [] r.written

end CharacterName
end Text
end QueryOptions
