import QueryOptions.Text.Ranges

/-!
# QueryOptions.Text.Blank

Blank characters, and lists of names written as one text with blanks between them.

`words` reads such a text: it gives the maximal runs of characters that are not blank, so leading,
trailing and repeated blanks count for nothing. `joinWith` writes one. Reading back what was
written gives the names again when each of them is a word: not empty and free of blanks.
-/

namespace QueryOptions
namespace Text

/-- Code points of blank characters: spaces of every width, tabs and line ends. -/
def blankRanges : List (Nat × Nat) :=
  [(0x9, 0xD), (0x1C, 0x20), (0x85, 0x85), (0xA0, 0xA0), (0x1680, 0x1680), (0x2000, 0x200A),
   (0x2028, 0x2029), (0x202F, 0x202F), (0x205F, 0x205F), (0x3000, 0x3000)]

def isBlankCode (code : Nat) : Bool := inRanges blankRanges code

def isBlank (c : Char) : Bool := isBlankCode c.toNat

/-- The characters without those of a class at either end. -/
def trimWhere (inClass : Char → Bool) (cs : List Char) : List Char :=
  ((cs.dropWhile inClass).reverse.dropWhile inClass).reverse

/-- The maximal runs of characters that are not blank, in order. -/
def runsOf : List Char → List (List Char)
  | [] => []
  | c :: rest =>
    if isBlank c then runsOf rest
    else
      match rest with
      | [] => [[c]]
      | d :: _ =>
        if isBlank d then [c] :: runsOf rest
        else
          match runsOf rest with
          | [] => [[c]]
          | run :: more => (c :: run) :: more

def words (s : String) : List String := (runsOf s.toList).map String.ofList

/-- The texts one after the other, with a separator between neighbours. -/
def joinWith (separator : String) : List String → String
  | [] => ""
  | [s] => s
  | s :: rest => s ++ separator ++ joinWith separator rest

theorem joinWith_singleton (separator s : String) : joinWith separator [s] = s := rfl

theorem joinWith_cons_cons (separator s t : String) (rest : List String) :
    joinWith separator (s :: t :: rest) = s ++ separator ++ joinWith separator (t :: rest) := rfl

/-- Names separated by single spaces. -/
def unwords (names : List String) : String := joinWith " " names

theorem runsOf_cons_blank {c : Char} (h : isBlank c = true) (rest : List Char) :
    runsOf (c :: rest) = runsOf rest := by
  simp [runsOf, h]

end Text
end QueryOptions
