import QueryOptions.Regex.Reader
import QueryOptions.Regex.Piece
import QueryOptions.Text.Name
import QueryOptions.Text.CharacterName.Lookup

/-!
# QueryOptions.Regex.Escape

What a backslash and the character after it stand for: a character, a class of characters, a
place in the text, or a group matched before. Inside a character set there are no places and no
groups. Letters without a meaning are refused; other characters stand for themselves.
-/

namespace QueryOptions
namespace Regex

/-- Whether a character is a decimal digit below 128. -/
def isDigit (c : Char) : Bool := '0' ≤ c && c ≤ '9'

def isOctal (c : Char) : Bool := '0' ≤ c && c ≤ '7'

def isHex (c : Char) : Bool := isDigit c || ('a' ≤ c && c ≤ 'f') || ('A' ≤ c && c ≤ 'F')

/-- Whether a character is a letter below 128. -/
def isAsciiLetter (c : Char) : Bool := ('a' ≤ c && c ≤ 'z') || ('A' ≤ c && c ≤ 'Z')

def digitValue (c : Char) : Nat :=
  if isDigit c then c.toNat - 0x30
  else if 'a' ≤ c && c ≤ 'f' then c.toNat - 0x61 + 10
  else c.toNat - 0x41 + 10

/-- The number that digits of some base stand for. -/
def numeral (base : Nat) (cs : List Char) : Nat :=
  cs.foldl (fun n c => base * n + digitValue c) 0

/-- Control characters with a letter of their own. -/
def controlCode? : Char → Option Nat
  | 'a' => some 7
  | 'b' => some 8
  | 'f' => some 12
  | 'n' => some 10
  | 'r' => some 13
  | 't' => some 9
  | 'v' => some 11
  | _ => none

/-- Classes with a letter of their own; the capital letter stands for the complement. -/
def category? : Char → Option (Category × Bool)
  | 'd' => some (.digit, false)
  | 'D' => some (.digit, true)
  | 's' => some (.blank, false)
  | 'S' => some (.blank, true)
  | 'w' => some (.word, false)
  | 'W' => some (.word, true)
  | _ => none

/-- Places with a letter of their own. -/
def place? (ascii : Bool) : Char → Option Anchor
  | 'A' => some .textStart
  | 'Z' => some .textEnd
  | 'b' => some (.boundary false ascii)
  | 'B' => some (.boundary true ascii)
  | _ => none

namespace Reader

/-- A code point of a fixed number of hexadecimal digits. -/
def hexCode (letter : Char) (count : Nat) : Reader Nat := do
  let digits ← takeClass isHex count
  let text := Text.backslash :: letter :: digits
  if digits.length ≠ count then refuse (.incompleteEscape (String.ofList text)) text.length
  let code := numeral 16 digits
  if 0x110000 ≤ code then refuse (.badEscape (String.ofList text)) text.length
  return code

def namedCode : Reader Nat := do
  if !(← accept (Char.ofNat 0x7B)) then refuse (.missing (String.ofList [Char.ofNat 0x7B]))
  let name ← nameUntil (Char.ofNat 0x7D) "character name"
  match Text.characterNamed? name with
  | none => refuse (.unknownCharacterName (String.ofList name)) (name.length + 4)
  | some code => return code

/-- The escapes with hexadecimal digits or a name. -/
def longEscape? (c : Char) : Option (Reader Nat) :=
  match c with
  | 'x' => some (hexCode 'x' 2)
  | 'u' => some (hexCode 'u' 4)
  | 'U' => some (hexCode 'U' 8)
  | 'N' => some namedCode
  | _ => none

/-- A character that stands for itself after a backslash; letters do not. -/
def selfEscape (c : Char) : Reader Nat := do
  if isAsciiLetter c then refuse (.badEscape (Symbol.escaped c).text) 2
  return c.toNat

/-- The octal escape of three digits, which must stay below 256. -/
def octalCode (digits : List Char) : Reader Nat := do
  let code := numeral 8 digits
  let text := Text.backslash :: digits
  if 0o377 < code then refuse (.octalRange (String.ofList text)) text.length
  return code

def setEscape (scope : Flags) (c : Char) : Reader SetItem := do
  match controlCode? c with
  | some code => return .code code
  | none =>
    match category? c with
    | some (k, negated) => return .category k negated scope.ascii
    | none =>
      match longEscape? c with
      | some code => return .code (← code)
      | none =>
        if isOctal c then
          let more ← takeClass isOctal 2
          return .code (← octalCode (c :: more))
        else if isDigit c then refuse (.badEscape (Symbol.escaped c).text) 2
        else return .code (← selfEscape c)

def numberedReference (scope : Flags) (digits : List Char) : Reader Piece := do
  let index := numeral 10 digits
  if (← groupCount) < index then refuse (.invalidReference index) digits.length
  if !(← isClosed index) then refuse .openGroup (digits.length + 1)
  checkBehind index
  return .back index scope.fold

/-- One character, compared as the options say. -/
def literal (scope : Flags) (code : Nat) : Piece := .test (.literal code false scope.fold)

/-- An escape that starts with a digit other than zero: three octal digits stand for a character,
anything else refers to a group by one or two digits. -/
def digitEscape (scope : Flags) (c : Char) : Reader Piece := do
  match ← takeClass isDigit 1 with
  | [] => numberedReference scope [c]
  | d :: _ =>
    if isOctal c && isOctal d then
      match ← takeClass isOctal 1 with
      | [] => numberedReference scope [c, d]
      | e :: _ => return literal scope (← octalCode [c, d, e])
    else numberedReference scope [c, d]

/-- An escape outside character sets. -/
def escape (scope : Flags) (c : Char) : Reader Piece := do
  match place? scope.ascii c with
  | some a => return .place c a
  | none =>
    match category? c with
    | some (k, negated) => return .test (.set [.category k negated scope.ascii] false scope.fold)
    | none =>
      match controlCode? c with
      | some code => return literal scope code
      | none =>
        match longEscape? c with
        | some code => return literal scope (← code)
        | none =>
          if c = '0' then
            let more ← takeClass isOctal 2
            return literal scope (numeral 8 more)
          else if isDigit c then digitEscape scope c
          else return literal scope (← selfEscape c)

end Reader
end Regex
end QueryOptions
