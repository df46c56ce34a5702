import QueryOptions.Text.Printable
import QueryOptions.Text.Blank

/-!
# QueryOptions.Text.Quoted

Quoted texts. A text stands between apostrophes, or between quotation marks if it holds an
apostrophe and no quotation mark. Inside, the mark in use and the backslash are preceded by a
backslash, three control characters have short escapes, and every other character that is not
printable is written by its code point in hexadecimal, with the shortest of three widths.
Byte strings follow the same rule with `b` in front.
-/

namespace QueryOptions
namespace Text

def apostrophe : Char := Char.ofNat 0x27

def quotation : Char := Char.ofNat 0x22

def backslash : Char := Char.ofNat 0x5C

def quoteMark (cs : List Char) : Char :=
  if cs.contains apostrophe && !cs.contains quotation then quotation else apostrophe

/-- A hexadecimal digit in lower case. -/
def hexDigit (n : Nat) : Char :=
  if n < 10 then Char.ofNat (0x30 + n) else Char.ofNat (0x61 + (n - 10))

/-- The lowest `width` hexadecimal digits of a number, highest first. -/
def hexDigits : Nat → Nat → List Char
  | 0, _ => []
  | width + 1, n => hexDigits width (n / 16) ++ [hexDigit (n % 16)]

theorem length_hexDigits (width n : Nat) : (hexDigits width n).length = width := by
  induction width generalizing n with
  | zero => rfl
  | succ width ih => simp [hexDigits, ih]

theorem mem_hexDigits {width n : Nat} {c : Char} (h : c ∈ hexDigits width n) :
    ∃ d, d < 16 ∧ c = hexDigit d := by
  induction width generalizing n with
  | zero => simp [hexDigits] at h
  | succ width ih =>
    simp only [hexDigits, List.mem_append, List.mem_singleton] at h
    rcases h with h | h
    · exact ih h
    · exact ⟨_, Nat.mod_lt _ (by decide), h⟩

/-- A code point as an escape of two, four or eight hexadecimal digits. -/
def codeEscape (code : Nat) : List Char :=
  if code < 0x100 then [backslash, 'x'] ++ hexDigits 2 code
  else if code < 0x10000 then [backslash, 'u'] ++ hexDigits 4 code
  else [backslash, 'U'] ++ hexDigits 8 code

/-- One character inside a quoted text. -/
def escapeChar (mark : Char) (c : Char) : List Char :=
  if c = mark || c = backslash then [backslash, c]
  else if c = '\n' then [backslash, 'n']
  else if c = '\r' then [backslash, 'r']
  else if c = '\t' then [backslash, 't']
  else if isPrintable c then [c]
  else codeEscape c.toNat

def quoteChars (cs : List Char) : List Char :=
  let mark := quoteMark cs
  mark :: (cs.flatMap (escapeChar mark) ++ [mark])

def quote (s : String) : String := String.ofList (quoteChars s.toList)

/-- One byte inside a quoted byte string: only the printable characters below 128 stay. -/
def escapeByte (mark : Char) (b : UInt8) : List Char :=
  let c := Char.ofNat b.toNat
  if c = mark || c = backslash then [backslash, c]
  else if c = '\n' then [backslash, 'n']
  else if c = '\r' then [backslash, 'r']
  else if c = '\t' then [backslash, 't']
  else if 0x20 ≤ b.toNat && b.toNat < 0x7F then [c]
  else [backslash, 'x'] ++ hexDigits 2 b.toNat

def quoteBytes (bs : List UInt8) : String :=
  let mark := quoteMark (bs.map (fun b => Char.ofNat b.toNat))
  String.ofList ('b' :: mark :: (bs.flatMap (escapeByte mark) ++ [mark]))

end Text
end QueryOptions
