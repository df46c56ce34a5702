import QueryOptions.Text.CharacterName.Alphabets
import QueryOptions.Text.CharacterName.Syllabaries
import QueryOptions.Text.CharacterName.Symbols
import QueryOptions.Text.CharacterName.EastAsia
import QueryOptions.Text.CharacterName.Antiquity
import QueryOptions.Text.CharacterName.Cuneiform
import QueryOptions.Text.CharacterName.Signs
import QueryOptions.Text.CharacterName.Pictures
import QueryOptions.Text.CharacterName.Aliases
import QueryOptions.Text.Case

/-!
# QueryOptions.Text.CharacterName.Lookup

The character with a given name. Most names stand in tables and are found without regard to the
case of their letters. Hangul syllables are named by their sounds, and unified ideographs and some
other signs by their code points; the first two kinds have to be written in capitals.
-/

namespace QueryOptions
namespace Text
namespace CharacterName

/-- The rest of a text after a beginning, if it begins so. -/
def afterBeginning? : List Char → List Char → Option (List Char)
  | [], cs => some cs
  | _ :: _, [] => none
  | b :: bs, c :: cs => if b = c then afterBeginning? bs cs else none

/-! ## Hangul syllables -/

/-- How the initial consonants are written, in order. -/
def initials : List String :=
  ["G", "GG", "N", "D", "DD", "R", "M", "B", "BB", "S", "SS", "", "J", "JJ", "C", "K", "T", "P",
   "H"]

/-- How the vowels are written, in order. -/
def vowels : List String :=
  ["A", "AE", "YA", "YAE", "EO", "E", "YEO", "YE", "O", "WA", "WAE", "OE", "YO", "U", "WEO", "WE",
   "WI", "YU", "EU", "YI", "I"]

/-- How the final consonants are written, in order. -/
def finals : List String :=
  ["", "G", "GG", "GS", "N", "NJ", "NH", "D", "L", "LG", "LM", "LB", "LS", "LT", "LP", "LH", "M",
   "B", "BS", "S", "SS", "NG", "J", "C", "K", "T", "P", "H"]

/-- Among sounds from an index on, the longest one that a text begins with: its index and the rest
of the text. -/
def longestSound? (cs : List Char) : Nat → List String → Option (Nat × List Char)
  | _, [] => none
  | index, sound :: others =>
    match afterBeginning? sound.toList cs, longestSound? cs (index + 1) others with
    | some rest, some (later, shorter) =>
      if shorter.length < rest.length then some (later, shorter) else some (index, rest)
    | some rest, none => some (index, rest)
    | none, found => found

/-- The syllable with the given sounds. -/
def hangulSyllable? (cs : List Char) : Option Nat :=
  match longestSound? cs 0 initials with
  | none => none
  | some (initial, afterInitial) =>
    match longestSound? afterInitial 0 vowels with
    | none => none
    | some (vowel, afterVowel) =>
      match longestSound? afterVowel 0 finals with
      | some (final, []) =>
        some (0xAC00 + (initial * vowels.length + vowel) * finals.length + final)
      | _ => none

/-! ## Signs named by their code points -/

/-- The value of a hexadecimal digit with capital letters. -/
def capitalDigit? (c : Char) : Option Nat :=
  if '0' ≤ c && c ≤ '9' then some (c.toNat - 0x30)
  else if 'A' ≤ c && c ≤ 'F' then some (c.toNat - 0x41 + 10)
  else none

/-- The number that hexadecimal digits stand for, after those read before. -/
def hexNumber? : Nat → List Char → Option Nat
  | before, [] => some before
  | before, c :: rest =>
    match capitalDigit? c with
    | none => none
    | some d => hexNumber? (16 * before + d) rest

/-- Where the unified ideographs are. -/
def unifiedRanges : List (Nat × Nat) :=
  [(0x3400, 0x4DBF), (0x4E00, 0x9FFF), (0x20000, 0x2A6DF), (0x2A700, 0x2B738), (0x2B740, 0x2B81D),
   (0x2B820, 0x2CEA1), (0x2CEB0, 0x2EBE0), (0x30000, 0x3134A)]

/-- The unified ideograph with the given digits, of which there are four or five. -/
def unifiedIdeograph? (digits : List Char) : Option Nat :=
  if digits.length = 4 || digits.length = 5 then
    (hexNumber? 0 digits).filter (fun n => unifiedRanges.any (fun r => r.1 ≤ n && n ≤ r.2))
  else none

/-- Signs that are named by a text and the digits of their code point. -/
def numberedSigns : List (String × Nat × Nat) :=
  [("CJK COMPATIBILITY IDEOGRAPH-", 0xF900, 0xFA6D),
   ("CJK COMPATIBILITY IDEOGRAPH-", 0xFA70, 0xFAD9),
   ("CJK COMPATIBILITY IDEOGRAPH-", 0x2F800, 0x2FA1D),
   ("KHITAN SMALL SCRIPT CHARACTER-", 0x18B00, 0x18CD5),
   ("NUSHU CHARACTER-", 0x1B170, 0x1B2FB)]

/-- The code point of a numbered sign; no zero leads its digits. -/
def numberedSign? (name : List Char) : Option Nat :=
  numberedSigns.findSome? fun (label, low, high) =>
    match afterBeginning? label.toList name with
    | none => none
    | some digits =>
      if digits.head? = some '0' then none
      else (hexNumber? 0 digits).filter (fun n => low ≤ n && n ≤ high)

/-! ## Names in tables -/

/-- All names in tables, the proper ones first. -/
def tables : List (List NameRun) :=
  [alphabets, syllabaries, symbols, eastAsia, antiquity, cuneiform, signs, pictures, aliases]

/-- The code point of a name in capitals that stands in a table. -/
def tabled? (name : String) : Option Nat :=
  let target := wordsOf name
  tables.findSome? (fun table => table.findSome? (fun run => run.find? target))

def capitals (name : List Char) : List Char := name.map (fun c => Char.ofNat (asciiUpperOf c.toNat))

end CharacterName

open CharacterName in
/-- The code point with the given name. -/
def characterNamed? (name : List Char) : Option Nat :=
  match afterBeginning? "HANGUL SYLLABLE ".toList name with
  | some sounds => hangulSyllable? sounds
  | none =>
    match afterBeginning? "CJK UNIFIED IDEOGRAPH-".toList name with
    | some digits => unifiedIdeograph? digits
    | none =>
      (numberedSign? (capitals name)).or (tabled? (String.ofList (capitals name)))

end Text
end QueryOptions
