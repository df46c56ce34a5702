import QueryOptions.Value.Basic
import QueryOptions.Text.Quoted

/-!
# QueryOptions.Identifier

Document identifiers: texts of exactly twenty-four hexadecimal digits in either case. This is how
an identifier is told from options.
-/

namespace QueryOptions
namespace Identifier

/-- Number of digits of an identifier. -/
def size : Nat := 24

def isHexDigit (c : Char) : Bool :=
  (0x30 ≤ c.toNat && c.toNat ≤ 0x39) || (0x41 ≤ c.toNat && c.toNat ≤ 0x46)
    || (0x61 ≤ c.toNat && c.toNat ≤ 0x66)

def isIdentifierText (s : String) : Bool :=
  s.toList.length == size && s.toList.all isHexDigit

def isIdentifier : Value → Bool
  | .text s => isIdentifierText s
  | _ => false

/-- The identifier of a number, in lower case; only the last digits count. -/
def ofNat (n : Nat) : String := String.ofList (Text.hexDigits size n)

theorem isHexDigit_hexDigit : ∀ d, d < 16 → isHexDigit (Text.hexDigit d) = true := by decide

/-- The identifier of a number is one. -/
theorem isIdentifierText_ofNat (n : Nat) : isIdentifierText (ofNat n) = true := by
  have digits : ∀ c ∈ Text.hexDigits size n, isHexDigit c = true := by
    intro c h
    obtain ⟨d, hd, rfl⟩ := Text.mem_hexDigits h
    exact isHexDigit_hexDigit d hd
  simpa [isIdentifierText, ofNat, Text.length_hexDigits, List.all_eq_true] using digits

theorem isIdentifier_text (s : String) : isIdentifier (.text s) = isIdentifierText s := rfl

end Identifier
end QueryOptions
