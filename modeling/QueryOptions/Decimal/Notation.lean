import QueryOptions.Decimal.Shortest

/-!
# QueryOptions.Decimal.Notation

Doubles as text. A `Style` says which points are written positionally and how an exponent looks;
two styles are in use: `plainStyle` for written values, `storedStyle` for the text of a number
that is compared with a text column.
-/

namespace QueryOptions
namespace Decimal

/-- How the digits of a number are laid out. -/
structure Style where
  /-- Positional notation is used for points above this one. -/
  after : Int
  /-- Positional notation is used for points up to this one. -/
  upTo : Int
  /-- Whether a lone leading digit in front of an exponent is followed by `.0`. -/
  pointed : Bool
  /-- The text of a number beyond all others. -/
  infinity : String
  /-- Whether zero keeps its sign. -/
  signedZero : Bool

/-- Values are written positionally from one ten-thousandth to below `10 ^ 16`. -/
def plainStyle : Style := ⟨-4, 16, false, "inf", true⟩

/-- Numbers that become text are positional below `10 ^ 15`. -/
def storedStyle : Style := ⟨-4, 15, true, "Inf", false⟩

/-- The decimal digits of a natural number. -/
def natText (n : Nat) : String := String.ofList (Nat.toDigits 10 n)

/-- The decimal digits of an integer. -/
def intText (n : Int) : String :=
  if n < 0 then "-" ++ natText n.natAbs else natText n.natAbs

/-- An exponent with its sign and at least two digits. -/
def exponentText (e : Int) : String :=
  let digits := natText e.natAbs
  (if e < 0 then "e-" else "e+") ++ (if digits.length < 2 then "0" ++ digits else digits)

def Style.layOut (style : Style) (d : Digits) : String :=
  let digits := Nat.toDigits 10 d.digits
  if style.after < d.point && d.point ≤ style.upTo then
    if d.point ≤ 0 then
      "0." ++ String.ofList (List.replicate (-d.point).toNat '0' ++ digits)
    else
      let whole := d.point.toNat
      if digits.length ≤ whole then
        String.ofList (digits ++ List.replicate (whole - digits.length) '0') ++ ".0"
      else String.ofList (digits.take whole ++ '.' :: digits.drop whole)
  else
    let tail :=
      match digits.drop 1 with
      | [] => if style.pointed then ".0" else ""
      | more => String.ofList ('.' :: more)
    String.ofList (digits.take 1) ++ tail ++ exponentText (d.point - 1)

/-- A double in a style, with its digits chosen by `pick`. -/
def Style.write (style : Style) (pick : Nat → Int → Digits) (x : Float) : String :=
  match readDouble x with
  | .undefined => "nan"
  | .infinite negative => (if negative then "-" else "") ++ style.infinity
  | .finite f =>
    if f.mantissa = 0 then if f.negative && style.signedZero then "-0.0" else "0.0"
    else (if f.negative then "-" else "") ++ style.layOut (pick f.mantissa f.exponent)

/-- The shortest text that reads back as the same double. -/
def doubleText (x : Float) : String := plainStyle.write shortest x

/-- The text of a double with fifteen significant digits. -/
def storedText (x : Float) : String := storedStyle.write (rounded 15) x

end Decimal
end QueryOptions
