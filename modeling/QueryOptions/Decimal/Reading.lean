import QueryOptions.Decimal.Binary
import QueryOptions.Text.Blank

/-!
# QueryOptions.Decimal.Reading

Numbers read from text. `nearest` gives the double nearest to decimal digits times a power of ten.
`readNumber?` reads a whole text as a number: a whole number if it has neither a point nor an
exponent, and a double otherwise.
-/

namespace QueryOptions
namespace Decimal

/-- Powers of ten beyond this are zero or infinite. -/
def exponentLimit : Int := 400

/-- The double nearest to a whole number with so many digits times a power of ten. -/
def nearest (mantissa : Nat) (exponent : Int) : Float :=
  let magnitude : Int := (Nat.toDigits 10 mantissa).length + exponent
  if mantissa = 0 || magnitude < -exponentLimit then 0
  else if exponentLimit < magnitude then 1 / 0
  else Float.ofScientific mantissa (exponent < 0) exponent.natAbs

inductive Written where
  | whole (n : Int)
  | double (x : Float)

def isDigit (c : Char) : Bool := 0x30 ≤ c.toNat && c.toNat ≤ 0x39

def digitsValue (cs : List Char) : Nat := cs.foldl (fun n c => 10 * n + (c.toNat - 0x30)) 0

def takeSign : List Char → Bool × List Char
  | '-' :: rest => (true, rest)
  | '+' :: rest => (false, rest)
  | rest => (false, rest)

/-- The exponent at the end of a number; none if there is something else. -/
def readExponent? : List Char → Option Int
  | [] => some 0
  | c :: rest =>
    if c = 'e' || c = 'E' then
      let (negative, digits) := takeSign rest
      if !digits.isEmpty && digits.all isDigit then
        some (if negative then -(digitsValue digits : Int) else digitsValue digits)
      else none
    else none

/-- The digits after a point, and what follows them; none without a point. -/
def takeFraction : List Char → Option (List Char × List Char)
  | '.' :: rest => some (rest.takeWhile isDigit, rest.dropWhile isDigit)
  | _ => none

/-- The number that a text without blanks around it is. -/
def readNumber? (cs : List Char) : Option Written :=
  let (negative, unsigned) := takeSign cs
  let whole := unsigned.takeWhile isDigit
  let rest := unsigned.dropWhile isDigit
  match whole, rest, takeFraction rest with
  | _ :: _, [], _ =>
    let n : Int := digitsValue whole
    some (.whole (if negative then -n else n))
  | _, _, fraction =>
    let (digits, tail) := fraction.getD ([], rest)
    if whole.isEmpty && digits.isEmpty then none
    else
      match readExponent? tail with
      | none => none
      | some e =>
        let x := nearest (digitsValue (whole ++ digits)) (e - digits.length)
        some (.double (if negative then -x else x))

end Decimal
end QueryOptions
