/-!
# QueryOptions.Decimal.Binary

Doubles as exact binary fractions. A finite double is `± mantissa · 2 ^ exponent` with a whole
mantissa below `2 ^ 53`; `readDouble` reads it off the bit pattern. Comparison with whole numbers
and the passage to whole numbers are then exact, with no rounding of either side.
-/

namespace QueryOptions
namespace Decimal

def twoTo (n : Nat) : Nat := Nat.pow 2 n

def tenTo (n : Nat) : Nat := Nat.pow 10 n

/-- The number `± mantissa · 2 ^ exponent`. -/
structure Fraction where
  negative : Bool
  mantissa : Nat
  exponent : Int
deriving DecidableEq, Repr

/-- What a bit pattern stands for. -/
inductive Reading where
  | finite (f : Fraction)
  | infinite (negative : Bool)
  | undefined
deriving DecidableEq, Repr

/-- Reads a double: one sign bit, eleven exponent bits, fifty-two mantissa bits. -/
def readDouble (x : Float) : Reading :=
  let bits : Nat := x.toBits.toNat
  let negative := twoTo 63 ≤ bits
  let exponentField : Nat := (bits / twoTo 52) % twoTo 11
  let mantissaField : Nat := bits % twoTo 52
  if exponentField = 2047 then
    if mantissaField = 0 then .infinite negative else .undefined
  else if exponentField = 0 then .finite ⟨negative, mantissaField, -1074⟩
  else .finite ⟨negative, twoTo 52 + mantissaField, (exponentField : Int) - 1075⟩

namespace Fraction

def signed (f : Fraction) : Int := if f.negative then -(f.mantissa : Int) else f.mantissa

/-- The order of a fraction against a whole number. -/
def compareInt (f : Fraction) (n : Int) : Ordering :=
  if 0 ≤ f.exponent then compare (f.signed * twoTo f.exponent.toNat) n
  else compare f.signed (n * twoTo (-f.exponent).toNat)

def compareTo (f g : Fraction) : Ordering :=
  if f.exponent ≤ g.exponent then
    compare f.signed (g.signed * twoTo (g.exponent - f.exponent).toNat)
  else compare (f.signed * twoTo (f.exponent - g.exponent).toNat) g.signed

/-- The whole number that a fraction equals, if it equals one. -/
def toInt? (f : Fraction) : Option Int :=
  if 0 ≤ f.exponent then some (f.signed * twoTo f.exponent.toNat)
  else
    let scale : Nat := twoTo (-f.exponent).toNat
    if f.mantissa % scale = 0 then
      some (if f.negative then -((f.mantissa / scale : Nat) : Int) else (f.mantissa / scale : Nat))
    else none

/-- The whole part, toward zero. -/
def truncate (f : Fraction) : Int :=
  let size : Nat :=
    if 0 ≤ f.exponent then f.mantissa * twoTo f.exponent.toNat
    else f.mantissa / twoTo (-f.exponent).toNat
  if f.negative then -(size : Int) else size

end Fraction

/-- The order of a double against a whole number; an undefined double has none. -/
def compareDoubleInt (x : Float) (n : Int) : Option Ordering :=
  match readDouble x with
  | .finite f => some (f.compareInt n)
  | .infinite true => some .lt
  | .infinite false => some .gt
  | .undefined => none

/-- The order of two doubles; an undefined double has none. -/
def compareDoubles (x y : Float) : Option Ordering :=
  match readDouble x, readDouble y with
  | .undefined, _ => none
  | _, .undefined => none
  | .finite f, .finite g => some (f.compareTo g)
  | .infinite a, .infinite b => some (compare b a)
  | .infinite true, .finite _ => some .lt
  | .infinite false, .finite _ => some .gt
  | .finite _, .infinite true => some .gt
  | .finite _, .infinite false => some .lt

/-- Whether two doubles are equal, or one undefined double: its bits tell it from others. -/
def sameDouble (x y : Float) : Bool :=
  match readDouble x, readDouble y with
  | .undefined, .undefined => x.toBits == y.toBits
  | _, _ => compareDoubles x y == some .eq

/-- The whole number that a double equals, if it equals one. -/
def wholeOf? (x : Float) : Option Int :=
  match readDouble x with
  | .finite f => f.toInt?
  | _ => none

/-- The nearest double of a whole number, ties to even; none beyond the largest double. -/
def doubleOf? (n : Int) : Option Float :=
  let size := Float.ofScientific n.natAbs false 0
  match readDouble size with
  | .finite _ => some (if n < 0 then -size else size)
  | _ => none

end Decimal
end QueryOptions
