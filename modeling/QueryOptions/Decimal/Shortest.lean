import QueryOptions.Decimal.Binary

/-!
# QueryOptions.Decimal.Shortest

Decimal digits of a double.

`shortest` gives the fewest digits that read back as the same double, and of those the nearest
to it. The reals that round to a double form an interval around it. On the grid of decimals with
a given number of digits only the two neighbours of the value can lie in the interval, unless the
whole grid misses it, so it is enough to test these two, for one digit, two digits and so on;
seventeen digits always suffice. `rounded` gives a fixed number of digits instead.

A result stands for `0.d₁d₂… · 10 ^ point`.
-/

namespace QueryOptions
namespace Decimal

/-- The number `0.d₁d₂… · 10 ^ point`, where `d₁d₂…` are the digits of `digits`. -/
structure Digits where
  digits : Nat
  count : Nat
  point : Int
deriving DecidableEq, Repr

/-- A quotient of whole numbers, for exact comparison. -/
structure Quotient where
  top : Nat
  bottom : Nat

namespace Quotient

/-- The quotient `n · 2 ^ e`. -/
def ofPower (n : Nat) (e : Int) : Quotient :=
  if 0 ≤ e then ⟨n * twoTo e.toNat, 1⟩ else ⟨n, twoTo (-e).toNat⟩

/-- The quotient divided by a power of ten. -/
def scaleDown (q : Quotient) (e : Int) : Quotient :=
  if 0 ≤ e then ⟨q.top, q.bottom * tenTo e.toNat⟩ else ⟨q.top * tenTo (-e).toNat, q.bottom⟩

def floor (q : Quotient) : Nat := q.top / q.bottom

end Quotient

/-- Number of decimal digits, one at least. -/
def digitCount (n : Nat) : Nat := (Nat.toDigits 10 n).length

/-- The place of the point of a positive quotient: the least `k` with the value below `10 ^ k`. -/
def pointOf (q : Quotient) : Int :=
  if q.bottom ≤ q.top then digitCount q.floor
  else
    -- the value is below one: count how often it can be multiplied by ten and stay below one
    let zeros := digitCount (q.bottom / q.top) - 1
    if q.top * tenTo zeros < q.bottom then -(zeros : Int) else 1 - (zeros : Int)

/-- Drops zeros at the end, at most as many as the fuel allows, and keeps one digit. -/
def Digits.trim : Nat → Digits → Digits
  | 0, d => d
  | fuel + 1, d =>
    if 1 < d.count && d.digits % 10 == 0 then trim fuel ⟨d.digits / 10, d.count - 1, d.point⟩
    else d

/-- Digits on the grid of `count` digits: a carry past the highest place moves the point. -/
def onGrid (digits count : Nat) (point : Int) : Digits :=
  if digits = tenTo count then ⟨1, 1, point + 1⟩ else ⟨digits, count, point⟩

/-- A positive value with the interval of reals that round to it. -/
structure Target where
  value : Quotient
  lower : Quotient
  upper : Quotient
  /-- Whether the ends of the interval belong to it. -/
  closed : Bool
  point : Int

/-- The double `mantissa · 2 ^ exponent` with its interval, which is narrower below a power of two.
-/
def Target.ofDouble (mantissa : Nat) (exponent : Int) : Target :=
  let value := Quotient.ofPower (4 * mantissa) (exponent - 2)
  let gap := if mantissa = twoTo 52 && -1074 < exponent then 1 else 2
  { value
    lower := Quotient.ofPower (4 * mantissa - gap) (exponent - 2)
    upper := Quotient.ofPower (4 * mantissa + 2) (exponent - 2)
    closed := mantissa % 2 = 0
    point := pointOf value }

/-- Whether a number on the grid of `count` digits lies in the interval. -/
def Target.contains (t : Target) (candidate count : Nat) : Bool :=
  let lower := t.lower.scaleDown (t.point - count)
  let upper := t.upper.scaleDown (t.point - count)
  if t.closed then
    lower.top ≤ candidate * lower.bottom && candidate * upper.bottom ≤ upper.top
  else lower.top < candidate * lower.bottom && candidate * upper.bottom < upper.top

/-- Tests the two neighbours of the value, the nearer first, on ever finer grids. -/
def Target.search (t : Target) : Nat → Nat → Digits
  | 0, count => onGrid (t.value.scaleDown (t.point - count)).floor count t.point
  | fuel + 1, count =>
    let scaled := t.value.scaleDown (t.point - count)
    let down := scaled.floor
    let rest := scaled.top - down * scaled.bottom
    let falls := 2 * rest < scaled.bottom || (2 * rest = scaled.bottom && down % 2 = 0)
    let nearer := if falls then down else down + 1
    let farther := if falls then down + 1 else down
    if 0 < nearer && t.contains nearer count then onGrid nearer count t.point
    else if 0 < farther && t.contains farther count then onGrid farther count t.point
    else t.search fuel (count + 1)

/-- The fewest digits that read back as the positive double `mantissa · 2 ^ exponent`. -/
def shortest (mantissa : Nat) (exponent : Int) : Digits :=
  (Target.ofDouble mantissa exponent).search 17 1

/-- A positive double with `count` digits, a half rounded up. -/
def rounded (count : Nat) (mantissa : Nat) (exponent : Int) : Digits :=
  let value := Quotient.ofPower mantissa exponent
  let point := pointOf value
  let scaled := value.scaleDown (point - count)
  let down := scaled.floor
  let rest := scaled.top - down * scaled.bottom
  (onGrid (if scaled.bottom ≤ 2 * rest then down + 1 else down) count point).trim count

end Decimal
end QueryOptions
