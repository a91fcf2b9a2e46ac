import RobotAdmin.Decimal.Binary64

namespace RobotAdmin.Decimal

/-- A positive decimal number: the digits, the first of them not zero, stand for `0.d₁d₂… * 10 ^ point`. -/
structure Digits where
  digits : List Char
  point : Int

/-- The reals that round to a double, as multiples of `1 / den`: those between `low` and `high`, the
    bounds included exactly for an even significand. -/
structure Interval where
  low : Nat
  value : Nat
  high : Nat
  den : Nat
  closed : Bool

/-- The power of ten for an exponent; one for an exponent below zero. -/
def tenTo (k : Int) : Nat := Nat.pow 10 k.toNat

/-- The interval of a positive double. Below a power of two the neighbour is only half as far. -/
def interval (x : Binary64) : Interval :=
  let unit := Binary64.twoTo x.exponent
  let below := if x.significand = Binary64.twoTo 52 ∧ Binary64.minExponent < x.exponent then 1 else 2
  { low := (4 * x.significand - below) * unit
    value := 4 * x.significand * unit
    high := (4 * x.significand + 2) * unit
    den := 4 * Binary64.twoTo (-x.exponent)
    closed := x.significand % 2 = 0 }

def Interval.holds (i : Interval) (num den : Nat) : Bool :=
  if i.closed then i.low * den ≤ num * i.den && num * i.den ≤ i.high * den
  else i.low * den < num * i.den && num * i.den < i.high * den

/-- The multiple of `10 ^ e` in the interval that is nearest to its value, as a count of such units; of
    two equally near ones the even count. -/
def Interval.nearest? (i : Interval) (e : Int) : Option Nat :=
  let up := tenTo e
  let down := tenTo (-e)
  let scaled := i.value * down
  let unit := i.den * up
  let floor := scaled / unit
  let twice := 2 * (scaled % unit)
  let first := if twice < unit then floor else if unit < twice then floor + 1 else floor + floor % 2
  let second := if first = floor then floor + 1 else floor
  if i.holds (first * up) down then some first
  else if i.holds (second * up) down then some second
  else none

/-- The number of decimal digits before the point of `num / den`, not positive if it is below one. -/
def pointOf (num den : Nat) : Int :=
  let k : Int := (Nat.toDigits 10 num).length - (Nat.toDigits 10 den).length
  if den * tenTo k ≤ num * tenTo (-k) then k + 1 else k

/-- Strips the zeros that end a number's digits. -/
def stripZeros (digits : List Char) : List Char :=
  (digits.reverse.dropWhile (· == '0')).reverse

/-- The fewest digits that read back as the given positive double, and of these the nearest to it.
    Seventeen digits always do. -/
def shortest (x : Binary64) : Digits :=
  let i := interval x
  let point := pointOf i.value i.den
  let found := (List.range 17).findSome? fun k =>
    let e := point - 1 - (k : Nat)
    (i.nearest? e).map fun n => (n, e)
  let (n, e) := found.getD (0, 0)
  let digits := Nat.toDigits 10 n
  { digits := stripZeros digits, point := digits.length + e }

end RobotAdmin.Decimal
