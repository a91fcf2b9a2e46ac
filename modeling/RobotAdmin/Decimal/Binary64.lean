namespace RobotAdmin

/-- A finite double: the number `significand * 2 ^ exponent` with a sign. Zero keeps its sign. -/
structure Binary64 where
  negative : Bool
  significand : Nat
  exponent : Int
  deriving DecidableEq, Repr

namespace Binary64

/-- The least exponent; below 2^52 times its unit the doubles are evenly spaced. -/
def minExponent : Int := -1074

/-- The exponent of the largest finite doubles. -/
def maxExponent : Int := 971

def zero (negative : Bool) : Binary64 := ⟨negative, 0, minExponent⟩

def isZero (x : Binary64) : Bool := x.significand == 0

def withSign (x : Binary64) (negative : Bool) : Binary64 := { x with negative }

/-- The power of two for an exponent; one for an exponent below zero. -/
def twoTo (k : Int) : Nat := Nat.pow 2 k.toNat

/-- The exponent `k` with `2 ^ k ≤ num / den < 2 ^ (k + 1)`, both numbers being positive. -/
def magnitude (num den : Nat) : Int :=
  let k : Int := num.log2 - den.log2
  if den * twoTo k ≤ num * twoTo (-k) then k else k - 1

/-- The quotient of two numbers rounded to an integer, a half going to the even neighbour. -/
def roundDiv (num den : Nat) : Nat :=
  let q := num / den
  let twice := 2 * (num % den)
  if twice < den then q else if den < twice then q + 1 else q + q % 2

/-- The double nearest to a quotient of natural numbers, ties going to the even significand; none if
    that is beyond the finite range. -/
def ofRatio? (num den : Nat) : Option Binary64 :=
  if num = 0 then some (zero false)
  else
    let e := max (magnitude num den - 52) minExponent
    let q := roundDiv (num * twoTo (-e)) (den * twoTo e)
    let (q, e) := if q = twoTo 53 then (twoTo 52, e + 1) else (q, e)
    if maxExponent < e then none else some ⟨false, q, e⟩

/-- Numerator and denominator of the absolute value. -/
def ratio (x : Binary64) : Nat × Nat :=
  (x.significand * twoTo x.exponent, twoTo (-x.exponent))

/-- The product of two magnitudes, rounded once. -/
def mul? (x y : Binary64) : Option Binary64 :=
  ofRatio? (x.ratio.1 * y.ratio.1) (x.ratio.2 * y.ratio.2)

/-- The quotient of two magnitudes, rounded once; the divisor is not zero. -/
def div? (x y : Binary64) : Option Binary64 :=
  ofRatio? (x.ratio.1 * y.ratio.2) (x.ratio.2 * y.ratio.1)

def ofNat? (n : Nat) : Option Binary64 :=
  ofRatio? n 1

end Binary64

end RobotAdmin
