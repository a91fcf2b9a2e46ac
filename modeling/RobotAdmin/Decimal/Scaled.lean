import RobotAdmin.Decimal.Binary64

namespace RobotAdmin.Decimal

/-- The largest power of ten that is a double. -/
def maxPower : Nat := 308

/-- The double nearest to a power of ten. -/
def power? (k : Nat) : Option Binary64 :=
  Binary64.ofNat? (Nat.pow 10 k)

/-- Divides by `10 ^ k`, in steps of the largest power while `k` exceeds it. -/
def scaleDown? (x : Binary64) (k : Nat) : Option Binary64 :=
  if k ≤ maxPower then (power? k).bind x.div?
  else if x.isZero then some x
  else ((power? maxPower).bind x.div?).bind fun y => scaleDown? y (k - maxPower)
termination_by k
decreasing_by simp [maxPower] at *; omega

/-- Multiplies by `10 ^ k`; none if the result is beyond the finite range. -/
def scaleUp? (x : Binary64) (k : Nat) : Option Binary64 :=
  if k ≤ maxPower then (power? k).bind x.mul?
  else if x.isZero then some x
  else none

/-- The double for `n * 10 ^ scale`. The count and the power of ten are rounded before they are put
    together, so the result need not be the nearest double. -/
def scaled? (n : Nat) (scale : Int) : Option Binary64 :=
  (Binary64.ofNat? n).bind fun x =>
    if scale < 0 then scaleDown? x scale.natAbs else scaleUp? x scale.natAbs

end RobotAdmin.Decimal
