import MotionControl.Scalar
import MotionControl.Binary64

/-!
# Machine doubles as scalars

Doubles carry the rounding of the hardware: every operation returns the double
nearest to the exact result, overflow gives an infinity, and an undefined
operation gives a value that is not a number.
-/

namespace MotionControl

/-- Whole numbers become the nearest double. -/
instance natCastFloat : NatCast Float where
  natCast := Float.ofNat

instance scalarFloat : Scalar Float where
  zero := 0
  one := 1
  decLt := fun a b => inferInstanceAs (Decidable (a < b))
  decLe := fun a b => inferInstanceAs (Decidable (a ≤ b))
  abs := Float.abs
  sqrt := Float.sqrt
  sin := Float.sin
  cos := Float.cos
  atan2 := Float.atan2
  epsilon := Float.ofNat 1 / Float.ofNat Binary64.fractionCount
  isFinite := Float.isFinite
  isNaN := Float.isNaN
  nearestMultiple x n := (Binary64.ofFloat x).nearestMultiple n

end MotionControl
