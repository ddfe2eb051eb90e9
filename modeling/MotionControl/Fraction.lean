/-!
# Quotients and their rounding

Every exact conversion in this library, from seconds to nanoseconds or from a
double to decimal digits, works on a quotient of natural numbers: it is scaled
by a power of two or ten and then rounded to a whole number.
-/

namespace MotionControl

/-- A quotient of natural numbers; the denominator is meant to be positive. -/
structure Fraction where
  num : Nat
  den : Nat
  deriving DecidableEq

namespace Fraction

def ofNat (n : Nat) : Fraction :=
  ⟨n, 1⟩

/-- The quotient times a power of `base`, which may be a negative one. -/
def scale (q : Fraction) (base : Nat) (exponent : Int) : Fraction :=
  if 0 ≤ exponent then ⟨q.num * Nat.pow base exponent.toNat, q.den⟩
  else ⟨q.num, q.den * Nat.pow base (-exponent).toNat⟩

/-- The whole number at or below the quotient. -/
def floor (q : Fraction) : Nat :=
  q.num / q.den

/-- Holds if the quotient lies in the lower half between two whole numbers, the
midpoint not included. -/
def inLowerHalf (q : Fraction) : Bool :=
  2 * (q.num % q.den) < q.den

/-- Holds if the quotient is midway between two whole numbers. -/
def isMidway (q : Fraction) : Bool :=
  2 * (q.num % q.den) = q.den

/-- The nearest whole number; a half goes to the even neighbour. -/
def nearest (q : Fraction) : Nat :=
  if q.inLowerHalf then q.floor
  else if q.isMidway then q.floor + q.floor % 2
  else q.floor + 1

theorem floor_ofNat (n : Nat) : (ofNat n).floor = n := by
  simp [ofNat, floor]

theorem nearest_ofNat (n : Nat) : (ofNat n).nearest = n := by
  have h : (ofNat n).inLowerHalf = true := by
    simp [ofNat, inLowerHalf, Nat.mod_one]
  simp [nearest, h, floor_ofNat]

end Fraction
end MotionControl
