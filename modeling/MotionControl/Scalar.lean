/-!
# Scalars

The control law is written once over an abstract number type.  Machine doubles
run it; exact reals give the same definitions their geometric meaning.  A
scalar type therefore carries, besides the field operations, the few analytic
functions the law needs and the two facts that separate doubles from reals: a
value may fail to be finite, and there is a relative spacing `epsilon` below
which a rotation cannot be told from the identity.

No algebraic law is assumed here.  Every instance fixes its own rounding, and
the order in which operations are applied is part of each definition.
-/

namespace MotionControl

/-- The operations the control law asks of its numbers. -/
class Scalar (α : Type) extends
    Zero α, One α, Add α, Sub α, Mul α, Div α, Neg α, NatCast α, LT α, LE α where
  /-- Strict order is decidable; a value that is not a number is below nothing. -/
  decLt : DecidableRel (fun a b : α => a < b)
  /-- Order is decidable; a value that is not a number is related to nothing. -/
  decLe : DecidableRel (fun a b : α => a ≤ b)
  abs : α → α
  sqrt : α → α
  /-- Sine of an angle in radians. -/
  sin : α → α
  /-- Cosine of an angle in radians. -/
  cos : α → α
  /-- `atan2 y x` is the angle of the point `(x, y)`. -/
  atan2 : α → α → α
  /-- Relative spacing of the numbers near one; zero for exact numbers. -/
  epsilon : α
  /-- Holds of every value but the infinities and "not a number". -/
  isFinite : α → Bool
  /-- Holds of "not a number" only. -/
  isNaN : α → Bool
  /-- `nearestMultiple x n` is the whole number nearest to the exact product
  `x · n`, a half going to the even neighbour; nothing if `x` is not finite. -/
  nearestMultiple : α → Nat → Option Int

-- A type that brings a division of its own, as the reals do, is to be read with that one.
attribute [instance (low)] Scalar.toDiv

namespace Scalar

variable {α : Type} [Scalar α]

instance : DecidableRel (fun a b : α => a < b) := decLt

instance : DecidableRel (fun a b : α => a ≤ b) := decLe

/-- The quotient of two whole numbers, rounded once. -/
def ratio (numerator denominator : Nat) : α :=
  (numerator : α) / (denominator : α)

/-- The smaller of two values; a value that is not a number gives way to the
other one. -/
def least (a b : α) : α :=
  if a ≤ b || isNaN b then a else b

/-- The larger of two values; a value that is not a number gives way to the
other one. -/
def greatest (a b : α) : α :=
  if b ≤ a || isNaN b then a else b

/-- One step of a running maximum of magnitudes.  A running value that is not a
number is forgotten as soon as a further component follows. -/
def largerMagnitude (a b : α) : α :=
  if abs b ≤ a then a else abs b

end Scalar
end MotionControl
