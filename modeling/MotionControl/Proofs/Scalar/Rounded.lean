import Mathlib.Analysis.Real.Sqrt
import MotionControl.Proofs.Double.Nearest
import MotionControl.Scalar

/-!
# Rounded arithmetic

What a proof on the control law has to know about machine doubles: a finite one stands
for a real number, an operation on finite ones returns a number nearest to the exact
result, or an infinity if that is too large, and a result that is finite was made of
finite operands.  How the numbers are stored, and what sine and cosine return, is left
open.
-/

namespace MotionControl

/-- The result of an operation whose exact value is `x`: whether it is finite, and the
value that it then has. -/
structure Approximates (x : ℝ) (finite : Bool) (result : ℝ) : Prop where
  isNearest : finite = true → Double.IsNearest x result
  isFinite : |x| ≤ 2 ^ (1023 : ℤ) → finite = true

/-- Scalars whose finite values are rounded numbers. -/
class Rounded (α : Type) [Scalar α] where
  /-- The number that a finite value stands for. -/
  value : α → ℝ
  representable : ∀ a, Double.Representable (value a)
  abs_value_le : ∀ a, |value a| ≤ 2 ^ (1024 : ℤ)
  isNaN_eq : ∀ a : α, Scalar.isFinite a = true → Scalar.isNaN a = false
  zero : Scalar.isFinite (0 : α) = true ∧ value 0 = 0
  one : Scalar.isFinite (1 : α) = true ∧ value 1 = 1
  natCast : ∀ n : ℕ, n < 2 ^ 53 → Scalar.isFinite (n : α) = true ∧ value (n : α) = n
  epsilon : Scalar.isFinite (Scalar.epsilon : α) = true ∧
    value Scalar.epsilon = 2 ^ (-52 : ℤ)
  neg : ∀ a : α, Scalar.isFinite (-a) = Scalar.isFinite a ∧ value (-a) = -value a
  abs : ∀ a : α, Scalar.isFinite (Scalar.abs a) = Scalar.isFinite a ∧
    value (Scalar.abs a) = |value a|
  add : ∀ a b : α, Scalar.isFinite a = true → Scalar.isFinite b = true →
    Approximates (value a + value b) (Scalar.isFinite (a + b)) (value (a + b))
  sub : ∀ a b : α, Scalar.isFinite a = true → Scalar.isFinite b = true →
    Approximates (value a - value b) (Scalar.isFinite (a - b)) (value (a - b))
  mul : ∀ a b : α, Scalar.isFinite a = true → Scalar.isFinite b = true →
    Approximates (value a * value b) (Scalar.isFinite (a * b)) (value (a * b))
  div : ∀ a b : α, Scalar.isFinite a = true → Scalar.isFinite b = true → value b ≠ 0 →
    Approximates (value a / value b) (Scalar.isFinite (a / b)) (value (a / b))
  sqrt : ∀ a : α, Scalar.isFinite a = true → 0 ≤ value a →
    Approximates (√(value a)) (Scalar.isFinite (Scalar.sqrt a)) (value (Scalar.sqrt a))
  le_iff : ∀ a b : α, Scalar.isFinite a = true → Scalar.isFinite b = true →
    (a ≤ b ↔ value a ≤ value b)
  lt_iff : ∀ a b : α, Scalar.isFinite a = true → Scalar.isFinite b = true →
    (a < b ↔ value a < value b)
  isFinite_of_add : ∀ a b : α, Scalar.isFinite (a + b) = true →
    Scalar.isFinite a = true ∧ Scalar.isFinite b = true
  isFinite_of_mul : ∀ a b : α, Scalar.isFinite (a * b) = true →
    Scalar.isFinite a = true ∧ Scalar.isFinite b = true
  /-- The divisor may be an infinity, and the quotient is zero then. -/
  isFinite_of_div : ∀ a b : α, Scalar.isFinite (a / b) = true → Scalar.isFinite a = true ∧
    ((Scalar.isFinite b = true ∧ value b ≠ 0) ∨ (Scalar.isFinite b = false ∧ value (a / b) = 0))
  isFinite_of_sqrt : ∀ a : α, Scalar.isFinite (Scalar.sqrt a) = true →
    Scalar.isFinite a = true ∧ 0 ≤ value a

end MotionControl
