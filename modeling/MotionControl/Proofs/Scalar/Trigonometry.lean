import MotionControl.Proofs.Double.Value
import MotionControl.Proofs.Scalar.Bounds

/-!
# Doubles with a choice of trigonometry

The hardware fixes the rounding of the four operations and of the root, but sine,
cosine and angle come from a library that differs between systems.  `Doubles` are
machine doubles with these three functions left open, and they are rounded numbers
whichever functions are chosen.
-/

namespace MotionControl

/-- The functions that the hardware leaves to a library. -/
structure Trigonometry where
  sin : Float → Float
  cos : Float → Float
  atan2 : Float → Float → Float

/-- The library of the machine. -/
def Trigonometry.machine : Trigonometry :=
  ⟨Float.sin, Float.cos, Float.atan2⟩

/-- Machine doubles, to be calculated with in the given trigonometry. -/
def Doubles (_ : Trigonometry) : Type :=
  Float

instance scalarDoubles (t : Trigonometry) : Scalar (Doubles t) :=
  { scalarFloat with sin := t.sin, cos := t.cos, atan2 := t.atan2 }

/-- The scalars that the program runs on are one of these. -/
theorem scalarDoubles_machine : scalarDoubles .machine = scalarFloat :=
  rfl

namespace Double

theorem epsilon_eq : (Float.ofNat 1 / Float.ofNat Binary64.fractionCount).isFinite = true ∧
    value (Float.ofNat 1 / Float.ofNat Binary64.fractionCount) = 2 ^ (-52 : ℤ) := by
  have one := @ofNat_eq 1 (by norm_num)
  have count := @ofNat_eq Binary64.fractionCount (by decide)
  have size : value (Float.ofNat Binary64.fractionCount) = 2 ^ (52 : ℤ) := by
    rw [count.2, Binary64.fractionCount]
    norm_num
  have quotient := div_approximates one.1 count.1 (by rw [size]; positivity)
  rw [one.2, size, Nat.cast_one, one_div, ← zpow_neg] at quotient
  have finite := quotient.isFinite (by
    rw [abs_of_pos (by positivity)]
    exact zpow_le_zpow_right₀ one_le_two (by norm_num))
  exact ⟨finite, (quotient.isNearest finite).eq (.zpow (by norm_num))⟩

theorem zero_eq : (0 : Float).isFinite = true ∧ value 0 = 0 :=
  ⟨rfl, rfl⟩

theorem one_eq : (1 : Float).isFinite = true ∧ value 1 = 1 := by
  have converted := @ofNat_eq 1 (by norm_num)
  rw [Nat.cast_one] at converted
  exact converted

end Double

noncomputable instance roundedDoubles (t : Trigonometry) : Rounded (Doubles t) where
  value := Double.value
  representable := Double.value_representable
  abs_value_le := Double.abs_value_le
  isNaN_eq := fun _ => Double.not_isNaN
  zero := Double.zero_eq
  one := Double.one_eq
  natCast := fun _ => Double.ofNat_eq
  epsilon := Double.epsilon_eq
  neg := fun a => ⟨Double.isFinite_neg a, Double.value_neg a⟩
  abs := fun a => ⟨Double.isFinite_abs a, Double.value_abs a⟩
  add := fun _ _ => Double.add_approximates
  sub := fun _ _ => Double.sub_approximates
  mul := fun _ _ => Double.mul_approximates
  div := fun _ _ => Double.div_approximates
  sqrt := fun _ => Double.sqrt_approximates
  le_iff := fun _ _ => Double.le_iff
  lt_iff := fun _ _ => Double.lt_iff
  isFinite_of_add := fun _ _ => Double.isFinite_of_add
  isFinite_of_mul := fun _ _ => Double.isFinite_of_mul
  isFinite_of_div := fun _ _ => Double.isFinite_of_div
  isFinite_of_sqrt := fun _ => Double.isFinite_of_sqrt

end MotionControl
