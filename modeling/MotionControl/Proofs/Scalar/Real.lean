import Mathlib.Analysis.SpecialFunctions.Complex.Arg
import MotionControl.Scalar

/-!
# Reals as scalars

Over the reals the geometric definitions of this library mean what their names
say: every operation is exact, every number is finite, and the spacing below
which a rotation is taken for the identity is zero.  Values from outside, which
need not be numbers at all, are the business of `Exact`.
-/

namespace MotionControl

/-- The whole number nearest to a real, a half going to the even neighbour. -/
noncomputable def nearestInt (x : ℝ) : ℤ :=
  if Int.fract x + Int.fract x < 1 then ⌊x⌋
  else if 1 < Int.fract x + Int.fract x then ⌊x⌋ + 1
  else ⌊x⌋ + ⌊x⌋ % 2

theorem nearestInt_natCast (n : ℕ) : nearestInt n = n := by
  have whole : Int.fract (n : ℝ) = 0 := Int.fract_natCast n
  rw [nearestInt, whole, add_zero, if_pos zero_lt_one, Int.floor_natCast]

theorem nearestInt_nonneg {x : ℝ} (nonneg : 0 ≤ x) : 0 ≤ nearestInt x := by
  have floor : 0 ≤ ⌊x⌋ := Int.floor_nonneg.mpr nonneg
  rw [nearestInt]
  split_ifs <;> omega

theorem abs_nearestInt_sub_le (x : ℝ) : |(nearestInt x : ℝ) - x| ≤ 1 / 2 := by
  have split := Int.floor_add_fract x
  have nonneg := Int.fract_nonneg x
  have below := Int.fract_lt_one x
  rw [nearestInt, abs_le]
  split_ifs with lower upper
  · constructor <;> linarith
  · push_cast
    constructor <;> linarith
  · rcases Int.emod_two_eq_zero_or_one ⌊x⌋ with even | odd
    · rw [even, add_zero]
      constructor <;> linarith
    · rw [odd]
      push_cast
      constructor <;> linarith

/-- Only a midway is half of one away from the nearest whole number, which is then even. -/
theorem even_nearestInt {x : ℝ} (midway : |(nearestInt x : ℝ) - x| = 1 / 2) :
    Even (nearestInt x) := by
  have split := Int.floor_add_fract x
  have nonneg := Int.fract_nonneg x
  have below := Int.fract_lt_one x
  rw [nearestInt] at midway ⊢
  split_ifs at midway ⊢ with lower upper
  · rw [abs_of_nonpos (by linarith)] at midway
    linarith
  · push_cast at midway
    rw [abs_of_nonneg (by linarith)] at midway
    linarith
  · rw [Int.even_iff]
    omega

/-- One half itself goes to zero, which is even. -/
theorem nearestInt_pos_iff (x : ℝ) : 0 < nearestInt x ↔ 1 / 2 < x := by
  rcases abs_le.mp (abs_nearestInt_sub_le x) with ⟨lower, upper⟩
  constructor
  · intro positive
    have least : ((1 : ℤ) : ℝ) ≤ nearestInt x := Int.cast_le.mpr positive
    rw [Int.cast_one] at least
    by_contra half
    have value : (nearestInt x : ℝ) = 1 := by linarith
    have midway : |(nearestInt x : ℝ) - x| = 1 / 2 := by
      rw [abs_of_nonneg (by linarith)]
      linarith
    have one : nearestInt x = 1 := by exact_mod_cast value
    have even := even_nearestInt midway
    rw [one] at even
    exact absurd even (by decide)
  · intro more
    by_contra none
    have most : (nearestInt x : ℝ) ≤ ((0 : ℤ) : ℝ) := Int.cast_le.mpr (not_lt.mp none)
    rw [Int.cast_zero] at most
    linarith

noncomputable instance scalarReal : Scalar ℝ where
  decLt := fun a b => inferInstanceAs (Decidable (a < b))
  decLe := fun a b => inferInstanceAs (Decidable (a ≤ b))
  abs := fun x => |x|
  sqrt := Real.sqrt
  sin := Real.sin
  cos := Real.cos
  atan2 := fun y x => Complex.arg ⟨x, y⟩
  epsilon := 0
  isFinite := fun _ => true
  isNaN := fun _ => false
  nearestMultiple := fun x n => some (nearestInt (x * n))

namespace Scalar

@[simp] theorem abs_real (x : ℝ) : Scalar.abs x = |x| := rfl

@[simp] theorem sqrt_real (x : ℝ) : Scalar.sqrt x = Real.sqrt x := rfl

@[simp] theorem sin_real (x : ℝ) : Scalar.sin x = Real.sin x := rfl

@[simp] theorem cos_real (x : ℝ) : Scalar.cos x = Real.cos x := rfl

@[simp] theorem epsilon_real : (Scalar.epsilon : ℝ) = 0 := rfl

@[simp] theorem isFinite_real (x : ℝ) : Scalar.isFinite x = true := rfl

@[simp] theorem largerMagnitude_real (a b : ℝ) : largerMagnitude a b = max a |b| := by
  unfold largerMagnitude
  split_ifs with ordered
  · exact (max_eq_left ordered).symm
  · exact (max_eq_right (le_of_not_ge ordered)).symm

end Scalar
end MotionControl
