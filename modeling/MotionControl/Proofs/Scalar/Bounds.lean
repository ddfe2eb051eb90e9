import MotionControl.Proofs.Scalar.Rounded

/-!
# Bounds on rounded numbers

Bounds are powers of two, so that a bound of the exact value is one of the rounded
value as well, and a bound that is not too large keeps an operation from overflowing.
Where a bound alone is not enough, `Near` also keeps the distance to the number that
exact arithmetic would give.  `SoundTrigonometry` is all that is asked of sine, cosine
and angle.
-/

namespace MotionControl
namespace Rounded

open Double

variable {α : Type} [Scalar α] [Rounded α]

/-- A finite number of magnitude at most `2 ^ n`. -/
structure Within (n : ℤ) (a : α) : Prop where
  isFinite : Scalar.isFinite a = true
  le : |value a| ≤ 2 ^ n

/-- A finite number at a distance of at most `ε` from `x`. -/
structure Near (x ε : ℝ) (a : α) : Prop where
  isFinite : Scalar.isFinite a = true
  close : |value a - x| ≤ ε

/-- Sine and cosine of a finite angle are those of roughly one point of the unit circle.
The angle of a finite point is finite, and no angle is much larger than a half turn. -/
structure SoundTrigonometry (α : Type) [Scalar α] [Rounded α] : Prop where
  sin_within : ∀ a : α, Scalar.isFinite a = true → Within 0 (Scalar.sin a)
  cos_within : ∀ a : α, Scalar.isFinite a = true → Within 0 (Scalar.cos a)
  half_le : ∀ a : α, Scalar.isFinite a = true →
    1 / 2 ≤ value (Scalar.sin a) ^ 2 + value (Scalar.cos a) ^ 2
  isFinite_atan2 : ∀ b a : α, Scalar.isFinite b = true → Scalar.isFinite a = true →
    Scalar.isFinite (Scalar.atan2 b a) = true
  atan2_within : ∀ b a : α, Scalar.isFinite (Scalar.atan2 b a) = true →
    Within 2 (Scalar.atan2 b a)

variable {a b : α} {j k n : ℤ}

theorem within_of_approximates {x : ℝ}
    (approximates : Approximates x (Scalar.isFinite a) (value a)) (low : -1074 ≤ n)
    (high : n ≤ 1023) (bound : |x| ≤ 2 ^ n) : Within n a := by
  have finite := approximates.isFinite
    (bound.trans (zpow_le_zpow_right₀ one_le_two high))
  exact ⟨finite, (approximates.isNearest finite).magnitude_le (.zpow low) bound⟩

theorem near_of_approximates {x : ℝ}
    (approximates : Approximates x (Scalar.isFinite a) (value a)) (low : -1021 ≤ n)
    (high : n ≤ 1023) (bound : |x| ≤ 2 ^ n) : Near x (2 ^ (n - 54)) a := by
  have finite := approximates.isFinite
    (bound.trans (zpow_le_zpow_right₀ one_le_two high))
  exact ⟨finite, (approximates.isNearest finite).error_le low bound⟩

/-- An exact value that needs no rounding is the result. -/
theorem eq_of_approximates {x : ℝ}
    (approximates : Approximates x (Scalar.isFinite a) (value a)) (representable : Representable x)
    (bound : |x| ≤ 2 ^ (1023 : ℤ)) : Scalar.isFinite a = true ∧ value a = x :=
  ⟨approximates.isFinite bound,
    (approximates.isNearest (approximates.isFinite bound)).eq representable⟩

/-! ## Magnitudes -/

namespace Within

theorem mono (within : Within j a) (le : j ≤ n) : Within n a :=
  ⟨within.isFinite, within.le.trans (zpow_le_zpow_right₀ one_le_two le)⟩

theorem zero (n : ℤ) : Within n (0 : α) := by
  refine ⟨Rounded.zero.1, ?_⟩
  rw [Rounded.zero.2, abs_zero]
  positivity

theorem one : Within 0 (1 : α) :=
  ⟨Rounded.one.1, by rw [Rounded.one.2, abs_one, zpow_zero]⟩

theorem two : Within 1 ((2 : ℕ) : α) := by
  have number := @Rounded.natCast α _ _ 2 (by norm_num)
  exact ⟨number.1, by rw [number.2]; norm_num⟩

theorem neg (within : Within n a) : Within n (-a) :=
  ⟨(Rounded.neg a).1.trans within.isFinite, by rw [(Rounded.neg a).2, abs_neg]; exact within.le⟩

theorem abs (within : Within n a) : Within n (Scalar.abs a) :=
  ⟨(Rounded.abs a).1.trans within.isFinite, by rw [(Rounded.abs a).2, abs_abs]; exact within.le⟩

theorem abs_add_abs_le (left : Within j a) (right : Within k b) (fits : j + 1 ≤ n ∧ k + 1 ≤ n) :
    |value a| + |value b| ≤ 2 ^ n := by
  have half : (2 : ℝ) ^ n = 2 ^ (n - 1) + 2 ^ (n - 1) := by
    rw [← two_mul, ← zpow_one_add₀ two_ne_zero]
    congr 1
    omega
  have first := (left.mono (by omega : j ≤ n - 1)).le
  have second := (right.mono (by omega : k ≤ n - 1)).le
  rw [half]
  exact add_le_add first second

theorem add (left : Within j a) (right : Within k b) (fits : j + 1 ≤ n ∧ k + 1 ≤ n)
    (low : -1074 ≤ n) (high : n ≤ 1023) : Within n (a + b) :=
  within_of_approximates (Rounded.add _ _ left.isFinite right.isFinite) low high
    ((abs_add_le _ _).trans (left.abs_add_abs_le right fits))

theorem sub (left : Within j a) (right : Within k b) (fits : j + 1 ≤ n ∧ k + 1 ≤ n)
    (low : -1074 ≤ n) (high : n ≤ 1023) : Within n (a - b) :=
  within_of_approximates (Rounded.sub _ _ left.isFinite right.isFinite) low high
    ((abs_sub _ _).trans (left.abs_add_abs_le right fits))

/-- Adding a zero is exact. -/
theorem add_zero (within : Within n a) (high : n ≤ 1023) (finite : Scalar.isFinite b = true)
    (zero : value b = 0) : Within n (a + b) := by
  have sum := Rounded.add _ _ within.isFinite finite
  rw [zero, AddZeroClass.add_zero] at sum
  have size : |value a| ≤ 2 ^ (1023 : ℤ) :=
    within.le.trans (zpow_le_zpow_right₀ one_le_two high)
  rcases eq_of_approximates sum (Rounded.representable _) size with ⟨kept, same⟩
  exact ⟨kept, by rw [same]; exact within.le⟩

theorem mul (left : Within j a) (right : Within k b) (fits : j + k ≤ n) (low : -1074 ≤ n)
    (high : n ≤ 1023) : Within n (a * b) := by
  refine within_of_approximates (Rounded.mul _ _ left.isFinite right.isFinite) low high ?_
  calc |value a * value b| = |value a| * |value b| := abs_mul _ _
    _ ≤ 2 ^ j * 2 ^ k := mul_le_mul left.le right.le (abs_nonneg _) (by positivity)
    _ = 2 ^ (j + k) := (zpow_add₀ two_ne_zero _ _).symm
    _ ≤ 2 ^ n := zpow_le_zpow_right₀ one_le_two fits

theorem div (left : Within j a) (finite : Scalar.isFinite b = true) (large : 2 ^ k ≤ |value b|)
    (fits : j - k ≤ n) (low : -1074 ≤ n) (high : n ≤ 1023) : Within n (a / b) := by
  have size : (0 : ℝ) < |value b| := lt_of_lt_of_le (by positivity) large
  refine within_of_approximates (Rounded.div _ _ left.isFinite finite (abs_pos.mp size)) low
    high ?_
  calc |value a / value b| = |value a| / |value b| := abs_div _ _
    _ ≤ 2 ^ j / 2 ^ k := div_le_div₀ (by positivity) left.le (by positivity) large
    _ = 2 ^ (j - k) := (zpow_sub₀ two_ne_zero _ _).symm
    _ ≤ 2 ^ n := zpow_le_zpow_right₀ one_le_two fits

end Within

theorem le_abs_div (left : 2 ^ j ≤ |value a|) (right : Within k b) (nonzero : value b ≠ 0)
    (finite : Scalar.isFinite (a / b) = true) (fits : n ≤ j - k) (low : -1074 ≤ n) :
    2 ^ n ≤ |value (a / b)| := by
  have operands := Rounded.isFinite_of_div _ _ finite
  have size : 0 < |value b| := abs_pos.mpr nonzero
  have nearest := (Rounded.div _ _ operands.1 right.isFinite nonzero).isNearest finite
  refine nearest.le_magnitude (.zpow low) ?_
  calc (2 : ℝ) ^ n ≤ 2 ^ (j - k) := zpow_le_zpow_right₀ one_le_two fits
    _ = 2 ^ j / 2 ^ k := zpow_sub₀ two_ne_zero _ _
    _ ≤ |value a| / |value b| := div_le_div₀ (abs_nonneg _) left size right.le
    _ = |value a / value b| := (abs_div _ _).symm

theorem le_abs_mul (left : 2 ^ j ≤ |value a|) (right : 2 ^ k ≤ |value b|)
    (finite : Scalar.isFinite (a * b) = true) (fits : n ≤ j + k) (low : -1074 ≤ n) :
    2 ^ n ≤ |value (a * b)| := by
  have operands := Rounded.isFinite_of_mul _ _ finite
  have nearest := (Rounded.mul _ _ operands.1 operands.2).isNearest finite
  refine nearest.le_magnitude (.zpow low) ?_
  calc (2 : ℝ) ^ n ≤ 2 ^ (j + k) := zpow_le_zpow_right₀ one_le_two fits
    _ = 2 ^ j * 2 ^ k := zpow_add₀ two_ne_zero _ _
    _ ≤ |value a| * |value b| := mul_le_mul left right (by positivity) (abs_nonneg _)
    _ = |value a * value b| := (abs_mul _ _).symm

/-! ## Signs -/

theorem value_mul_self_nonneg (finite : Scalar.isFinite (a * a) = true) : 0 ≤ value (a * a) := by
  have operands := Rounded.isFinite_of_mul _ _ finite
  exact ((Rounded.mul _ _ operands.1 operands.2).isNearest finite).ge .zero
    (mul_self_nonneg (value a))

theorem le_value_mul_self (size : 2 ^ k ≤ |value a|) (finite : Scalar.isFinite (a * a) = true)
    (low : -1074 ≤ 2 * k) : 2 ^ (2 * k) ≤ value (a * a) := by
  have square := le_abs_mul size size finite (by omega : 2 * k ≤ k + k) low
  rwa [abs_of_nonneg (value_mul_self_nonneg finite)] at square

/-- A sum with a number that is not negative is not below the other one. -/
theorem le_value_add (finite : Scalar.isFinite (a + b) = true) (nonneg : 0 ≤ value b) :
    value a ≤ value (a + b) := by
  have operands := Rounded.isFinite_of_add _ _ finite
  exact ((Rounded.add _ _ operands.1 operands.2).isNearest finite).ge (Rounded.representable a)
    (by linarith)

theorem le_value_add' (finite : Scalar.isFinite (a + b) = true) (nonneg : 0 ≤ value a) :
    value b ≤ value (a + b) := by
  have operands := Rounded.isFinite_of_add _ _ finite
  exact ((Rounded.add _ _ operands.1 operands.2).isNearest finite).ge (Rounded.representable b)
    (by linarith)

/-! ## Roots -/

theorem sqrt_zpow (k : ℤ) : √((2 : ℝ) ^ (2 * k)) = 2 ^ k := by
  rw [mul_comm, zpow_mul, zpow_ofNat, Real.sqrt_sq (by positivity)]

theorem sqrt_within (finite : Scalar.isFinite a = true) (nonneg : 0 ≤ value a)
    (bound : value a ≤ 2 ^ n) (fits : n ≤ 2 * k) (low : -1074 ≤ k) (high : k ≤ 1023) :
    Within k (Scalar.sqrt a) := by
  refine within_of_approximates (Rounded.sqrt _ finite nonneg) low high ?_
  rw [abs_of_nonneg (Real.sqrt_nonneg _), ← sqrt_zpow]
  exact Real.sqrt_le_sqrt (bound.trans (zpow_le_zpow_right₀ one_le_two fits))

theorem isFinite_sqrt (finite : Scalar.isFinite a = true) (nonneg : 0 ≤ value a) :
    Scalar.isFinite (Scalar.sqrt a) = true :=
  (sqrt_within finite nonneg ((le_abs_self _).trans (Rounded.abs_value_le a))
    (by norm_num : (1024 : ℤ) ≤ 2 * 512) (by norm_num) (by norm_num)).isFinite

theorem value_sqrt_nonneg (finite : Scalar.isFinite (Scalar.sqrt a) = true) :
    0 ≤ value (Scalar.sqrt a) := by
  have operand := Rounded.isFinite_of_sqrt _ finite
  exact ((Rounded.sqrt _ operand.1 operand.2).isNearest finite).ge .zero (Real.sqrt_nonneg _)

theorem le_value_sqrt (finite : Scalar.isFinite a = true) (bound : 2 ^ n ≤ value a)
    (fits : 2 * k ≤ n) (low : -1074 ≤ k) : 2 ^ k ≤ value (Scalar.sqrt a) := by
  have nonneg : 0 ≤ value a := le_trans (by positivity) bound
  refine ((Rounded.sqrt _ finite nonneg).isNearest (isFinite_sqrt finite nonneg)).ge
    (.zpow low) ?_
  rw [← sqrt_zpow]
  exact Real.sqrt_le_sqrt ((zpow_le_zpow_right₀ one_le_two fits).trans bound)

/-- No positive number is smaller than the least digit. -/
theorem le_value_of_pos (positive : 0 < value a) : 2 ^ (-1074 : ℤ) ≤ value a := by
  rcases Rounded.representable a with ⟨m, e, digits, least, equal⟩
  rw [equal] at positive ⊢
  have whole : 0 < m := by
    have size := (mul_pos_iff_of_pos_right (by positivity : (0 : ℝ) < 2 ^ e)).mp positive
    exact_mod_cast size
  have one : (1 : ℝ) ≤ m := by exact_mod_cast whole
  calc (2 : ℝ) ^ (-1074 : ℤ) ≤ 2 ^ e := zpow_le_zpow_right₀ one_le_two least
    _ ≤ m * 2 ^ e := le_mul_of_one_le_left (by positivity) one

/-- A number whose square enters a sum is at most about as large as the root of the sum,
even if the square underflows. -/
theorem div_sqrt_within {sum : α} (finite : Scalar.isFinite a = true)
    (square : Scalar.isFinite (a * a) = true) (sumFinite : Scalar.isFinite sum = true)
    (positive : 0 < value sum) (le : value (a * a) ≤ value sum) :
    Within 1 (a / Scalar.sqrt sum) := by
  have rootFinite := isFinite_sqrt sumFinite positive.le
  have least : (2 : ℝ) ^ (-537 : ℤ) ≤ |value (Scalar.sqrt sum)| :=
    (le_value_sqrt sumFinite (le_value_of_pos positive) (by norm_num) (by norm_num)).trans
      (le_abs_self _)
  by_cases none : value a = 0
  · have small : Within (-537) a := ⟨finite, by rw [none, abs_zero]; positivity⟩
    exact small.div rootFinite least (by norm_num) (by norm_num) (by norm_num)
  · obtain ⟨j, lower, upper⟩ := exists_mem_Ico_zpow (abs_pos.mpr none) (one_lt_two : (1 : ℝ) < 2)
    have small : Within (j + 1) a := ⟨finite, upper.le⟩
    by_cases normal : -537 ≤ j
    · have size := le_value_mul_self lower square (by omega)
      have root := le_value_sqrt sumFinite (size.trans le) (le_refl _) (by omega)
      exact small.div rootFinite (root.trans (le_abs_self _)) (by omega) (by norm_num)
        (by norm_num)
    · exact small.div rootFinite least (by omega) (by norm_num) (by norm_num)

/-! ## Distances -/

namespace Near

variable {x y ε δ : ℝ}

theorem refl (finite : Scalar.isFinite a = true) : Near (value a) 0 a :=
  ⟨finite, by rw [sub_self, abs_zero]⟩

theorem abs_le (near : Near x ε a) : |value a| ≤ |x| + ε := by
  have split := abs_add_le x (value a - x)
  rw [add_sub_cancel] at split
  exact split.trans (add_le_add_right near.close _)

theorem within (near : Near x ε a) (bound : |x| + ε ≤ 2 ^ n) : Within n a :=
  ⟨near.isFinite, near.abs_le.trans bound⟩

theorem le_abs (near : Near x ε a) : |x| - ε ≤ |value a| := by
  have triangle := abs_sub_abs_le_abs_sub x (value a)
  have close := near.close
  rw [abs_sub_comm] at close
  linarith

theorem mono (near : Near x ε a) (le : ε ≤ δ) : Near x δ a :=
  ⟨near.isFinite, near.close.trans le⟩

/-- Errors add up, and the operation adds its own. -/
theorem of_approximates {exact : ℝ}
    (approximates : Approximates exact (Scalar.isFinite a) (value a))
    (close : |exact - x| ≤ ε) (bound : |x| + ε ≤ 2 ^ n) (low : -1021 ≤ n) (high : n ≤ 1023) :
    Near x (ε + 2 ^ (n - 54)) a := by
  have size : |exact| ≤ 2 ^ n := by
    have split := abs_add_le x (exact - x)
    rw [add_sub_cancel] at split
    linarith
  have rounded := near_of_approximates approximates low high size
  refine ⟨rounded.isFinite, ?_⟩
  have triangle := abs_sub_le (value a) exact x
  linarith [rounded.close]

theorem add (left : Near x ε a) (right : Near y δ b) (bound : |x + y| + (ε + δ) ≤ 2 ^ n)
    (low : -1021 ≤ n) (high : n ≤ 1023) : Near (x + y) (ε + δ + 2 ^ (n - 54)) (a + b) := by
  refine of_approximates (Rounded.add _ _ left.isFinite right.isFinite) ?_ bound low high
  rw [add_sub_add_comm]
  exact (abs_add_le _ _).trans (add_le_add left.close right.close)

theorem sub (left : Near x ε a) (right : Near y δ b) (bound : |x - y| + (ε + δ) ≤ 2 ^ n)
    (low : -1021 ≤ n) (high : n ≤ 1023) : Near (x - y) (ε + δ + 2 ^ (n - 54)) (a - b) := by
  refine of_approximates (Rounded.sub _ _ left.isFinite right.isFinite) ?_ bound low high
  rw [sub_sub_sub_comm]
  exact (abs_sub _ _).trans (add_le_add left.close right.close)

theorem mul (left : Near x ε a) (finite : Scalar.isFinite b = true)
    (bound : |x * value b| + ε * |value b| ≤ 2 ^ n) (low : -1021 ≤ n) (high : n ≤ 1023) :
    Near (x * value b) (ε * |value b| + 2 ^ (n - 54)) (a * b) := by
  refine of_approximates (Rounded.mul _ _ left.isFinite finite) ?_ bound low high
  rw [← sub_mul, abs_mul]
  exact mul_le_mul_of_nonneg_right left.close (abs_nonneg _)

/-- A division by one is exact. -/
theorem unscaled (near : Near x ε a) (bound : |x| + ε ≤ 2 ^ n) (high : n ≤ 1023) :
    Near x ε (a / 1) := by
  have quotient := Rounded.div _ _ near.isFinite Rounded.one.1 (by
    rw [Rounded.one.2]
    exact one_ne_zero)
  rw [Rounded.one.2, div_one] at quotient
  have size : |value a| ≤ 2 ^ (1023 : ℤ) :=
    (near.within bound).le.trans (zpow_le_zpow_right₀ one_le_two high)
  rcases eq_of_approximates quotient (Rounded.representable _) size with ⟨kept, same⟩
  exact ⟨kept, by rw [same]; exact near.close⟩

end Near

end Rounded
end MotionControl
