import MotionControl.Proofs.Double.Value

/-!
# When a sum overflows

A result is stored as an infinity when rounding has carried it to `2 ^ 1024`.  So the
exact value decides, and the limit lies half a digit above the largest finite double.
At the limit itself both neighbours are nearest; the largest double has an odd mantissa,
and the tie goes to the infinity.
-/

namespace MotionControl
namespace Double

open Float.Model Float.Model.UnpackedFloat

/-- The least magnitude that does not fit any more, half a digit above the largest double. -/
noncomputable def overflowLimit : ℝ :=
  ((2 ^ 1024 - 2 ^ 970 : ℤ) : ℝ)

theorem overflowLimit_zpow : overflowLimit = 2 ^ (1024 : ℤ) - 2 ^ (970 : ℤ) := by
  rw [overflowLimit, Int.cast_sub, Int.cast_pow, Int.cast_pow, Int.cast_ofNat]
  rfl

theorem two_zpow_digit : (2 : ℝ) ^ (971 : ℤ) = 2 ^ (970 : ℤ) * 2 := by
  rw [← zpow_add_one₀ two_ne_zero]
  norm_num

theorem overflowLimit_eq : overflowLimit = (2 ^ 53 - 1 / 2) * 2 ^ (971 : ℤ) := by
  rw [overflowLimit_zpow, two_zpow_top, sub_mul, two_zpow_digit]
  ring

/-- The limit lies in the middle between the largest double and the power of two. -/
theorem two_mul_overflowLimit : 2 * overflowLimit =
    2 ^ (1024 : ℤ) - 2 ^ (971 : ℤ) + 2 ^ (1024 : ℤ) := by
  rw [overflowLimit_zpow, two_zpow_digit]
  ring

/-! ## Away from the limit -/

theorem closer_of_lt_middle {a b x y : ℝ} (apart : a < b) (below : 2 * x < a + b) (above : b ≤ y) :
    |a - x| < |y - x| := by
  rw [abs_of_pos (by linarith : 0 < y - x), abs_lt]
  constructor <;> linarith

theorem closer_of_middle_lt {a b x y : ℝ} (apart : a < b) (above : a + b < 2 * x) (below : y ≤ a) :
    |b - x| < |y - x| := by
  rw [abs_sub_comm y, abs_of_pos (by linarith : 0 < x - y), abs_lt]
  constructor <;> linarith

theorem largest_lt_top : (2 : ℝ) ^ (1024 : ℤ) - 2 ^ (971 : ℤ) < 2 ^ (1024 : ℤ) :=
  sub_lt_self _ (by positivity)

namespace IsNearest

theorem abs {x y : ℝ} (nearest : IsNearest x y) : IsNearest |x| |y| := by
  rcases le_total 0 x with nonneg | nonpos
  · rw [abs_of_nonneg nonneg, abs_of_nonneg (nearest.ge .zero nonneg)]
    exact nearest
  · rw [abs_of_nonpos nonpos, abs_of_nonpos (nearest.le .zero nonpos)]
    exact nearest.neg

theorem lt_of_lt_limit {x y : ℝ} (nearest : IsNearest x y) (below : |x| < overflowLimit) :
    |y| < 2 ^ (1024 : ℤ) := by
  by_contra above
  have largest : Representable (2 ^ (1024 : ℤ) - 2 ^ (971 : ℤ)) := by
    have digits := @Representable.int_mul_zpow (2 ^ 53 - 1) 971 (by norm_num) (by norm_num)
    rwa [Int.cast_sub, Int.cast_pow, Int.cast_ofNat, Int.cast_one, sub_mul, one_mul,
      ← two_zpow_top] at digits
  have middle : 2 * |x| < 2 ^ (1024 : ℤ) - 2 ^ (971 : ℤ) + 2 ^ (1024 : ℤ) := by
    rw [← two_mul_overflowLimit]
    exact mul_lt_mul_of_pos_left below two_pos
  exact absurd (nearest.abs.closest _ largest)
    (closer_of_lt_middle largest_lt_top middle (not_lt.mp above)).not_ge

theorem lt_of_limit_lt {x y : ℝ} (nearest : IsNearest x y) (above : overflowLimit < |x|) :
    2 ^ (1024 : ℤ) - 2 ^ (971 : ℤ) < |y| := by
  by_contra below
  have middle : 2 ^ (1024 : ℤ) - 2 ^ (971 : ℤ) + 2 ^ (1024 : ℤ) < 2 * |x| := by
    rw [← two_mul_overflowLimit]
    exact mul_lt_mul_of_pos_left above two_pos
  exact absurd (nearest.abs.closest _ (.zpow (by norm_num)))
    (closer_of_middle_lt largest_lt_top middle (not_lt.mp below)).not_ge

end IsNearest

/-! ## At the limit -/

/-- An odd mantissa with exactly a half behind it is rounded up. -/
theorem Describes.roundedMantissa_of_tie {extended : ExtendedMantissa} {k : ℕ}
    (odd : k % 2 = 1) (describes : Describes extended (k + 1 / 2)) :
    extended.roundedMantissa = k + 1 := by
  rcases extended with ⟨m, round, sticky⟩
  rcases describes with ⟨le, lt, round_iff, sticky_iff⟩
  dsimp only at le lt round_iff sticky_iff
  have same : m = k := by
    have lower : (m : ℝ) < k + 1 := by linarith
    have upper : (k : ℝ) < m + 1 := by linarith
    have below : m < k + 1 := by exact_mod_cast lower
    have above : k < m + 1 := by exact_mod_cast upper
    omega
  rw [same] at round_iff sticky_iff
  have raised : round = true := round_iff.mpr (le_refl _)
  have exactly : sticky = false := by
    rw [← Bool.not_eq_true, sticky_iff]
    exact fun apart => apart.2 rfl
  rw [same, raised, exactly]
  change k + k % 2 = k + 1
  rw [odd]

theorem overflowLimit_bounds : (2 : ℝ) ^ (1023 : ℤ) < overflowLimit ∧
    overflowLimit < 2 ^ (1024 : ℤ) := by
  have double : (2 : ℝ) ^ (1024 : ℤ) = 2 ^ (1023 : ℤ) + 2 ^ (1023 : ℤ) := by
    rw [← mul_two, ← zpow_add_one₀ two_ne_zero]
    norm_num
  have less : (2 : ℝ) ^ (970 : ℤ) < 2 ^ (1023 : ℤ) := zpow_lt_zpow_right₀ one_lt_two (by norm_num)
  constructor
  · rw [overflowLimit_zpow, double, add_sub_assoc]
    exact lt_add_of_pos_right _ (sub_pos.mpr less)
  · rw [overflowLimit_zpow]
    exact sub_lt_self _ (by positivity)

/-- Numbers of the size of the limit are rounded at the exponent of the largest double. -/
theorem targetExponent_of_limit {n : ℕ} {f : ℤ} (positive : 0 < n)
    (limit : (n : ℝ) * 2 ^ f = overflowLimit) : targetExponent n f = 971 := by
  have unit : (0 : ℝ) < 2 ^ f := by positivity
  have lower : (2 : ℝ) ^ (n.log2 : ℤ) ≤ n := by exact_mod_cast Nat.log2_self_le positive.ne'
  have upper : (n : ℝ) < 2 ^ ((n.log2 : ℤ) + 1) := by exact_mod_cast Nat.lt_log2_self
  have below : (2 : ℝ) ^ ((n.log2 : ℤ) + f) < 2 ^ (1024 : ℤ) := by
    rw [zpow_add₀ two_ne_zero]
    exact ((mul_le_mul_of_nonneg_right lower unit.le).trans_eq limit).trans_lt
      overflowLimit_bounds.2
  have above : (2 : ℝ) ^ (1023 : ℤ) < 2 ^ ((n.log2 : ℤ) + 1 + f) := by
    rw [zpow_add₀ two_ne_zero _ f]
    exact (overflowLimit_bounds.1.trans_eq limit.symm).trans (mul_lt_mul_of_pos_right upper unit)
  have small := (zpow_lt_zpow_iff_right₀ one_lt_two).mp below
  have large := (zpow_lt_zpow_iff_right₀ one_lt_two).mp above
  rw [targetExponent]
  omega

theorem round_of_limit (sign : Sign) {m : ℕ} {e : ℤ} (positive : 0 < m)
    (limit : (m : ℝ) * 2 ^ e = overflowLimit) :
    |exact (UnpackedFloat.round Format.binary64 sign m e)| = 2 ^ (1024 : ℤ) := by
  obtain ⟨n, f, nonzero, value, enough, rounded⟩ := exists_round_eq e positive
  have target := targetExponent_of_limit nonzero (value.trans limit)
  have shifted : (2 : ℝ) ^ (971 - f).toNat * 2 ^ f = 2 ^ (971 : ℤ) := by
    rw [target] at enough
    rw [← zpow_natCast, ← zpow_add₀ two_ne_zero, Int.toNat_of_nonneg (by omega), sub_add_cancel]
  have behind : (n : ℝ) / 2 ^ (971 - f).toNat = ((2 ^ 53 - 1 : ℕ) : ℝ) + 1 / 2 := by
    rw [div_eq_iff (by positivity), ← mul_left_inj' (by positivity : (2 : ℝ) ^ f ≠ 0),
      value.trans limit, overflowLimit_eq, mul_assoc, shifted]
    norm_num
  have describes := (Describes.whole n).shiftRight (971 - f).toNat
  rw [behind] at describes
  rw [rounded sign, roundWithAccuracy_eq sign .exact enough, target,
    describes.roundedMantissa_of_tie (by norm_num),
    (settle_exact sign (by norm_num) (by norm_num) (.inl (by norm_num))).2, signed_abs,
    abs_of_pos (by positivity), two_zpow_top]
  norm_num

theorem normalize_of_limit {n e : ℤ} (zeroSign : Sign) (limit : |(n : ℝ) * 2 ^ e| = overflowLimit) :
    |exact (normalize Format.binary64 n e zeroSign)| = 2 ^ (1024 : ℤ) := by
  have unit : (0 : ℝ) < 2 ^ e := by positivity
  rw [abs_mul, abs_of_pos unit] at limit
  rw [UnpackedFloat.normalize]
  cases order : compare n 0 with
  | lt =>
      have negative : n < 0 := compare_lt_iff_lt.mp order
      refine round_of_limit .negative (by omega) ?_
      rw [← limit, ← Int.cast_abs, abs_of_neg negative, ← Int.toNat_of_nonneg (by omega : 0 ≤ -n)]
      rfl
  | eq =>
      have none : n = 0 := compare_eq_iff_eq.mp order
      rw [none, Int.cast_zero, abs_zero, zero_mul] at limit
      have positive : (0 : ℝ) < 2 ^ (1023 : ℤ) := by positivity
      exact absurd limit (positive.trans overflowLimit_bounds.1).ne
  | gt =>
      have positive : 0 < n := compare_gt_iff_gt.mp order
      refine round_of_limit .positive (by omega) ?_
      rw [← limit, ← Int.cast_abs, abs_of_pos positive, ← Int.toNat_of_nonneg positive.le]
      rfl

/-! ## Sums -/

theorem add_of_limit {u v : UnpackedFloat} (left : |exact u| < overflowLimit)
    (right : |exact v| < overflowLimit) (canonical : IsCanonical u) (other : IsCanonical v)
    (limit : |exact u + exact v| = overflowLimit) :
    |exact (UnpackedFloat.add Format.binary64 u v)| = 2 ^ (1024 : ℤ) := by
  cases u with
  | infinity | notANumber => cases canonical
  | zero s =>
      rw [exact_zero, zero_add] at limit
      exact absurd limit right.ne
  | finite s m e positive =>
      cases v with
      | infinity | notANumber => cases other
      | zero t =>
          rw [exact_zero, add_zero] at limit
          exact absurd limit left.ne
      | finite t n f nonzero =>
          rw [exact_add_exact] at limit
          exact normalize_of_limit _ limit

theorem abs_value_lt_limit (a : Float) : |value a| < overflowLimit := by
  have less : (2 : ℝ) ^ (970 : ℤ) < 2 ^ (971 : ℤ) := zpow_lt_zpow_right₀ one_lt_two (by norm_num)
  rw [overflowLimit_zpow]
  exact (abs_value_le_largest a).trans_lt (sub_lt_sub_left less _)

/-- The sum of two finite doubles is finite exactly if the exact sum stays below the limit. -/
theorem isFinite_add_iff {a b : Float} (left : a.isFinite = true) (right : b.isFinite = true) :
    (a + b).isFinite = true ↔ |value a + value b| < overflowLimit := by
  have canonical := isCanonical_of_isFinite left
  have other := isCanonical_of_isFinite right
  rcases add_rounds canonical other with ⟨rounded, nearest⟩
  have stored := isFinite_pack_iff rounded
  constructor
  · intro finite
    rcases unpack_pack_canonical rounded with ⟨-, -, size⟩ | ⟨infinite, -⟩
    · rcases lt_trichotomy |value a + value b| overflowLimit with below | limit | above
      · exact below
      · have overflowed := add_of_limit (abs_value_lt_limit a) (abs_value_lt_limit b) canonical
          other limit
        exact absurd (stored.mp finite) overflowed.not_lt
      · exact absurd size (nearest.lt_of_limit_lt above).not_ge
    · exact absurd finite (Bool.eq_false_iff.mp infinite)
  · intro below
    exact stored.mpr (nearest.lt_of_lt_limit below)

end Double
end MotionControl
