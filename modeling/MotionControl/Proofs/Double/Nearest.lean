import Mathlib.Algebra.Order.Archimedean.Real.Basic
import Mathlib.Algebra.Order.Field.Power
import Mathlib.Algebra.Order.Round
import Mathlib.Tactic.Linarith
import Mathlib.Tactic.Positivity
import Mathlib.Tactic.Ring

/-!
# Rounding to nearest

Doubles are the numbers of 53 binary digits, down to a least digit.  Rounding
returns a nearest one, and that is all that the bounds here use: a result stays
below every representable bound of the exact value, its error is half of the last
digit, and a sum with a much smaller term does not leave a power of two.
Exponents have no upper end here; overflow is a matter of how a result is stored.
Stored results are read with `exact`.
-/

namespace MotionControl
namespace Double

/-- A whole number of 53 digits times a power of two that is not too small. -/
def Representable (x : ℝ) : Prop :=
  ∃ m e : ℤ, |m| ≤ 2 ^ 53 ∧ -1074 ≤ e ∧ x = m * 2 ^ e

/-- No representable number is closer to `x` than `y`. -/
structure IsNearest (x y : ℝ) : Prop where
  representable : Representable y
  closest : ∀ z, Representable z → |y - x| ≤ |z - x|

namespace Representable

theorem neg {x : ℝ} (representable : Representable x) : Representable (-x) := by
  rcases representable with ⟨m, e, small, least, equal⟩
  refine ⟨-m, e, by rwa [abs_neg], least, ?_⟩
  rw [equal]
  push_cast
  ring

theorem zero : Representable 0 :=
  ⟨0, 0, by norm_num, by norm_num, by norm_num⟩

theorem of_int {m : ℤ} (small : |m| ≤ 2 ^ 53) : Representable m :=
  ⟨m, 0, small, by norm_num, by norm_num⟩

theorem zpow {e : ℤ} (least : -1074 ≤ e) : Representable (2 ^ e) :=
  ⟨1, e, by norm_num, least, by norm_num⟩

theorem int_mul_zpow {m e : ℤ} (small : |m| ≤ 2 ^ 53) (least : -1074 ≤ e) :
    Representable (m * 2 ^ e) :=
  ⟨m, e, small, least, rfl⟩

theorem two_mul {x : ℝ} (representable : Representable x) : Representable (2 * x) := by
  rcases representable with ⟨m, e, small, least, equal⟩
  refine ⟨m, e + 1, small, by omega, ?_⟩
  rw [equal, zpow_add_one₀ two_ne_zero]
  ring

/-- A representable number is a multiple of a unit, or it has finer digits and is then
below all numbers whose last digit is the unit. -/
theorem multiple_or_le {x : ℝ} (representable : Representable x) (t : ℤ) :
    (∃ n : ℤ, x = n * 2 ^ t) ∨ -1074 < t ∧ |x| ≤ 2 ^ (t + 52) := by
  rcases representable with ⟨m, e, small, least, equal⟩
  by_cases coarse : t ≤ e
  · left
    refine ⟨m * 2 ^ (e - t).toNat, ?_⟩
    rw [equal]
    push_cast
    rw [mul_assoc, ← zpow_natCast, ← zpow_add₀ two_ne_zero]
    congr 2
    omega
  · right
    refine ⟨by omega, ?_⟩
    have digits : |(m : ℝ)| ≤ 2 ^ 53 := by exact_mod_cast small
    have finer : (2 : ℝ) ^ e ≤ 2 ^ (t - 1) := zpow_le_zpow_right₀ one_le_two (by omega)
    have size : (2 : ℝ) ^ (t + 52) = 2 ^ 53 * 2 ^ (t - 1) := by
      rw [← zpow_natCast, ← zpow_add₀ two_ne_zero]
      congr 1
      omega
    rw [equal, abs_mul, abs_of_pos (by positivity : (0 : ℝ) < 2 ^ e), size]
    exact mul_le_mul digits finer (by positivity) (by positivity)

end Representable

theorem isNearest_of_representable {x : ℝ} (representable : Representable x) : IsNearest x x where
  representable := representable
  closest := fun z _ => by
    rw [sub_self, abs_zero]
    exact abs_nonneg _

/-- A multiple of `2 ^ t` at a distance of at most half of it is a nearest number, if
numbers as large as `x` have no finer digits. -/
theorem isNearest_of_close {x : ℝ} {r t : ℤ} (small : |r| ≤ 2 ^ 53) (least : -1074 ≤ t)
    (close : |r * 2 ^ t - x| ≤ 2 ^ t / 2) (coarse : t = -1074 ∨ 2 ^ (t + 52) ≤ |x|) :
    IsNearest x (r * 2 ^ t) where
  representable := ⟨r, t, small, least, rfl⟩
  closest := by
    have unit : (0 : ℝ) < 2 ^ t := by positivity
    -- multiples of the unit are no closer
    have multiples (n : ℤ) : |r * 2 ^ t - x| ≤ |n * 2 ^ t - x| := by
      by_cases same : n = r
      · rw [same]
      · have apart : (1 : ℝ) ≤ |((n - r : ℤ) : ℝ)| := by
          have whole : 1 ≤ |n - r| := Int.one_le_abs (sub_ne_zero.mpr same)
          exact_mod_cast whole
        have gap : (2 : ℝ) ^ t ≤ |(n : ℝ) * 2 ^ t - r * 2 ^ t| := by
          rw [← sub_mul, abs_mul, abs_of_pos unit]
          push_cast at apart
          nlinarith
        have triangle := abs_sub_le ((n : ℝ) * 2 ^ t) x (r * 2 ^ t)
        rw [abs_sub_comm x] at triangle
        linarith
    intro z representable
    rcases representable.multiple_or_le t with ⟨n, rfl⟩ | ⟨finer, below⟩
    · exact multiples n
    · have far : (2 : ℝ) ^ (t + 52) ≤ |x| := coarse.resolve_left (by omega)
      have top : ((2 ^ 52 : ℤ) : ℝ) * 2 ^ t = 2 ^ (t + 52) := by
        rw [zpow_add₀ two_ne_zero]
        norm_num
        ring
      rcases abs_le.mp below with ⟨above, under⟩
      rcases le_total 0 x with nonneg | nonpos
      · rw [abs_of_nonneg nonneg] at far
        have distance : |(2 : ℝ) ^ (t + 52) - x| = x - 2 ^ (t + 52) := by
          rw [abs_sub_comm, abs_of_nonneg (sub_nonneg.mpr far)]
        calc |r * 2 ^ t - x| ≤ |((2 ^ 52 : ℤ) : ℝ) * 2 ^ t - x| := multiples _
          _ = x - 2 ^ (t + 52) := by rw [top, distance]
          _ ≤ -(z - x) := by linarith
          _ ≤ |z - x| := neg_le_abs _
      · rw [abs_of_nonpos nonpos] at far
        have distance : |-(2 : ℝ) ^ (t + 52) - x| = -2 ^ (t + 52) - x :=
          abs_of_nonneg (by linarith)
        have bottom : ((-2 ^ 52 : ℤ) : ℝ) * 2 ^ t = -2 ^ (t + 52) := by
          rw [← top]
          push_cast
          ring
        calc |r * 2 ^ t - x| ≤ |((-2 ^ 52 : ℤ) : ℝ) * 2 ^ t - x| := multiples _
          _ = -2 ^ (t + 52) - x := by rw [bottom, distance]
          _ ≤ z - x := by linarith
          _ ≤ |z - x| := le_abs_self _

namespace IsNearest

theorem neg {x y : ℝ} (nearest : IsNearest x y) : IsNearest (-x) (-y) where
  representable := nearest.representable.neg
  closest := by
    intro z representable
    have other := nearest.closest (-z) representable.neg
    rw [← abs_neg (-y - -x), ← abs_neg (z - -x)]
    have left : -(-y - -x) = y - x := by ring
    have right : -(z - -x) = -z - x := by ring
    rw [left, right]
    exact other

theorem eq {x y : ℝ} (nearest : IsNearest x y) (representable : Representable x) : y = x := by
  have same := nearest.closest x representable
  rw [sub_self, abs_zero] at same
  exact sub_eq_zero.mp (abs_nonpos_iff.mp same)

/-- A representable bound of the exact value bounds the result. -/
theorem le {x y bound : ℝ} (nearest : IsNearest x y) (representable : Representable bound)
    (below : x ≤ bound) : y ≤ bound := by
  have close := nearest.closest bound representable
  rw [abs_of_nonneg (sub_nonneg.mpr below)] at close
  have upper := le_abs_self (y - x)
  linarith

theorem ge {x y bound : ℝ} (nearest : IsNearest x y) (representable : Representable bound)
    (above : bound ≤ x) : bound ≤ y := by
  have mirrored := nearest.neg.le representable.neg (neg_le_neg above)
  linarith

theorem magnitude_le {x y bound : ℝ} (nearest : IsNearest x y)
    (representable : Representable bound) (inside : |x| ≤ bound) : |y| ≤ bound := by
  rcases abs_le.mp inside with ⟨above, below⟩
  exact abs_le.mpr ⟨nearest.ge representable.neg above, nearest.le representable below⟩

theorem le_magnitude {x y bound : ℝ} (nearest : IsNearest x y)
    (representable : Representable bound) (outside : bound ≤ |x|) : bound ≤ |y| := by
  rcases le_total 0 x with nonneg | nonpos
  · rw [abs_of_nonneg nonneg] at outside
    exact (nearest.ge representable outside).trans (le_abs_self y)
  · rw [abs_of_nonpos nonpos] at outside
    exact (nearest.neg.ge representable outside).trans (neg_le_abs y)

/-- The error is at most half of the last digit. -/
theorem error_le {x y : ℝ} {n : ℤ} (nearest : IsNearest x y) (least : -1021 ≤ n)
    (inside : |x| ≤ 2 ^ n) : |y - x| ≤ 2 ^ (n - 54) := by
  have unit : (0 : ℝ) < 2 ^ (n - 53) := by positivity
  have top : (2 : ℝ) ^ n = 2 ^ 53 * 2 ^ (n - 53) := by
    rw [← zpow_natCast, ← zpow_add₀ two_ne_zero]
    congr 1
    omega
  have half : (2 : ℝ) ^ (n - 54) = 2 ^ (n - 53) / 2 := by
    rw [eq_div_iff two_ne_zero, ← zpow_add_one₀ two_ne_zero]
    congr 1
    omega
  -- the multiple of the last digit that is nearest to `x`
  have close := abs_sub_round (x / 2 ^ (n - 53))
  have digits : |round (x / 2 ^ (n - 53))| ≤ 2 ^ 53 := by
    have size : |x / 2 ^ (n - 53)| ≤ 2 ^ 53 := by
      rw [abs_div, abs_of_pos unit, div_le_iff₀ unit, ← top]
      exact inside
    rcases abs_le.mp size with ⟨above, below⟩
    rcases abs_le.mp close with ⟨lower, upper⟩
    rw [abs_le]
    constructor
    · have bound : ((-2 ^ 53 : ℤ) : ℝ) - 1 < (round (x / 2 ^ (n - 53)) : ℝ) := by
        push_cast
        linarith
      have whole : (-2 ^ 53 : ℤ) - 1 < round (x / 2 ^ (n - 53)) := by exact_mod_cast bound
      omega
    · have bound : (round (x / 2 ^ (n - 53)) : ℝ) < ((2 ^ 53 : ℤ) : ℝ) + 1 := by
        push_cast
        linarith
      have whole : round (x / 2 ^ (n - 53)) < (2 ^ 53 : ℤ) + 1 := by exact_mod_cast bound
      omega
  have representable : Representable (round (x / 2 ^ (n - 53)) * 2 ^ (n - 53)) :=
    .int_mul_zpow digits (by omega)
  refine (nearest.closest _ representable).trans ?_
  have scaled := mul_le_mul_of_nonneg_right close unit.le
  rw [← abs_of_pos unit, ← abs_mul, abs_of_pos unit, sub_mul, div_mul_cancel₀ x unit.ne'] at scaled
  rw [abs_sub_comm, half]
  linarith

/-- A power of two absorbs what is less than half of its last digit. -/
theorem absorbs {x y : ℝ} {n : ℤ} (nearest : IsNearest x y) (least : -1022 ≤ n)
    (inside : |x| ≤ 2 ^ n + 2 ^ (n - 54)) : |y| ≤ 2 ^ n := by
  have above {x y : ℝ} (nearest : IsNearest x y) (inside : x ≤ 2 ^ n + 2 ^ (n - 54)) :
      y ≤ 2 ^ n := by
    by_cases below : x ≤ 2 ^ n
    · exact nearest.le (.zpow (by omega)) below
    · by_contra beyond
      -- the next representable number is a whole digit away
      have next : (2 : ℝ) ^ n + 2 ^ (n - 52) ≤ y := by
        rcases nearest.representable.multiple_or_le (n - 52) with ⟨m, rfl⟩ | ⟨-, size⟩
        · have unit : (0 : ℝ) < 2 ^ (n - 52) := by positivity
          have top : (2 : ℝ) ^ n = ((2 ^ 52 : ℤ) : ℝ) * 2 ^ (n - 52) := by
            rw [Int.cast_pow, Int.cast_ofNat, ← zpow_natCast, ← zpow_add₀ two_ne_zero]
            congr 1
            omega
          rw [top, not_le] at beyond
          have more : (2 ^ 52 : ℤ) + 1 ≤ m := by
            exact_mod_cast lt_of_mul_lt_mul_right beyond unit.le
          have cast : ((2 ^ 52 : ℤ) : ℝ) + 1 ≤ m := by exact_mod_cast more
          rw [top]
          linarith [mul_le_mul_of_nonneg_right cast unit.le]
        · rw [sub_add_cancel] at size
          exact absurd ((le_abs_self y).trans size) beyond
      have quarter : (2 : ℝ) ^ (n - 52) = 4 * 2 ^ (n - 54) := by
        have split : n - 52 = 2 + (n - 54) := by ring
        rw [split, zpow_add₀ two_ne_zero]
        norm_num
      have room : (0 : ℝ) < 2 ^ (n - 54) := by positivity
      have close := nearest.closest _ (.zpow (by omega : -1074 ≤ n))
      rw [abs_of_nonneg (by linarith), abs_of_neg (by linarith)] at close
      linarith
  rcases abs_le.mp inside with ⟨low, high⟩
  refine abs_le.mpr ⟨?_, above nearest high⟩
  have mirrored := above nearest.neg (by linarith)
  linarith

end IsNearest

/-! ## What a double stands for -/

open Float.Model Float.Model.UnpackedFloat

/-- A magnitude with a sign. -/
def signed : Sign → ℝ → ℝ
  | .negative, x => -x
  | .positive, x => x

theorem signed_abs (sign : Sign) (x : ℝ) : |signed sign x| = |x| := by
  cases sign with
  | negative => exact abs_neg x
  | positive => rfl

theorem IsNearest.signed {x y : ℝ} (nearest : IsNearest x y) (sign : Sign) :
    IsNearest (signed sign x) (signed sign y) := by
  cases sign with
  | negative => exact nearest.neg
  | positive => exact nearest

/-- The value of a finite number; zero for the rest. -/
noncomputable def exact : UnpackedFloat → ℝ
  | .finite sign mantissa exponent _ => signed sign (mantissa * 2 ^ exponent)
  | .infinity _ | .notANumber | .zero _ => 0

theorem exact_zero (sign : Sign) : exact (.zero sign) = 0 :=
  rfl

theorem exact_finite (sign : Sign) {mantissa : ℕ} (exponent : ℤ) (positive : 0 < mantissa) :
    exact (.finite sign mantissa exponent positive) = signed sign (mantissa * 2 ^ exponent) :=
  rfl

end Double
end MotionControl
