import Mathlib.Algebra.Order.Floor.Semifield
import Mathlib.Data.Rat.Floor
import Mathlib.Tactic.FieldSimp
import Mathlib.Tactic.Linarith
import Mathlib.Tactic.LinearCombination
import Mathlib.Tactic.NormNum
import Mathlib.Tactic.Positivity
import MotionControl.Proofs.Double.Bits

/-!
# Quotients as rational numbers

A conversion works on one of many quotients that stand for a number, and its result
depends on the number alone: the floor, the rounding and the power of two below it are
those of the rational number.  A magnitude in the form in which doubles are stored is
therefore converted to its own bits.
-/

namespace MotionControl

namespace Fraction

/-- The number that a quotient stands for. -/
def value (q : Fraction) : ℚ :=
  q.num / q.den

/-- A quotient of a number other than zero. -/
structure IsPositive (q : Fraction) : Prop where
  num : 0 < q.num
  den : 0 < q.den

variable {q r : Fraction}

theorem value_ofNat (n : ℕ) : (ofNat n).value = n := by
  rw [value, ofNat, Nat.cast_one, div_one]

theorem ofNat_isPositive {n : ℕ} (positive : 0 < n) : (ofNat n).IsPositive :=
  ⟨positive, Nat.one_pos⟩

theorem den_scale_pos (positive : 0 < q.den) {base : ℕ} (base_pos : 0 < base) (exponent : ℤ) :
    0 < (q.scale base exponent).den := by
  rw [scale]
  split
  · exact positive
  · exact Nat.mul_pos positive (Nat.pow_pos base_pos)

theorem IsPositive.scale (positive : q.IsPositive) {base : ℕ} (base_pos : 0 < base)
    (exponent : ℤ) : (q.scale base exponent).IsPositive := by
  refine ⟨?_, den_scale_pos positive.den base_pos exponent⟩
  rw [Fraction.scale]
  split
  · exact Nat.mul_pos positive.num (Nat.pow_pos base_pos)
  · exact positive.num

theorem value_scale (q : Fraction) {base : ℕ} (base_pos : 0 < base) (exponent : ℤ) :
    (q.scale base exponent).value = q.value * (base : ℚ) ^ exponent := by
  have nonzero : (base : ℚ) ≠ 0 := by exact_mod_cast base_pos.ne'
  have raised (n : ℕ) : ((Nat.pow base n : ℕ) : ℚ) = (base : ℚ) ^ n := Nat.cast_pow base n
  rw [Fraction.scale]
  split
  · rename_i nonneg
    obtain ⟨n, rfl⟩ := Int.eq_ofNat_of_zero_le nonneg
    rw [value, value, Int.toNat_natCast, Nat.cast_mul, raised, zpow_natCast]
    ring
  · rename_i negative
    obtain ⟨n, rfl⟩ : ∃ n : ℕ, exponent = -n := ⟨(-exponent).toNat, by omega⟩
    rw [value, value, neg_neg, Int.toNat_natCast, Nat.cast_mul, raised, zpow_neg, zpow_natCast]
    ring

/-! ## Rounding -/

theorem floor_eq (q : Fraction) : q.floor = ⌊q.value⌋₊ :=
  (Nat.floor_div_eq_div q.num q.den).symm

/-- What the floor leaves, twice. -/
theorem two_mul_rest (positive : 0 < q.den) :
    ((2 * (q.num % q.den) : ℕ) : ℚ) = 2 * (q.value - q.floor) * q.den := by
  have split : ((q.den * q.floor + q.num % q.den : ℕ) : ℚ) = q.num := by
    rw [floor, Nat.div_add_mod]
  have nonzero : (q.den : ℚ) ≠ 0 := by exact_mod_cast positive.ne'
  have multiplied : q.value * q.den = q.num := div_mul_cancel₀ _ nonzero
  push_cast at split ⊢
  linear_combination 2 * split - 2 * multiplied

theorem inLowerHalf_iff (positive : 0 < q.den) :
    q.inLowerHalf = true ↔ 2 * (q.value - q.floor) < 1 := by
  have size : (0 : ℚ) < q.den := by exact_mod_cast positive
  rw [inLowerHalf, decide_eq_true_eq, ← Nat.cast_lt (α := ℚ), two_mul_rest positive]
  exact (mul_lt_iff_lt_one_left size)

theorem isMidway_iff (positive : 0 < q.den) :
    q.isMidway = true ↔ 2 * (q.value - q.floor) = 1 := by
  have size : (q.den : ℚ) ≠ 0 := by exact_mod_cast positive.ne'
  rw [isMidway, decide_eq_true_eq, ← Nat.cast_inj (R := ℚ), two_mul_rest positive]
  exact mul_eq_right₀ size

theorem nearest_congr (left : 0 < q.den) (right : 0 < r.den) (same : q.value = r.value) :
    q.nearest = r.nearest := by
  have floor : q.floor = r.floor := by rw [floor_eq, floor_eq, same]
  have half : q.inLowerHalf = r.inLowerHalf := by
    rw [Bool.eq_iff_iff, inLowerHalf_iff left, inLowerHalf_iff right, same, floor]
  have midway : q.isMidway = r.isMidway := by
    rw [Bool.eq_iff_iff, isMidway_iff left, isMidway_iff right, same, floor]
  rw [nearest, nearest, floor, half, midway]

/-- A whole number is the nearest one to itself. -/
theorem nearest_of_value_eq (positive : 0 < q.den) {n : ℕ} (whole : q.value = n) :
    q.nearest = n := by
  rw [nearest_congr positive Nat.one_pos (whole.trans (value_ofNat n).symm), nearest_ofNat]

end Fraction

namespace Binary64

open Fraction

/-! ## The power of two below a number -/

theorem zpow_bounds_unique {x : ℚ} {i j : ℤ} (first : 2 ^ i ≤ x ∧ x < 2 ^ (i + 1))
    (second : 2 ^ j ≤ x ∧ x < 2 ^ (j + 1)) : i = j := by
  have above := (zpow_lt_zpow_iff_right₀ (one_lt_two : (1 : ℚ) < 2)).mp
    (first.1.trans_lt second.2)
  have below := (zpow_lt_zpow_iff_right₀ (one_lt_two : (1 : ℚ) < 2)).mp
    (second.1.trans_lt first.2)
  omega

/-- The digits of the two numbers give the power of two up to one. -/
theorem estimate_bounds {q : Fraction} (positive : q.IsPositive) :
    2 ^ ((q.num.log2 : ℤ) - q.den.log2 - 1) < q.value ∧
      q.value < 2 ^ ((q.num.log2 : ℤ) - q.den.log2 + 1) := by
  have size : (0 : ℚ) < q.den := by exact_mod_cast positive.den
  have numLow : (2 : ℚ) ^ (q.num.log2 : ℤ) ≤ q.num := by
    exact_mod_cast Nat.log2_self_le positive.num.ne'
  have numHigh : (q.num : ℚ) < 2 ^ ((q.num.log2 : ℤ) + 1) := by
    exact_mod_cast Nat.lt_log2_self
  have denLow : (2 : ℚ) ^ (q.den.log2 : ℤ) ≤ q.den := by
    exact_mod_cast Nat.log2_self_le positive.den.ne'
  have denHigh : (q.den : ℚ) < 2 ^ ((q.den.log2 : ℤ) + 1) := by
    exact_mod_cast Nat.lt_log2_self
  constructor
  · rw [value, lt_div_iff₀ size]
    calc (2 : ℚ) ^ ((q.num.log2 : ℤ) - q.den.log2 - 1) * q.den
        < 2 ^ ((q.num.log2 : ℤ) - q.den.log2 - 1) * 2 ^ ((q.den.log2 : ℤ) + 1) :=
          mul_lt_mul_of_pos_left denHigh (by positivity)
      _ = 2 ^ (q.num.log2 : ℤ) := by
          rw [← zpow_add₀ two_ne_zero]
          congr 1
          ring
      _ ≤ q.num := numLow
  · rw [value, div_lt_iff₀ size]
    calc (q.num : ℚ) < 2 ^ ((q.num.log2 : ℤ) + 1) := numHigh
      _ = 2 ^ ((q.num.log2 : ℤ) - q.den.log2 + 1) * 2 ^ (q.den.log2 : ℤ) := by
          rw [← zpow_add₀ two_ne_zero]
          congr 1
          ring
      _ ≤ 2 ^ ((q.num.log2 : ℤ) - q.den.log2 + 1) * q.den :=
          mul_le_mul_of_nonneg_left denLow (by positivity)

theorem order_bounds {q : Fraction} (positive : q.IsPositive) :
    2 ^ order q ≤ q.value ∧ q.value < 2 ^ (order q + 1) := by
  obtain ⟨estimate, made⟩ : ∃ estimate : ℤ, estimate = q.num.log2 - q.den.log2 := ⟨_, rfl⟩
  have bounds := estimate_bounds positive
  have unit : (0 : ℚ) < 2 ^ estimate := by positivity
  have scaled : 1 ≤ (q.scale 2 (-estimate)).floor ↔ 2 ^ estimate ≤ q.value := by
    rw [floor_eq, Nat.one_le_floor_iff, value_scale q two_pos, Nat.cast_ofNat, zpow_neg,
      ← div_eq_mul_inv, one_le_div unit]
  rw [← made] at bounds
  rw [order, ← made]
  by_cases reached : 1 ≤ (q.scale 2 (-estimate)).floor
  · rw [if_pos reached]
    exact ⟨scaled.mp reached, bounds.2⟩
  · rw [if_neg reached, sub_add_cancel]
    exact ⟨bounds.1.le, not_le.mp fun below => reached (scaled.mpr below)⟩

theorem order_eq {q : Fraction} (positive : q.IsPositive) {k : ℤ} (low : 2 ^ k ≤ q.value)
    (high : q.value < 2 ^ (k + 1)) : order q = k :=
  zpow_bounds_unique (order_bounds positive) ⟨low, high⟩

/-! ## The bits of a number -/

/-- The nearest double depends on the number, not on the quotient that is given for it. -/
theorem nearestBits_congr {q r : Fraction} (left : q.IsPositive) (right : r.IsPositive)
    (same : q.value = r.value) : nearestBits q = nearestBits r := by
  have bounds := order_bounds right
  rw [← same] at bounds
  have order : order q = order r := order_eq left bounds.1 bounds.2
  have nearest (k : ℤ) : (q.scale 2 k).nearest = (r.scale 2 k).nearest := by
    refine nearest_congr (left.scale two_pos k).den (right.scale two_pos k).den ?_
    rw [value_scale q two_pos, value_scale r two_pos, same]
  rw [nearestBits, nearestBits, order, nearest]

theorem magnitude_isPositive {mantissa : ℕ} (positive : 0 < mantissa) (exponent : ℤ) :
    (magnitude mantissa exponent).IsPositive :=
  (ofNat_isPositive positive).scale two_pos exponent

theorem value_magnitude (mantissa : ℕ) (exponent : ℤ) :
    (magnitude mantissa exponent).value = mantissa * 2 ^ exponent := by
  rw [magnitude, value_scale _ two_pos, value_ofNat, Nat.cast_ofNat]

/-- What is stored needs no rounding. -/
theorem nearestBits_magnitude {mantissa : ℕ} {exponent : ℤ} (positive : 0 < mantissa)
    (fits : Double.Fits mantissa exponent) (bounded : exponent ≤ Double.maxExponent) :
    nearestBits (magnitude mantissa exponent) = Double.magnitudeBits mantissa exponent := by
  have usable := magnitude_isPositive positive exponent
  have bounds := order_bounds usable
  rw [value_magnitude] at bounds
  have unit : (0 : ℚ) < 2 ^ exponent := by positivity
  -- the exponent of the stored form is the one that is rounded at
  have chosen : max (order (magnitude mantissa exponent) - 52) minExponent = exponent := by
    have upper : order (magnitude mantissa exponent) < exponent + 53 := by
      rw [← zpow_lt_zpow_iff_right₀ (one_lt_two : (1 : ℚ) < 2)]
      have digits : (mantissa : ℚ) < 2 ^ (53 : ℤ) := by exact_mod_cast fits.mantissa_lt
      calc (2 : ℚ) ^ order (magnitude mantissa exponent) ≤ mantissa * 2 ^ exponent := bounds.1
        _ < 2 ^ (53 : ℤ) * 2 ^ exponent := mul_lt_mul_of_pos_right digits unit
        _ = 2 ^ (exponent + 53) := by rw [← zpow_add₀ two_ne_zero, add_comm]
    have least := fits.le_exponent
    rw [minExponent]
    rcases fits.normal with full | low
    · have lower : exponent + 52 < order (magnitude mantissa exponent) + 1 := by
        rw [← zpow_lt_zpow_iff_right₀ (one_lt_two : (1 : ℚ) < 2)]
        have digits : (2 : ℚ) ^ (52 : ℤ) ≤ mantissa := by exact_mod_cast full
        calc (2 : ℚ) ^ (exponent + 52) = 2 ^ (52 : ℤ) * 2 ^ exponent := by
              rw [← zpow_add₀ two_ne_zero, add_comm]
          _ ≤ mantissa * 2 ^ exponent := mul_le_mul_of_nonneg_right digits unit.le
          _ < 2 ^ (order (magnitude mantissa exponent) + 1) := bounds.2
      omega
    · omega
  have inside : ¬ maxExponent < exponent := not_lt.mpr bounded
  have whole : ((magnitude mantissa exponent).scale 2 (-exponent)).value = mantissa := by
    rw [value_scale _ two_pos, value_magnitude, Nat.cast_ofNat, mul_assoc,
      ← zpow_add₀ two_ne_zero, add_neg_cancel, zpow_zero, mul_one]
  have rounded := nearest_of_value_eq (usable.scale two_pos (-exponent)).den whole
  rw [nearestBits, chosen, if_neg inside, rounded, Double.magnitudeBits, minExponent,
    fractionCount, sub_neg_eq_add]
  rfl

end Binary64
end MotionControl
