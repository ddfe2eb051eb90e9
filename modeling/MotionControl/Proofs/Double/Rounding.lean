import MotionControl.Proofs.Double.Format
import MotionControl.Proofs.Double.Nearest
import Mathlib.Tactic.FieldSimp

/-!
# Rounding a mantissa

An operation on doubles computes a whole mantissa together with two bits about what
lies behind it, shifts all three to the exponent that the result needs, and rounds the
mantissa there.  `Describes` ties mantissa and bits to the exact value; a shift keeps
it, so the rounded mantissa is a whole number nearest to the exact one, and the
result a nearest number of 53 digits.
-/

namespace MotionControl
namespace Double

open Float.Model Float.Model.UnpackedFloat

/-- Zero, or a number in the form in which doubles are stored, with an exponent that
may be too large. -/
def IsCanonical : UnpackedFloat → Prop
  | .finite _ mantissa exponent _ => Fits mantissa exponent
  | .zero _ => True
  | .infinity _ | .notANumber => False

/-- The result of an operation whose exact value is `x`. -/
structure Rounds (x : ℝ) (result : UnpackedFloat) : Prop where
  canonical : IsCanonical result
  nearest : IsNearest x (exact result)

/-- The mantissa is the whole part of `y`, the round bit says whether the rest is at
least a half, and the sticky bit whether there is more than that. -/
structure Describes (extended : ExtendedMantissa) (y : ℝ) : Prop where
  le : extended.mantissa ≤ y
  lt : y < extended.mantissa + 1
  round_iff : extended.roundBit = true ↔ extended.mantissa + 1 / 2 ≤ y
  sticky_iff : extended.stickyBit = true ↔
    y ≠ extended.mantissa ∧ y ≠ extended.mantissa + 1 / 2

theorem mantissa_ofMantissaAndAccuracy (mantissa : ℕ) (accuracy : Accuracy) :
    (ExtendedMantissa.ofMantissaAndAccuracy mantissa accuracy).mantissa = mantissa := by
  cases accuracy with
  | exact => rfl
  | inexact order => cases order <;> rfl

namespace Describes

theorem whole (mantissa : ℕ) :
    Describes (ExtendedMantissa.ofMantissaAndAccuracy mantissa .exact) mantissa where
  le := le_refl _
  lt := lt_add_one _
  round_iff := by simp [ExtendedMantissa.ofMantissaAndAccuracy]
  sticky_iff := by simp [ExtendedMantissa.ofMantissaAndAccuracy]

/-- A mantissa that is not exact comes with the order of the rest and a half. -/
theorem inexact {mantissa : ℕ} {order : Ordering} {y : ℝ} (above : mantissa < y)
    (below : y < mantissa + 1) (compared : cmp y (mantissa + 1 / 2) = order) :
    Describes (ExtendedMantissa.ofMantissaAndAccuracy mantissa (.inexact order)) y := by
  have kept := mantissa_ofMantissaAndAccuracy mantissa (.inexact order)
  refine ⟨by rw [kept]; exact above.le, by rw [kept]; exact below, ?_, ?_⟩
  · rw [kept]
    cases order with
    | lt =>
        have less := (cmp_eq_lt_iff _ _).mp compared
        exact ⟨nofun, fun half => absurd less half.not_gt⟩
    | eq => exact ⟨fun _ => ((cmp_eq_eq_iff _ _).mp compared).ge, fun _ => rfl⟩
    | gt => exact ⟨fun _ => ((cmp_eq_gt_iff _ _).mp compared).le, fun _ => rfl⟩
  · rw [kept]
    cases order with
    | lt =>
        have less := (cmp_eq_lt_iff _ _).mp compared
        exact ⟨fun _ => ⟨above.ne', less.ne⟩, fun _ => rfl⟩
    | eq => exact ⟨nofun, fun apart => absurd ((cmp_eq_eq_iff _ _).mp compared) apart.2⟩
    | gt =>
        have more := (cmp_eq_gt_iff _ _).mp compared
        exact ⟨fun _ => ⟨above.ne', more.ne'⟩, fun _ => rfl⟩

/-- There is nothing behind the mantissa if neither bit is set. -/
theorem eq_iff {extended : ExtendedMantissa} {y : ℝ} (describes : Describes extended y) :
    (extended.roundBit || extended.stickyBit) = true ↔ y ≠ extended.mantissa := by
  rw [Bool.or_eq_true, describes.round_iff, describes.sticky_iff]
  constructor
  · rintro (half | ⟨different, -⟩)
    · intro equal
      linarith
    · exact different
  · intro different
    by_cases half : extended.mantissa + 1 / 2 ≤ y
    · exact .inl half
    · exact .inr ⟨different, fun equal => half equal.ge⟩

theorem shiftRightOne {extended : ExtendedMantissa} {y : ℝ} (describes : Describes extended y) :
    Describes extended.shiftRightOne (y / 2) := by
  have behind := describes.eq_iff
  have le := describes.le
  have lt := describes.lt
  have digits : (extended.mantissa : ℝ) =
      2 * ((extended.mantissa / 2 : ℕ) : ℝ) + ((extended.mantissa % 2 : ℕ) : ℝ) := by
    exact_mod_cast (Nat.div_add_mod extended.mantissa 2).symm
  -- the last digit moves into the round bit
  rcases Nat.mod_two_eq_zero_or_one extended.mantissa with even | odd
  · rw [even] at digits
    push_cast at digits
    have unset : (extended.mantissa % 2 != 0) = false := by rw [even]; rfl
    exact {
      le := by change ((extended.mantissa / 2 : ℕ) : ℝ) ≤ y / 2; linarith
      lt := by change y / 2 < ((extended.mantissa / 2 : ℕ) : ℝ) + 1; linarith
      round_iff := by
        change (extended.mantissa % 2 != 0) = true ↔
          ((extended.mantissa / 2 : ℕ) : ℝ) + 1 / 2 ≤ y / 2
        rw [unset]
        exact ⟨nofun, fun half => by linarith⟩
      sticky_iff := by
        change (extended.roundBit || extended.stickyBit) = true ↔
          y / 2 ≠ ((extended.mantissa / 2 : ℕ) : ℝ) ∧
            y / 2 ≠ ((extended.mantissa / 2 : ℕ) : ℝ) + 1 / 2
        rw [behind]
        constructor
        · exact fun different => ⟨fun equal => different (by linarith), fun equal => by linarith⟩
        · exact fun apart equal => apart.1 (by linarith) }
  · rw [odd] at digits
    push_cast at digits
    have set : (extended.mantissa % 2 != 0) = true := by rw [odd]; rfl
    exact {
      le := by change ((extended.mantissa / 2 : ℕ) : ℝ) ≤ y / 2; linarith
      lt := by change y / 2 < ((extended.mantissa / 2 : ℕ) : ℝ) + 1; linarith
      round_iff := by
        change (extended.mantissa % 2 != 0) = true ↔
          ((extended.mantissa / 2 : ℕ) : ℝ) + 1 / 2 ≤ y / 2
        rw [set]
        exact ⟨fun _ => by linarith, fun _ => rfl⟩
      sticky_iff := by
        change (extended.roundBit || extended.stickyBit) = true ↔
          y / 2 ≠ ((extended.mantissa / 2 : ℕ) : ℝ) ∧
            y / 2 ≠ ((extended.mantissa / 2 : ℕ) : ℝ) + 1 / 2
        rw [behind]
        constructor
        · exact fun different => ⟨fun equal => by linarith, fun equal => different (by linarith)⟩
        · exact fun apart equal => apart.2 (by linarith) }

theorem shiftRight {extended : ExtendedMantissa} {y : ℝ} (describes : Describes extended y)
    (amount : ℕ) : Describes (extended >>> amount) (y / 2 ^ amount) := by
  induction amount with
  | zero =>
      rw [pow_zero, div_one]
      exact describes
  | succ amount inductionHypothesis =>
      rw [pow_succ, ← div_div]
      exact inductionHypothesis.shiftRightOne

/-- The rounded mantissa is a whole number nearest to `y`. -/
theorem roundedMantissa_close {extended : ExtendedMantissa} {y : ℝ}
    (describes : Describes extended y) : |(extended.roundedMantissa : ℝ) - y| ≤ 1 / 2 := by
  rcases extended with ⟨m, round, sticky⟩
  rcases describes with ⟨le, lt, round_iff, sticky_iff⟩
  dsimp only at le lt round_iff sticky_iff
  rw [abs_le]
  cases round with
  | false =>
      have below : y < m + 1 / 2 := not_le.mp fun half => Bool.false_ne_true (round_iff.mpr half)
      have kept : ExtendedMantissa.roundedMantissa ⟨m, false, sticky⟩ = m := by
        cases sticky <;> rfl
      rw [kept]
      constructor <;> linarith
  | true =>
      have half := round_iff.mp rfl
      cases sticky with
      | true =>
          have raised : ExtendedMantissa.roundedMantissa ⟨m, true, true⟩ = m + 1 := rfl
          rw [raised]
          push_cast
          constructor <;> linarith
      | false =>
          have tie : y = m + 1 / 2 := by
            by_contra different
            refine Bool.false_ne_true (sticky_iff.mpr ⟨?_, different⟩)
            intro equal
            linarith
          have even : ExtendedMantissa.roundedMantissa ⟨m, true, false⟩ = m + m % 2 := rfl
          have parity : ((m % 2 : ℕ) : ℝ) ≤ 1 := by
            exact_mod_cast (by omega : m % 2 ≤ 1)
          have nonneg : (0 : ℝ) ≤ ((m % 2 : ℕ) : ℝ) := Nat.cast_nonneg _
          rw [even, tie]
          push_cast at parity nonneg ⊢
          constructor <;> linarith

end Describes

/-! ## Exponents -/

/-- The exponent at which a mantissa is rounded. -/
def targetExponent (mantissa : ℕ) (exponent : ℤ) : ℤ :=
  max (mantissa.log2 + exponent - 52) (-1074)

theorem shiftToTargetExponent_eq (mantissa : ℕ) (exponent : ℤ) (accuracy : Accuracy) :
    shiftToTargetExponent Format.binary64 mantissa exponent accuracy =
      (ExtendedMantissa.ofMantissaAndAccuracy mantissa accuracy >>>
          (targetExponent mantissa exponent - exponent).toNat,
        exponent + (targetExponent mantissa exponent - exponent).toNat) := by
  have target : Format.binary64.targetExponent (totalExponent mantissa exponent) =
      targetExponent mantissa exponent := by
    change max ((mantissa.log2 : ℤ) + 1 + exponent - 53) (3 - 2 ^ 10 - 53) =
      max (mantissa.log2 + exponent - 52) (-1074)
    congr 1
    omega
  rw [shiftToTargetExponent, shiftToExponent, target]

theorem shiftToTargetExponent_of_lt {mantissa : ℕ} {exponent : ℤ} (small : mantissa < 2 ^ 53)
    (least : -1074 ≤ exponent) :
    (shiftToTargetExponent Format.binary64 mantissa exponent .exact).1.mantissa = mantissa ∧
      (shiftToTargetExponent Format.binary64 mantissa exponent .exact).2 = exponent := by
  have digits : mantissa.log2 ≤ 52 := by
    by_cases zero : mantissa = 0
    · rw [zero]
      decide
    · have bound := (Nat.log2_lt zero).mpr small
      omega
  have still : (targetExponent mantissa exponent - exponent).toNat = 0 := by
    rw [targetExponent]
    omega
  rw [shiftToTargetExponent_eq, still]
  exact ⟨rfl, add_zero exponent⟩

/-- A mantissa that rounding carried over the last digit is shifted once more. -/
theorem shiftToTargetExponent_carry {exponent : ℤ} (least : -1074 ≤ exponent) :
    (shiftToTargetExponent Format.binary64 (2 ^ 53) exponent .exact).1.mantissa = 2 ^ 52 ∧
      (shiftToTargetExponent Format.binary64 (2 ^ 53) exponent .exact).2 = exponent + 1 := by
  have once : (targetExponent (2 ^ 53) exponent - exponent).toNat = 1 := by
    rw [targetExponent, Nat.log2_two_pow]
    omega
  rw [shiftToTargetExponent_eq, once]
  exact ⟨rfl, rfl⟩

/-! ## The result -/

/-- What becomes of a rounded mantissa, which may have carried over. -/
def settle (sign : Sign) (mantissa : ℕ) (exponent : ℤ) : UnpackedFloat :=
  let shifted := shiftToTargetExponent Format.binary64 mantissa exponent .exact
  if zero : shifted.1.mantissa = 0 then .zero sign
  else .finite sign shifted.1.mantissa shifted.2 (Nat.pos_of_ne_zero zero)

theorem settle_exact (sign : Sign) {mantissa : ℕ} {exponent : ℤ} (bound : mantissa ≤ 2 ^ 53)
    (least : -1074 ≤ exponent) (normal : 2 ^ 52 ≤ mantissa ∨ exponent = -1074) :
    IsCanonical (settle sign mantissa exponent) ∧
      exact (settle sign mantissa exponent) = signed sign (mantissa * 2 ^ exponent) := by
  rw [settle]
  by_cases carried : mantissa = 2 ^ 53
  · rcases shiftToTargetExponent_carry least with ⟨half, next⟩
    have fits : Fits (2 ^ 52) (exponent + 1) := ⟨by norm_num, by omega, .inl (le_refl _)⟩
    rw [carried, dif_neg (by rw [half]; decide),
      finite_congr sign _ (Nat.two_pow_pos 52) half next]
    refine ⟨fits, ?_⟩
    rw [exact_finite, zpow_add_one₀ two_ne_zero]
    congr 1
    push_cast
    ring
  · rcases shiftToTargetExponent_of_lt (lt_of_le_of_ne bound carried) least with ⟨same, kept⟩
    by_cases zero : mantissa = 0
    · rw [dif_pos (same.trans zero), zero]
      refine ⟨trivial, ?_⟩
      rw [exact_zero, Nat.cast_zero, zero_mul]
      cases sign with
      | negative => exact neg_zero.symm
      | positive => rfl
    · have fits : Fits mantissa exponent := ⟨lt_of_le_of_ne bound carried, least, normal⟩
      rw [dif_neg (by rw [same]; exact zero),
        finite_congr sign _ (Nat.pos_of_ne_zero zero) same kept]
      exact ⟨fits, rfl⟩

theorem roundWithAccuracy_eq (sign : Sign) {mantissa : ℕ} {exponent : ℤ} (accuracy : Accuracy)
    (enough : exponent ≤ targetExponent mantissa exponent) :
    roundWithAccuracy Format.binary64 sign mantissa exponent accuracy =
      settle sign (ExtendedMantissa.ofMantissaAndAccuracy mantissa accuracy >>>
          (targetExponent mantissa exponent - exponent).toNat).roundedMantissa
        (targetExponent mantissa exponent) := by
  have unfolded : roundWithAccuracy Format.binary64 sign mantissa exponent accuracy =
      settle sign
        (shiftToTargetExponent Format.binary64 mantissa exponent accuracy).1.roundedMantissa
        (shiftToTargetExponent Format.binary64 mantissa exponent accuracy).2 := rfl
  have reached : exponent + (targetExponent mantissa exponent - exponent).toNat =
      targetExponent mantissa exponent := by omega
  rw [unfolded, shiftToTargetExponent_eq, reached]

section Digits

variable {mantissa amount : ℕ} {exponent : ℤ} {accuracy : Accuracy} {y : ℝ}

/-- The shift to the target exponent leaves at most 53 digits before the point. -/
theorem Describes.lt_of_target
    (describes : Describes (ExtendedMantissa.ofMantissaAndAccuracy mantissa accuracy) y)
    (reached : exponent + amount = targetExponent mantissa exponent) :
    y / 2 ^ amount < 2 ^ 53 := by
  have digits : y < 2 ^ (mantissa.log2 + 1) := by
    have whole : mantissa + 1 ≤ 2 ^ (mantissa.log2 + 1) := Nat.lt_log2_self
    have cast : (mantissa : ℝ) + 1 ≤ 2 ^ (mantissa.log2 + 1) := by exact_mod_cast whole
    have behind := describes.lt
    rw [mantissa_ofMantissaAndAccuracy] at behind
    linarith
  have room : mantissa.log2 + 1 ≤ 53 + amount := by
    have above := le_max_left ((mantissa.log2 : ℤ) + exponent - 52) (-1074)
    rw [← targetExponent, ← reached] at above
    omega
  rw [div_lt_iff₀ (by positivity), ← pow_add]
  exact lt_of_lt_of_le digits (pow_le_pow_right₀ one_le_two room)

/-- It leaves all 53 of them, but at the least exponent. -/
theorem Describes.le_of_target
    (describes : Describes (ExtendedMantissa.ofMantissaAndAccuracy mantissa accuracy) y)
    (coarse : mantissa = 0 → exponent ≤ -1074)
    (reached : exponent + amount = targetExponent mantissa exponent) :
    targetExponent mantissa exponent = -1074 ∨ 2 ^ 52 ≤ y / 2 ^ amount := by
  rw [targetExponent] at reached ⊢
  by_cases lowest : max (mantissa.log2 + exponent - 52) (-1074) = -1074
  · exact .inl lowest
  · right
    have positive : mantissa ≠ 0 := by
      intro none
      have low := coarse none
      rw [none, Nat.log2_zero] at lowest
      omega
    have digits : (2 : ℝ) ^ mantissa.log2 ≤ y := by
      have whole : 2 ^ mantissa.log2 ≤ mantissa := Nat.log2_self_le positive
      have cast : (2 : ℝ) ^ mantissa.log2 ≤ mantissa := by exact_mod_cast whole
      have behind := describes.le
      rw [mantissa_ofMantissaAndAccuracy] at behind
      linarith
    have room : 52 + amount = mantissa.log2 := by omega
    rw [le_div_iff₀ (by positivity), ← pow_add, room]
    exact digits

end Digits

/-- Settling the whole number nearest to `z` gives a number nearest to `z`, at an exponent
that leaves the digits of a double. -/
theorem settle_rounds (sign : Sign) {r : ℕ} {t : ℤ} {z : ℝ} (least : -1074 ≤ t)
    (close : |(r : ℝ) - z| ≤ 1 / 2) (upper : z < 2 ^ 53) (lower : t = -1074 ∨ 2 ^ 52 ≤ z) :
    Rounds (signed sign (z * 2 ^ t)) (settle sign r t) := by
  rcases abs_le.mp close with ⟨above, below⟩
  have bound : r ≤ 2 ^ 53 := by
    have cast : (r : ℝ) < 2 ^ 53 + 1 := by linarith
    have whole : r < 2 ^ 53 + 1 := by exact_mod_cast cast
    omega
  have normal : 2 ^ 52 ≤ r ∨ t = -1074 := by
    rcases lower with lowest | full
    · exact .inr lowest
    · left
      have cast : (2 : ℝ) ^ 52 < r + 1 := by linarith
      have whole : 2 ^ 52 < r + 1 := by exact_mod_cast cast
      omega
  have grid : (0 : ℝ) < 2 ^ t := by positivity
  rcases settle_exact sign bound least normal with ⟨canonical, settled⟩
  refine ⟨canonical, ?_⟩
  rw [settled]
  refine IsNearest.signed ?_ sign
  have nearest := isNearest_of_close (x := z * 2 ^ t) (r := r) (t := t) ?_ least ?_ ?_
  · exact_mod_cast nearest
  · rw [Nat.abs_cast]
    exact_mod_cast bound
  · rw [Int.cast_natCast, ← sub_mul, abs_mul, abs_of_pos grid]
    have scaled := mul_le_mul_of_nonneg_right close grid.le
    linarith
  · rcases lower with lowest | full
    · exact .inl lowest
    · right
      have nonneg : 0 ≤ z := le_trans (by norm_num) full
      rw [abs_of_nonneg (mul_nonneg nonneg grid.le), add_comm, zpow_add₀ two_ne_zero]
      exact mul_le_mul_of_nonneg_right (by exact_mod_cast full) grid.le

/-- A mantissa with the two bits of what lies behind it is rounded to a nearest number,
if it has enough digits.  No digits at all are enough for the least exponent. -/
theorem roundWithAccuracy_rounds (sign : Sign) {mantissa : ℕ} {exponent : ℤ}
    {accuracy : Accuracy} {y : ℝ} (coarse : mantissa = 0 → exponent ≤ -1074)
    (describes : Describes (ExtendedMantissa.ofMantissaAndAccuracy mantissa accuracy) y)
    (enough : exponent ≤ targetExponent mantissa exponent) :
    Rounds (signed sign (y * 2 ^ exponent))
      (roundWithAccuracy Format.binary64 sign mantissa exponent accuracy) := by
  obtain ⟨amount, shift⟩ : ∃ amount, amount = (targetExponent mantissa exponent - exponent).toNat :=
    ⟨_, rfl⟩
  have reached : exponent + amount = targetExponent mantissa exponent := by omega
  have least : -1074 ≤ targetExponent mantissa exponent := le_max_right _ _
  have value : y * 2 ^ exponent = y / 2 ^ amount * 2 ^ targetExponent mantissa exponent := by
    rw [← reached, zpow_add₀ two_ne_zero, zpow_natCast]
    field_simp
  rw [roundWithAccuracy_eq sign accuracy enough, ← shift, value]
  exact settle_rounds sign least (describes.shiftRight amount).roundedMantissa_close
    (describes.lt_of_target reached) (describes.le_of_target coarse reached)

end Double
end MotionControl
