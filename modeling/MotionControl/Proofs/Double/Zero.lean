import MotionControl.Proofs.Scalar.Trigonometry
import MotionControl.Duration

/-!
# Zeros and whole numbers

A product with a zero is a zero, whatever finite number the other factor is, but its sign
depends on both; the positive zero absorbs a zero of either sign.  A whole number of any
size is converted to the nearest double, so a duration has a finite number of seconds.
-/

namespace MotionControl
namespace Double

open Float.Model Float.Model.UnpackedFloat

/-- Zero of either sign. -/
def IsZero (a : Float) : Prop :=
  a = 0 ∨ a = -0

variable {a b : Float}

theorem isZero_zero : IsZero 0 :=
  .inl rfl

theorem isZero_mul (zero : IsZero a) (finite : b.isFinite = true) : IsZero (a * b) := by
  have packed (sign : Sign) : IsZero (Float.ofModel (Float.Model.pack (.zero sign))) := by
    cases sign with
    | positive => exact .inl rfl
    | negative => exact .inr rfl
  have product (sign : Sign) : IsZero (Float.ofModel (Float.Model.pack
      (UnpackedFloat.mul Format.binary64 (.zero sign) b.toModel.unpack))) := by
    change b.toModel.unpack.isFinite = true at finite
    generalize b.toModel.unpack = v at finite ⊢
    cases v with
    | infinity | notANumber => cases finite
    | zero other => exact packed (sign * other)
    | finite other => exact packed (sign * other)
  rcases zero with rfl | rfl
  · exact product .positive
  · exact product .negative

/-! ## Whole numbers -/

/-- Without the short cut for small numbers, a number is shifted and multiplied by one. -/
theorem ofScientific_rounds {n : ℕ} (positive : 0 < n) :
    Rounds n (UnpackedFloat.ofScientific Format.binary64 n 0) := by
  have full : 2 ^ 52 ≤ n <<< 53 * 1 := by
    rw [Nat.shiftLeft_eq, mul_one]
    exact (by norm_num : 2 ^ 52 ≤ 2 ^ 53).trans (Nat.le_mul_of_pos_left _ positive)
  have coarse (none : n <<< 53 * 1 = 0) : (-53 : ℤ) ≤ -1074 := absurd none (by omega)
  have rounded := roundWithAccuracy_rounds .positive coarse (.whole (n <<< 53 * 1))
    (le_targetExponent (.inl full))
  have kept : signed .positive (((n <<< 53 * 1 : ℕ) : ℝ) * 2 ^ (-53 : ℤ)) = n := by
    rw [mul_one, Nat.shiftLeft_eq, signed]
    push_cast
    rw [mul_assoc]
    norm_num
  have room : (0 : ℤ) ≤ 2 ^ Format.binary64.exponentBits := pow_nonneg (by norm_num) _
  have low : ¬ (0 : ℤ) > 2 ^ Format.binary64.exponentBits := not_lt.mpr room
  have high : ¬ (0 : ℤ) < -(2 ^ Format.binary64.exponentBits + (n.log2 : ℤ)) :=
    not_lt.mpr (neg_nonpos.mpr (add_nonneg room (Int.natCast_nonneg _)))
  rw [kept] at rounded
  rw [UnpackedFloat.ofScientific, dif_neg positive.ne', if_neg low, if_neg high, if_pos le_rfl]
  exact rounded

theorem ofNat_approximates (n : ℕ) :
    Approximates n (Float.ofNat n).isFinite (value (Float.ofNat n)) := by
  by_cases small : n < 2 ^ 53
  · rcases ofNat_eq small with ⟨finite, exactly⟩
    rw [exactly, finite]
    have representable : Representable n := by
      have whole := @Representable.of_int n (by rw [Nat.abs_cast]; exact_mod_cast small.le)
      exact_mod_cast whole
    exact ⟨fun _ => isNearest_of_representable representable, fun _ => rfl⟩
  · have direct : Float.ofNat n =
        Float.ofModel (Float.Model.pack (UnpackedFloat.ofScientific Format.binary64 n 0)) := by
      change Float.ofScientific n false 0 = _
      rw [Float.ofScientific, dif_neg fun both => small both.1]
      rfl
    rw [direct]
    exact (ofScientific_rounds (by omega)).approximates

theorem isFinite_seconds {period : Duration} (below : period.nanoseconds < Duration.limit) :
    (period.seconds : Float).isFinite = true := by
  have size : period.nanoseconds / Duration.perSecond < 2 ^ 64 := by
    rw [Nat.div_lt_iff_lt_mul (by decide)]
    exact below
  have whole : Rounded.Within 64
      ((period.nanoseconds / Duration.perSecond : ℕ) : Doubles .machine) := by
    refine Rounded.within_of_approximates (ofNat_approximates _) (by norm_num) (by norm_num) ?_
    rw [Nat.abs_cast]
    exact_mod_cast size.le
  have rest : period.nanoseconds % Duration.perSecond < 1000000000 := Nat.mod_lt _ (by decide)
  have part := @Rounded.natCast (Doubles .machine) _ _ _ (by omega :
    period.nanoseconds % Duration.perSecond < 2 ^ 53)
  have second := @Rounded.natCast (Doubles .machine) _ _ Duration.perSecond (by decide)
  have divisor : (2 : ℝ) ^ (0 : ℤ) ≤
      |Rounded.value ((Duration.perSecond : ℕ) : Doubles .machine)| := by
    rw [second.2, Nat.abs_cast, Duration.perSecond]
    norm_num
  have remainder : Rounded.Within 30
      ((period.nanoseconds % Duration.perSecond : ℕ) : Doubles .machine) := by
    refine ⟨part.1, ?_⟩
    rw [part.2, Nat.abs_cast]
    exact_mod_cast (rest.trans (by norm_num : 1000000000 < 2 ^ 30)).le
  have fraction := remainder.div (n := 30) second.1 divisor (by norm_num) (by norm_num)
    (by norm_num)
  exact (whole.add fraction (n := 65) (by norm_num) (by norm_num) (by norm_num)).isFinite

end Double
end MotionControl
