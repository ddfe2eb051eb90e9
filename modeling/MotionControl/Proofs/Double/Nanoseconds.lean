import MotionControl.Duration
import MotionControl.Proofs.Decimal.Quotient
import MotionControl.Proofs.Scalar.Real
import MotionControl.Proofs.Scalar.Trigonometry

/-!
# From seconds to nanoseconds

A number of seconds given as a double is multiplied and rounded in one step: what is read of
the double is a quotient, and the whole number nearest to a quotient is the one nearest to the
real number it stands for.  So a double that is not below zero makes a duration exactly when
its value, rounded to whole nanoseconds, is less than `2 ^ 64` seconds (`ofSeconds_eq_ok_iff`).
-/

namespace MotionControl

/-- The whole number nearest to a quotient is the one nearest to its value. -/
theorem Fraction.nearest_eq {q : Fraction} (positive : 0 < q.den) :
    (q.nearest : ℤ) = nearestInt q.value := by
  have nonneg : 0 ≤ q.value := div_nonneg (Nat.cast_nonneg _) (Nat.cast_nonneg _)
  have floor : ⌊(q.value : ℝ)⌋ = (q.floor : ℤ) := by
    rw [Rat.floor_cast, floor_eq, Int.natCast_floor_eq_floor nonneg]
  have rest : Int.fract (q.value : ℝ) + Int.fract (q.value : ℝ) =
      ((2 * (q.value - q.floor) : ℚ) : ℝ) := by
    rw [Int.fract, floor]
    push_cast
    ring
  have lower : q.inLowerHalf = true ↔ Int.fract (q.value : ℝ) + Int.fract (q.value : ℝ) < 1 := by
    rw [inLowerHalf_iff positive, rest]
    exact_mod_cast Iff.rfl
  have midway : q.isMidway = true ↔ Int.fract (q.value : ℝ) + Int.fract (q.value : ℝ) = 1 := by
    rw [isMidway_iff positive, rest]
    exact_mod_cast Iff.rfl
  rw [nearest, nearestInt, floor]
  by_cases below : q.inLowerHalf = true
  · rw [if_pos below, if_pos (lower.mp below)]
  · rw [if_neg below, if_neg (lower.not.mp below)]
    by_cases half : q.isMidway = true
    · rw [if_pos half, if_neg (midway.mp half).not_gt]
      push_cast
      rfl
    · have above := lt_of_le_of_ne (not_lt.mp (lower.not.mp below)) (Ne.symm (midway.not.mp half))
      rw [if_neg half, if_pos above]
      push_cast
      rfl

namespace Double

/-- A double is multiplied exactly and rounded once. -/
theorem nearestMultiple_eq {x : Float} (finite : x.isFinite = true) (nonneg : 0 ≤ value x)
    (n : ℕ) : Scalar.nearestMultiple x n = some (nearestInt (value x * n)) := by
  rcases exists_ofFloat_eq finite with ⟨negative, mantissa, exponent, read, -, -, -⟩
  have found : Scalar.nearestMultiple x n = (Binary64.ofFloat x).nearestMultiple n := rfl
  have size : (Binary64.scaleNearest mantissa exponent n : ℤ) =
      nearestInt (mantissa * 2 ^ exponent * n) := by
    have whole : 0 < (Binary64.magnitude (mantissa * n) exponent).den :=
      Fraction.den_scale_pos Nat.one_pos two_pos exponent
    have magnitude : ((Binary64.magnitude (mantissa * n) exponent).value : ℝ) =
        mantissa * 2 ^ exponent * n := by
      rw [Binary64.value_magnitude]
      push_cast
      ring
    rw [Binary64.scaleNearest, Fraction.nearest_eq whole, magnitude]
  have known := value_of_ofFloat finite read
  rw [found, read, Binary64.nearestMultiple, size]
  cases negative with
  | false =>
      rw [if_neg Bool.false_ne_true] at known ⊢
      rw [known]
  | true =>
      -- a sign on a value that is not below zero is that of the negative zero
      rw [if_pos rfl] at known ⊢
      have none : (mantissa * 2 ^ exponent : ℝ) = 0 :=
        (neg_nonneg.mp (known ▸ nonneg)).antisymm (by positivity)
      have zero : nearestInt 0 = 0 := by exact_mod_cast nearestInt_natCast 0
      rw [known, none, neg_zero, zero_mul, zero, neg_zero]

/-! ## Durations -/

/-- Finite and above zero. -/
def IsPositive (x : Float) : Prop :=
  x.isFinite = true ∧ 0 < value x

/-- Finite and not below zero; the negative zero is not below zero. -/
def IsNonNegative (x : Float) : Prop :=
  x.isFinite = true ∧ 0 ≤ value x

/-- The whole number of nanoseconds nearest to so many seconds. -/
noncomputable def nanoseconds (x : Float) : ℤ :=
  nearestInt (value x * ((10 ^ 9 : ℕ) : ℝ))

/-- Rounded to the nearest nanosecond, so many seconds are fewer than `2 ^ 64`. -/
def FitsDuration (x : Float) : Prop :=
  nanoseconds x < 2 ^ 64 * 10 ^ 9

theorem IsPositive.isNonNegative {x : Float} (positive : IsPositive x) : IsNonNegative x :=
  ⟨positive.1, positive.2.le⟩

theorem IsNonNegative.nanoseconds_nonneg {x : Float} (usable : IsNonNegative x) :
    0 ≤ nanoseconds x :=
  nearestInt_nonneg (mul_nonneg usable.2 (Nat.cast_nonneg _))

/-- The durations that doubles make. -/
theorem ofSeconds_eq_ok_iff {x : Float} (usable : IsNonNegative x) (duration : Duration) :
    Duration.ofSeconds x = .ok duration ↔
      FitsDuration x ∧ duration.nanoseconds = nanoseconds x := by
  have above : ¬ x < 0 := by
    rw [lt_iff usable.1 zero_eq.1, zero_eq.2]
    exact not_lt.mpr usable.2
  have second : Duration.perSecond = 10 ^ 9 := by norm_num [Duration.perSecond]
  have multiple : Scalar.nearestMultiple x Duration.perSecond = some (nanoseconds x) := by
    rw [nearestMultiple_eq usable.1 usable.2, second, nanoseconds]
  have limit : Duration.limit = 2 ^ 64 * 10 ^ 9 := by
    norm_num [Duration.limit, Duration.perSecond, UInt64.size]
  obtain ⟨n, nearest⟩ := Int.eq_ofNat_of_zero_le usable.nanoseconds_nonneg
  have fits : FitsDuration x ↔ n < Duration.limit := by
    rw [FitsDuration, nearest, limit]
    exact_mod_cast Iff.rfl
  rw [Duration.ofSeconds, if_neg above, multiple, fits, nearest]
  rcases duration with ⟨count⟩
  by_cases short : n < Duration.limit
  · simp [short, eq_comm]
  · simp [short]

theorem exists_duration_iff {x : Float} (usable : IsNonNegative x) :
    (∃ duration, Duration.ofSeconds x = .ok duration) ↔ FitsDuration x := by
  simp only [ofSeconds_eq_ok_iff usable]
  constructor
  · rintro ⟨duration, fits, -⟩
    exact fits
  · intro fits
    exact ⟨⟨(nanoseconds x).toNat⟩, fits, Int.toNat_of_nonneg usable.nanoseconds_nonneg⟩

end Double
end MotionControl
