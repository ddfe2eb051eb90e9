import MotionControl.Proofs.Scalar.Exact
import MotionControl.Proofs.Config.Check

/-!
# Configurations of exact numbers

Among the exact numbers the tests of single fields are comparisons of reals, and
a whole number of nanoseconds survives being written down in seconds
(`Duration.ofSeconds_seconds`).  So the standard configuration checks, to a step
of exactly twenty milliseconds.
-/

namespace MotionControl

namespace Duration

theorem seconds_real (duration : Duration) :
    (duration.seconds : ℝ) = duration.nanoseconds / perSecond := by
  have positive : ((perSecond : ℕ) : ℝ) ≠ 0 := by
    norm_num [perSecond]
  have split : ((duration.nanoseconds / perSecond : ℕ) : ℝ) * perSecond +
      (duration.nanoseconds % perSecond : ℕ) = duration.nanoseconds := by
    exact_mod_cast Nat.div_add_mod' duration.nanoseconds perSecond
  rw [seconds, Scalar.ratio, ← split]
  field_simp

/-- A number of seconds that makes a duration makes the one it is the length of. -/
theorem ofSeconds_seconds {duration : Duration} (short : duration.nanoseconds < limit) :
    ofSeconds (.real duration.seconds : Exact) = .ok duration := by
  have positive : ((perSecond : ℕ) : ℝ) ≠ 0 := by
    norm_num [perSecond]
  have nonneg : ¬ (.real duration.seconds : Exact) < 0 := by
    rw [Exact.zero_eq, Exact.real_lt, seconds_real]
    exact not_lt.mpr (div_nonneg (Nat.cast_nonneg _) (Nat.cast_nonneg _))
  have nearest : Scalar.nearestMultiple (.real duration.seconds : Exact) perSecond =
      some (duration.nanoseconds : ℤ) := by
    change some (nearestInt (duration.seconds * perSecond)) = _
    rw [seconds_real, div_mul_cancel₀ _ positive, nearestInt_natCast]
  rw [ofSeconds, if_neg nonneg, nearest]
  exact if_pos short

end Duration

namespace Config

theorem checkPositive_real (field : ConfigField) {x : ℝ} (positive : 0 < x) :
    checkPositive field (Exact.real x) = .ok () := by
  have above : ¬ (.real x : Exact) ≤ 0 := not_le.mpr positive
  simp only [checkPositive, Exact.isFinite_real, Bool.not_true, Bool.false_or, above,
    decide_false, Bool.false_eq_true, if_false]

theorem checkNonNegative_real (field : ConfigField) {x : ℝ} (nonneg : 0 ≤ x) :
    checkNonNegative field (Exact.real x) = .ok () := by
  have above : ¬ (.real x : Exact) < 0 := by
    rw [Exact.zero_eq, Exact.real_lt]
    exact not_lt.mpr nonneg
  simp only [checkNonNegative, Exact.isFinite_real, Bool.not_true, Bool.false_or, above,
    decide_false, Bool.false_eq_true, if_false]

/-- The length of a step in the standard configuration: twenty milliseconds. -/
def standardPeriod : Duration :=
  ⟨20000000⟩

theorem standardPeriod_seconds : (standardPeriod.seconds : ℝ) = 0.02 := by
  rw [Duration.seconds_real]
  norm_num [standardPeriod, Duration.perSecond]

theorem standard_internalPeriodSecs :
    (standard : Config Exact).internalPeriodSecs = .real standardPeriod.seconds := by
  have hundred : ((100 : ℕ) : ℝ) ≠ 0 := by
    norm_num
  refine (Exact.real_div _ hundred).trans ?_
  rw [standardPeriod_seconds]
  norm_num

theorem standard_internalPeriod :
    Duration.ofSeconds (standard : Config Exact).internalPeriodSecs = .ok standardPeriod := by
  rw [standard_internalPeriodSecs]
  exact Duration.ofSeconds_seconds (by decide)

theorem check_position (iterations : UInt32) (counted : iterations ≠ 0) :
    (position iterations : Config Exact).check =
      .ok ⟨⟨1, 1⟩, iterations, standardPeriod, 1, .ofWholeSeconds 3⟩ := by
  have window : (position iterations : Config Exact).warnThrottleSecs =
      .real (Duration.ofWholeSeconds 3).seconds := by
    refine congrArg Exact.real ?_
    rw [Duration.seconds_real]
    norm_num [Duration.ofWholeSeconds, Duration.perSecond]
  have period : (0 : ℝ) < standardPeriod.seconds := by
    rw [standardPeriod_seconds]
    norm_num
  have span : (0 : ℝ) ≤ (Duration.ofWholeSeconds 3).seconds := by
    rw [Duration.seconds_real]
    positivity
  rw [check_eq_ok_iff]
  exact {
    baseLink := rfl
    iterations := counted
    internalPeriodSecs := by
      change checkPositive .internalPeriodSecs (standard : Config Exact).internalPeriodSecs = _
      rw [standard_internalPeriodSecs]
      exact checkPositive_real _ period
    internalPeriod := standard_internalPeriod
    maxAngle := checkPositive_real _ one_pos
    maxDistance := checkPositive_real _ one_pos
    errorScale := checkNonNegative_real _ zero_le_one
    warnThrottleSecs := by
      rw [window]
      exact checkNonNegative_real _ span
    warnThrottle := by
      rw [window]
      exact Duration.ofSeconds_seconds (by decide)
    limits_eq := rfl
    substeps_eq := rfl
    errorScale_eq := rfl }

end Config
end MotionControl
