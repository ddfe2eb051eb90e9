import MotionControl.MotionError
import MotionControl.Proofs.Geometry.Bounded

/-!
# The size of a rounded motion error

Over rounded numbers a motion error can have components that are not finite, and those
that are finite are bounded all the same: the linear ones by twice the distance that the
limits allow, the angular ones by a constant.  No assumption on the poses is needed, not
even that they are finite.
-/

namespace MotionControl

open Rounded

variable {α : Type} [Scalar α] [Rounded α]

/-- The smaller of two numbers is bounded by either, if neither is negative. -/
theorem abs_least_le {a b : α} (finite : Scalar.isFinite b = true) (nonneg : 0 ≤ value b)
    (positive : Scalar.isFinite a = true → 0 ≤ value a)
    (kept : Scalar.isFinite (Scalar.least a b) = true) : |value (Scalar.least a b)| ≤ value b := by
  rw [Scalar.least, Rounded.isNaN_eq b finite, Bool.or_false] at *
  by_cases less : a ≤ b
  · rw [if_pos (decide_eq_true less)] at kept ⊢
    rw [abs_of_nonneg (positive kept)]
    exact (Rounded.le_iff _ _ kept finite).mp less
  · rw [if_neg (by rwa [decide_eq_true_eq])]
    exact (abs_of_nonneg nonneg).le

theorem least_within {a b : α} {n : ℤ} (bounded : Within n a) (finite : Scalar.isFinite b = true)
    (nonneg : 0 ≤ value b) : Within n (Scalar.least a b) := by
  rw [Scalar.least, Rounded.isNaN_eq b finite, Bool.or_false]
  by_cases less : a ≤ b
  · rw [if_pos (decide_eq_true less)]
    exact bounded
  · rw [if_neg (by rwa [decide_eq_true_eq])]
    rw [Rounded.le_iff _ _ bounded.isFinite finite, not_le] at less
    refine ⟨finite, ?_⟩
    rw [abs_of_nonneg nonneg]
    exact less.le.trans ((le_abs_self _).trans bounded.le)

theorem greatest_zero {a : α} (finite : Scalar.isFinite a = true) (nonneg : 0 ≤ value a) :
    Scalar.greatest a 0 = a := by
  have le : (0 : α) ≤ a := by
    rw [Rounded.le_iff _ _ Rounded.zero.1 finite, Rounded.zero.2]
    exact nonneg
  rw [Scalar.greatest, decide_eq_true le, Bool.true_or, if_pos rfl]

/-- Direction and distance of a rounded vector, whatever its components are. -/
theorem Vec3.directionDistance_size (v : Vec3 α) :
    (∀ c ∈ v.directionDistance.1.toList, Scalar.isFinite c = true → Within 1 c) ∧
      (Scalar.isFinite v.directionDistance.2 = true → 0 ≤ value v.directionDistance.2) := by
  have none : (∀ c ∈ (0 : Vec3 α).toList, Scalar.isFinite c = true → Within 1 c) ∧
      (Scalar.isFinite (0 : α) = true → 0 ≤ value (0 : α)) :=
    ⟨fun c member _ => zero_within 1 c member, fun _ => Rounded.zero.2.ge⟩
  rw [directionDistance]
  by_cases empty : (!Scalar.isFinite v.maxMagnitude || decide (v.maxMagnitude ≤ 0)) = true
  · rw [if_pos empty]
    exact none
  · rw [if_neg empty]
    cases made : (v.unscale v.maxMagnitude).direction? with
    | none => exact none
    | some part =>
        rcases part with ⟨direction, length⟩
        refine ⟨direction_within made, fun finite => ?_⟩
        have operands := Rounded.isFinite_of_mul _ _ finite
        rw [Bool.or_eq_true, not_or, Bool.not_eq_true', Bool.not_eq_false, decide_eq_true_eq,
          Rounded.le_iff _ _ operands.2 Rounded.zero.1, Rounded.zero.2, not_le] at empty
        have root : 0 ≤ value length := by
          rw [direction?] at made
          split at made
          · cases made
            exact value_sqrt_nonneg operands.1
          · cases made
        exact ((Rounded.mul _ _ operands.1 operands.2).isNearest finite).ge .zero
          (mul_nonneg root empty.2.le)

theorem Quat.axisAngle_size (sound : SoundTrigonometry α) (q : Quat α) :
    (∀ c ∈ q.axisAngle.1.toList, Scalar.isFinite c = true → Within 1 c) ∧
      Within 3 q.axisAngle.2 := by
  have none : (∀ c ∈ (0 : Vec3 α).toList, Scalar.isFinite c = true → Within 1 c) ∧
      Within 3 (0 : α) :=
    ⟨fun c member _ => Vec3.zero_within 1 c member, .zero 3⟩
  rw [axisAngle]
  cases turned : q.axis? with
  | none => exact none
  | some axis =>
      cases finite : Scalar.isFinite q.angle with
      | false => exact none
      | true =>
          obtain ⟨⟨direction, length⟩, made, same⟩ := Option.map_eq_some_iff.mp turned
          cases same
          exact ⟨Vec3.direction_within made, angle_within sound finite⟩

/-- A component of a bounded displacement, scaled: the limit decides how large it is. -/
theorem scaled_reach_within {direction length limit gain : α}
    (small : Scalar.isFinite direction = true → Within 1 direction)
    (positive : Scalar.isFinite length = true → 0 ≤ value length)
    (finite : Scalar.isFinite limit = true) (nonneg : 0 ≤ value limit) (raises : 0 ≤ value gain)
    (reach : value gain * value limit ≤ 2 ^ (920 : ℤ))
    (usable : Scalar.isFinite (direction * Scalar.least length limit * gain) = true) :
    Within 930 (direction * Scalar.least length limit * gain) := by
  have outer := Rounded.isFinite_of_mul _ _ usable
  have inner := Rounded.isFinite_of_mul _ _ outer.1
  have shorter := abs_least_le finite nonneg positive inner.2
  have twice : |value direction| ≤ 2 := (small inner.1).le.trans_eq (by norm_num)
  have displacement : |value (direction * Scalar.least length limit)| ≤ 2 * value limit := by
    refine ((Rounded.mul _ _ inner.1 inner.2).isNearest outer.1).magnitude_le
      (Rounded.representable limit).two_mul ?_
    rw [abs_mul]
    exact mul_le_mul twice shorter (abs_nonneg _) (by norm_num)
  refine within_of_approximates (Rounded.mul _ _ outer.1 outer.2) (by norm_num) (by norm_num) ?_
  rw [abs_mul, abs_of_nonneg raises]
  calc |value (direction * Scalar.least length limit)| * value gain
      ≤ 2 * value limit * value gain := mul_le_mul_of_nonneg_right displacement raises
    _ = 2 * (value gain * value limit) := by ring
    _ ≤ 2 * 2 ^ (920 : ℤ) := mul_le_mul_of_nonneg_left reach two_pos.le
    _ = 2 ^ (921 : ℤ) := (zpow_one_add₀ two_ne_zero _).symm
    _ ≤ 2 ^ (930 : ℤ) := zpow_le_zpow_right₀ one_le_two (by norm_num)

/-- A component of a bounded rotation, scaled. -/
theorem scaled_turn_within {axis angle limit gain : α}
    (small : Scalar.isFinite axis = true → Within 1 axis) (bounded : Within 3 angle)
    (finite : Scalar.isFinite limit = true) (nonneg : 0 ≤ value limit) (raises : 0 ≤ value gain)
    (moderate : value gain ≤ 2 ^ (470 : ℤ))
    (usable : Scalar.isFinite (axis * Scalar.least angle limit * gain) = true) :
    Within 480 (axis * Scalar.least angle limit * gain) := by
  have outer := Rounded.isFinite_of_mul _ _ usable
  have inner := Rounded.isFinite_of_mul _ _ outer.1
  have turn := (small inner.1).mul (n := 4) (least_within bounded finite nonneg) (by norm_num)
    (by norm_num) (by norm_num)
  have factor : Within 470 gain := ⟨outer.2, by rwa [abs_of_nonneg raises]⟩
  exact turn.mul factor (by norm_num) (by norm_num) (by norm_num)

/-- An error of moderate size.  Its angular part is kept far smaller, since turning squares
the angle. -/
structure SpatialVector.IsMild (error : SpatialVector α) : Prop where
  linear : ∀ c ∈ error.linear.toList, Within 930 c
  angular : ∀ c ∈ error.angular.toList, Within 480 c

/-- Limits and a gain under which a scaled error is mild unless it overflows. -/
structure ErrorLimits.IsModerate (limits : ErrorLimits α) (gain : α) : Prop where
  maxAngle : Scalar.isFinite limits.maxAngle = true ∧ 0 ≤ value limits.maxAngle
  maxDistance : Scalar.isFinite limits.maxDistance = true ∧ 0 ≤ value limits.maxDistance
  gain_nonneg : 0 ≤ value gain
  gain_le : value gain ≤ 2 ^ (470 : ℤ)
  reach_le : value gain * value limits.maxDistance ≤ 2 ^ (920 : ℤ)

theorem scale_motionError_isMild (sound : SoundTrigonometry α) {limits : ErrorLimits α} {gain : α}
    (moderate : limits.IsModerate gain) (target current : Pose α)
    (finite : ∀ c ∈ ((motionError target current limits).scale gain).toList,
      Scalar.isFinite c = true) : ((motionError target current limits).scale gain).IsMild := by
  rcases moderate with ⟨⟨angle, angleNonneg⟩, ⟨distance, distanceNonneg⟩, raises, gain_le, reach⟩
  rcases (target.position - current.position).directionDistance_size with ⟨line, positive⟩
  rcases (target.rotation * current.rotation.conjugate).axisAngle_size sound with ⟨axis, bounded⟩
  have error : motionError target current limits =
      { linear := (target.position - current.position).directionDistance.1.scale
          (Scalar.least (target.position - current.position).directionDistance.2
            limits.maxDistance)
        angular := (target.rotation * current.rotation.conjugate).axisAngle.1.scale
          (Scalar.least (target.rotation * current.rotation.conjugate).axisAngle.2
            limits.maxAngle) } := by
    rw [motionError, ErrorLimits.distanceCeiling, ErrorLimits.angleCeiling,
      greatest_zero angle angleNonneg, greatest_zero distance distanceNonneg]
  have reached {d : α} (small : Scalar.isFinite d = true → Within 1 d) :=
    scaled_reach_within small positive distance distanceNonneg raises reach
  have turned {d : α} (small : Scalar.isFinite d = true → Within 1 d) :=
    scaled_turn_within small bounded angle angleNonneg raises gain_le
  rw [error] at finite ⊢
  rw [SpatialVector.forall_iff, Vec3.forall_iff, Vec3.forall_iff] at finite
  rcases finite with ⟨straight, around⟩
  rw [Vec3.forall_iff] at line axis
  constructor
  · rw [Vec3.forall_iff]
    exact ⟨reached line.1 straight.1, reached line.2.1 straight.2.1,
      reached line.2.2 straight.2.2⟩
  · rw [Vec3.forall_iff]
    exact ⟨turned axis.1 around.1, turned axis.2.1 around.2.1, turned axis.2.2 around.2.2⟩

end MotionControl
