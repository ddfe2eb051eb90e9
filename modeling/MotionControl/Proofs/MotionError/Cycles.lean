import Mathlib.Analysis.Real.Pi.Bounds
import MotionControl.Proofs.MotionError.Offset

/-!
# Approaching a target cycle by cycle

In every cycle the pose moves by a fraction of its motion error, and what the
ceilings cut off is left for the next one.  The offset from the target keeps its
direction and its axis through all of them; distance and angle follow
`Exact.leaves`, each on its own.  That invariant also covers the cycle in which a
ceiling stops being active, and a start at a half turn: which of the two axes is
taken there is decided once, by the first offset.
-/

namespace MotionControl

/-- One cycle: the pose moves by a fraction of its motion error. -/
def Pose.approach {α : Type} [Scalar α] (target : Pose α) (limits : ErrorLimits α) (fraction : α)
    (pose : Pose α) : Pose α :=
  pose.displace ((motionError target pose limits).scale fraction)

/-- What the cycles toward a fixed target do to distance and angle; the poses are
those after zero, one, two and more cycles.  Neither the direction nor the axis of
what remains ever changes, and the motion error of every cycle is along them.
Cycles that take all the ceilings allow are at the target after exactly as many
as the longer half needs, and from a cycle on in which nothing is clipped the
error is geometric. -/
structure IsApproach (target current : Pose ℝ) (limits : ErrorLimits Exact) (fraction : ℝ)
    (poses : ℕ → Pose ℝ) (distance angle : ℕ → ℝ) : Prop where
  start : poses 0 = current
  run : ∀ k, (Pose.approach target.toExact limits (.real fraction))^[k] current.toExact =
    (poses k).toExact
  distance_eq : ∀ k, (target.position - (poses k).position).norm = distance k
  angle_eq : ∀ k, (target.rotation * (poses k).rotation.conjugate).IsTurningAngle (angle k)
  course : ∃ direction axis : Vec3 ℝ, direction.norm = 1 ∧ axis.norm = 1 ∧ ∀ k,
    target.position - (poses k).position = direction.scale (distance k) ∧
    (target.rotation * (poses k).rotation.conjugate).SameRotation (.turn axis (angle k)) ∧
    motionError target.toExact (poses k).toExact limits =
      (SpatialVector.along direction axis (limits.maxDistance.clip (distance k))
        (limits.maxAngle.clip (angle k))).toExact
  distance_succ : ∀ k,
    distance (k + 1) = distance k - fraction * limits.maxDistance.clip (distance k)
  angle_succ : ∀ k, angle (k + 1) = angle k - fraction * limits.maxAngle.clip (angle k)
  distance_antitone : Antitone distance
  angle_antitone : Antitone angle
  arrives_iff : fraction = 1 → 0 < limits.maxDistance → 0 < limits.maxAngle →
    ∀ k, (poses k).SamePlace target ↔
      max (limits.maxDistance.cycles (distance 0)) (limits.maxAngle.cycles (angle 0)) ≤ k
  distance_geometric : ∀ j k, .real (distance j) ≤ limits.maxDistance →
    distance (j + k) = (1 - fraction) ^ k * distance j
  angle_geometric : ∀ j k, .real (angle j) ≤ limits.maxAngle →
    angle (j + k) = (1 - fraction) ^ k * angle j
  error_geometric : ∀ j k, .real (distance j) ≤ limits.maxDistance →
    .real (angle j) ≤ limits.maxAngle →
    motionError target.toExact (poses (j + k)).toExact limits =
      (motionError target.toExact (poses j).toExact limits).scale (.real ((1 - fraction) ^ k))

namespace Pose.Offset

variable {target pose : Pose ℝ} {direction axis : Vec3 ℝ} {distance angle fraction : ℝ}

/-- A cycle keeps direction and axis. -/
theorem approach (offset : Offset target pose direction axis distance angle)
    (unit : pose.rotation.IsRotation) (limits : ErrorLimits Exact)
    (fractionNonneg : 0 ≤ fraction) (fractionLe : fraction ≤ 1) :
    ∃ next : Pose ℝ,
      Pose.approach target.toExact limits (.real fraction) pose.toExact = next.toExact ∧
      next.rotation.IsRotation ∧
      Offset target next direction axis (limits.maxDistance.leaves fraction distance)
        (limits.maxAngle.leaves fraction angle) := by
  have turned := mul_nonneg fractionNonneg (limits.maxAngle.clip_nonneg offset.polar.nonneg)
  have walkedLe := limits.maxDistance.mul_clip_le fractionLe offset.nonneg
  have turnedLe := limits.maxAngle.mul_clip_le fractionLe offset.polar.nonneg
  refine ⟨_, ?_, displace_isRotation unit _, offset.displace walkedLe turned turnedLe⟩
  rw [Pose.approach, offset.motionError_eq limits, SpatialVector.toExact_scale,
    SpatialVector.along_scale, toExact_displace]

/-- Any number of cycles keeps direction and axis. -/
theorem iterate_approach (offset : Offset target pose direction axis distance angle)
    (unit : pose.rotation.IsRotation) (limits : ErrorLimits Exact)
    (fractionNonneg : 0 ≤ fraction) (fractionLe : fraction ≤ 1) (k : ℕ) :
    ∃ reached : Pose ℝ,
      (Pose.approach target.toExact limits (.real fraction))^[k] pose.toExact = reached.toExact ∧
      reached.rotation.IsRotation ∧
      Offset target reached direction axis ((limits.maxDistance.leaves fraction)^[k] distance)
        ((limits.maxAngle.leaves fraction)^[k] angle) := by
  induction k with
  | zero => exact ⟨pose, rfl, unit, offset⟩
  | succ k inductionHypothesis =>
      rcases inductionHypothesis with ⟨reached, run, reachedUnit, rest⟩
      rcases rest.approach reachedUnit limits fractionNonneg fractionLe with
        ⟨next, cycle, nextUnit, nextRest⟩
      simp only [Function.iterate_succ_apply', run]
      exact ⟨next, cycle, nextUnit, nextRest⟩

end Pose.Offset

/-- From every pose with a unit rotation, under every pair of ceilings and with
every fraction, the cycles approach the target as `IsApproach` says. -/
theorem exists_isApproach {target current : Pose ℝ} (targetUnit : target.rotation.IsRotation)
    (currentUnit : current.rotation.IsRotation) (limits : ErrorLimits Exact) {fraction : ℝ}
    (fractionNonneg : 0 ≤ fraction) (fractionLe : fraction ≤ 1) :
    ∃ poses distance angle, IsApproach target current limits fraction poses distance angle := by
  rcases Pose.exists_offset targetUnit currentUnit with ⟨direction, axis, distance, angle, offset⟩
  choose poses run unit rest using
    offset.iterate_approach currentUnit limits fractionNonneg fractionLe
  have distanceAntitone := Exact.iterate_leaves_antitone limits.maxDistance fractionNonneg
    fractionLe offset.nonneg
  have angleAntitone := Exact.iterate_leaves_antitone limits.maxAngle fractionNonneg
    fractionLe offset.polar.nonneg
  refine ⟨poses, fun k => (limits.maxDistance.leaves fraction)^[k] distance,
    fun k => (limits.maxAngle.leaves fraction)^[k] angle, ?_⟩
  exact {
    start := (Pose.toExact_injective (run 0)).symm
    run := run
    distance_eq := fun k => (rest k).norm_eq
    angle_eq := fun k => (rest k).polar.isTurningAngle
    course := ⟨direction, axis, offset.unit, offset.polar.unit, fun k =>
      ⟨(rest k).linear, (rest k).polar.sameRotation, (rest k).motionError_eq limits⟩⟩
    distance_succ := fun k => Function.iterate_succ_apply' _ k distance
    angle_succ := fun k => Function.iterate_succ_apply' _ k angle
    distance_antitone := distanceAntitone
    angle_antitone := angleAntitone
    arrives_iff := by
      rintro rfl linearPositive angularPositive k
      rw [(rest k).samePlace_iff (unit k), max_le_iff,
        Exact.iterate_leaves_eq_zero_iff linearPositive offset.nonneg,
        Exact.iterate_leaves_eq_zero_iff angularPositive offset.polar.nonneg]
      rfl
    distance_geometric := fun j k below =>
      Exact.iterate_leaves_add_of_le fractionNonneg fractionLe offset.nonneg below k
    angle_geometric := fun j k below =>
      Exact.iterate_leaves_add_of_le fractionNonneg fractionLe offset.polar.nonneg below k
    error_geometric := by
      intro j k distanceBelow angleBelow
      have later := (rest (j + k)).motionError_eq_of_le
        (Exact.real_le_of_le (distanceAntitone (j.le_add_right k)) distanceBelow)
        (Exact.real_le_of_le (angleAntitone (j.le_add_right k)) angleBelow)
      rw [later, (rest j).motionError_eq_of_le distanceBelow angleBelow,
        SpatialVector.toExact_scale, SpatialVector.along_scale,
        Exact.iterate_leaves_add_of_le fractionNonneg fractionLe offset.nonneg distanceBelow,
        Exact.iterate_leaves_add_of_le fractionNonneg fractionLe offset.polar.nonneg angleBelow] }

/-- A half turn and a way of five, with room for an angle of one and a way of
two in each cycle: the turn takes four cycles, the way only three. -/
theorem exists_isApproach_halfTurn :
    ∃ poses distance angle,
      IsApproach ⟨⟨3, 4, 0⟩, ⟨1, 0, 0, 0⟩⟩ ⟨0, 1⟩ ⟨.real 1, .real 2⟩ 1 poses distance angle ∧
      (poses 4).SamePlace ⟨⟨3, 4, 0⟩, ⟨1, 0, 0, 0⟩⟩ ∧
      ¬ (poses 3).SamePlace ⟨⟨3, 4, 0⟩, ⟨1, 0, 0, 0⟩⟩ := by
  have found : ∃ poses distance angle,
      IsApproach ⟨⟨3, 4, 0⟩, ⟨1, 0, 0, 0⟩⟩ ⟨0, 1⟩ ⟨.real 1, .real 2⟩ 1 poses distance angle :=
    exists_isApproach Quat.halfTurn_isPolar.isRotation .one _ zero_le_one le_rfl
  rcases found with ⟨poses, distance, angle, approach⟩
  have way : distance 0 = 5 := by
    rw [← approach.distance_eq 0, approach.start]
    exact Vec3.norm_threeFour
  have turn : angle 0 = Real.pi := by
    have least := approach.angle_eq 0
    rw [approach.start, Quat.mul_one_conjugate] at least
    exact Quat.halfTurn_isPolar.angle_unique least
  have arrives := approach.arrives_iff rfl (Exact.real_lt.mpr two_pos) (Exact.real_lt.mpr one_pos)
  simp only [way, turn, max_le_iff, Exact.cycles_real_le_iff two_pos,
    Exact.cycles_real_le_iff one_pos, mul_one] at arrives
  refine ⟨poses, distance, angle, approach, (arrives 4).mpr ⟨?_, ?_⟩, fun early => ?_⟩
  · norm_num
  · exact_mod_cast Real.pi_le_four
  · have below : Real.pi ≤ 3 := by exact_mod_cast ((arrives 3).mp early).2
    exact absurd Real.pi_gt_three (not_lt.mpr below)

end MotionControl
