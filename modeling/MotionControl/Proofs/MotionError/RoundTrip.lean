import MotionControl.Proofs.MotionError.Offset

/-!
# Encoding and applying a motion error

`motionError` encodes the way to a target as a spatial vector and `displace`
walks such a vector.  As far as the ceilings reach the two are inverse: walking
the error arrives, and the error of a walked vector is that vector.  Both
multiply rotations from the left, in the base frame, so the rotation that has
been walked is the relative rotation itself and not only conjugate to it.
-/

namespace MotionControl

/-- Encoding and walking are inverse to each other, below both ceilings.  Walking
the error to a target arrives there, a half turn away included, and the error to
where a vector leads is that vector. -/
structure RoundTrips (current : Pose ℝ) (limits : ErrorLimits Exact) : Prop where
  arrives : ∀ (target : Pose ℝ) (angle : ℝ), target.rotation.IsRotation →
    (target.rotation * current.rotation.conjugate).IsTurningAngle angle →
    .real (target.position - current.position).norm ≤ limits.maxDistance →
    .real angle ≤ limits.maxAngle →
    ∃ reached : Pose ℝ,
      current.toExact.displace (motionError target.toExact current.toExact limits) =
        reached.toExact ∧ reached.SamePlace target
  recovers : ∀ way : SpatialVector ℝ,
    .real way.linear.norm ≤ limits.maxDistance →
    way.angular.norm ≤ Real.pi → .real way.angular.norm ≤ limits.maxAngle →
    motionError (current.toExact.displace way.toExact) current.toExact limits = way.toExact

/-- Every spatial vector whose rotation is at most a half turn is the offset of
the pose it leads to. -/
theorem Pose.exists_offset_of_displace {pose : Pose ℝ} (unit : pose.rotation.IsRotation)
    {way : SpatialVector ℝ} (short : way.angular.norm ≤ Real.pi) :
    ∃ direction axis, way = .along direction axis way.linear.norm way.angular.norm ∧
      Offset (pose.displace way) pose direction axis way.linear.norm way.angular.norm := by
  rcases way.linear.exists_direction with ⟨direction, directionUnit, linear⟩
  rcases way.angular.exists_direction with ⟨axis, axisUnit, angular⟩
  refine ⟨direction, axis, SpatialVector.ext linear angular, ?_⟩
  have walked : pose.position + way.linear - pose.position = way.linear := by
    ext <;> simp
  have turned : Quat.ofRotationVector way.angular * pose.rotation * pose.rotation.conjugate =
      Quat.turn axis way.angular.norm := by
    rw [mul_assoc, unit.mul_conjugate, mul_one]
    nth_rewrite 1 [angular]
    exact Quat.ofRotationVector_scale axisUnit way.angular.norm
  exact {
    unit := directionUnit
    nonneg := way.linear.norm_nonneg
    linear := walked.trans linear
    polar := {
      unit := axisUnit
      nonneg := way.angular.norm_nonneg
      le_pi := short
      sign := .inl turned } }

theorem motionError_roundTrips {current : Pose ℝ} (currentUnit : current.rotation.IsRotation)
    (limits : ErrorLimits Exact) : RoundTrips current limits where
  arrives := by
    intro target angle targetUnit least distanceBelow angleBelow
    rcases Pose.exists_offset targetUnit currentUnit with
      ⟨direction, axis, distance, polarAngle, offset⟩
    rw [offset.norm_eq] at distanceBelow
    rw [offset.polar.angle_unique least] at angleBelow
    refine ⟨current.displace (.along direction axis distance polarAngle), ?_, ?_⟩
    · rw [offset.motionError_eq_of_le distanceBelow angleBelow, Pose.toExact_displace]
    · have rest := offset.displace le_rfl offset.polar.nonneg le_rfl
      rw [rest.samePlace_iff (Pose.displace_isRotation currentUnit _)]
      exact ⟨sub_self distance, sub_self polarAngle⟩
  recovers := by
    intro way distanceBelow short angleBelow
    rcases Pose.exists_offset_of_displace currentUnit short with ⟨direction, axis, along, offset⟩
    rw [Pose.toExact_displace, offset.motionError_eq_of_le distanceBelow angleBelow, ← along]

/-- A half turn about x and a way of length five, just within the ceilings. -/
theorem motionError_roundTrips_halfTurn :
    ∃ reached : Pose ℝ,
      (Pose.toExact ⟨0, 1⟩).displace
          (motionError (Pose.toExact ⟨⟨3, 4, 0⟩, ⟨1, 0, 0, 0⟩⟩) (Pose.toExact ⟨0, 1⟩)
            ⟨.real Real.pi, .real 5⟩) = reached.toExact ∧
        reached.SamePlace ⟨⟨3, 4, 0⟩, ⟨1, 0, 0, 0⟩⟩ := by
  refine (motionError_roundTrips .one ⟨.real Real.pi, .real 5⟩).arrives _ Real.pi
    Quat.halfTurn_isPolar.isRotation ?_ ?_ (Exact.real_le.mpr le_rfl)
  · rw [Quat.mul_one_conjugate]
    exact Quat.halfTurn_isPolar.isTurningAngle
  · exact Exact.real_le.mpr Vec3.norm_threeFour.le

end MotionControl
