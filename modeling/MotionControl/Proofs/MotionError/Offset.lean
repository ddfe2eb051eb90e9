import MotionControl.Proofs.Geometry.Exact
import MotionControl.Proofs.Scalar.Ceiling

/-!
# How far a pose is from its target

`Pose.Offset` takes the difference of two poses apart: a distance along a unit
direction, and an angle about a unit axis.  Every pair of poses has such an
offset.  In terms of it the motion error is simple (`Offset.motionError_eq`):
the same direction and the same axis, with distance and angle clipped by their
ceilings.  A displacement along the offset shortens it and keeps direction and
axis (`Offset.displace`), which is the invariant of all iterations.  Without naming
direction and axis the motion error is the way itself, clipped
(`motionError_eq_clipped`).
-/

namespace MotionControl

/-- `pose` is short of `target` by a distance in a direction and by an angle
about an axis. -/
structure Pose.Offset (target pose : Pose ℝ) (direction axis : Vec3 ℝ) (distance angle : ℝ) :
    Prop where
  unit : direction.norm = 1
  nonneg : 0 ≤ distance
  linear : target.position - pose.position = direction.scale distance
  polar : (target.rotation * pose.rotation.conjugate).IsPolar axis angle

/-- The displacement by a distance in a direction and by an angle about an
axis. -/
noncomputable def SpatialVector.along (direction axis : Vec3 ℝ) (distance angle : ℝ) :
    SpatialVector ℝ :=
  ⟨direction.scale distance, axis.scale angle⟩

theorem SpatialVector.along_scale (direction axis : Vec3 ℝ) (distance angle k : ℝ) :
    (along direction axis distance angle).scale k =
      along direction axis (k * distance) (k * angle) :=
  SpatialVector.ext ((direction.scale_scale distance k).trans (by rw [mul_comm]; rfl))
    ((axis.scale_scale angle k).trans (by rw [mul_comm]; rfl))

theorem SpatialVector.along_zero (direction axis : Vec3 ℝ) : along direction axis 0 0 = 0 :=
  SpatialVector.ext direction.scale_zero axis.scale_zero

theorem SpatialVector.zero_scale (k : ℝ) : (0 : SpatialVector ℝ).scale k = 0 := by
  rw [← along_zero 0 0, along_scale, mul_zero]

theorem Quat.IsPolar.axisAngle_of_pos {q : Quat ℝ} {axis : Vec3 ℝ} {angle : ℝ}
    (polar : q.IsPolar axis angle) (positive : 0 < angle) : q.axisAngle = (axis, angle) := by
  simp only [axisAngle, polar.axis?_of_pos positive, Scalar.isFinite_real, if_true, polar.angle_eq]

theorem Quat.IsPolar.axisAngle_of_zero {q : Quat ℝ} {axis : Vec3 ℝ} {angle : ℝ}
    (polar : q.IsPolar axis angle) (zero : angle = 0) : q.axisAngle = (0, 0) := by
  simp only [axisAngle, polar.axis?_of_zero zero]

theorem linear_motionError {target pose : Pose ℝ} {direction : Vec3 ℝ} {distance : ℝ}
    (unit : direction.norm = 1) (nonneg : 0 ≤ distance)
    (linear : target.position - pose.position = direction.scale distance)
    (limits : ErrorLimits Exact) :
    (motionError target.toExact pose.toExact limits).linear =
      (direction.scale (limits.maxDistance.clip distance)).toExact := by
  have found : (motionError target.toExact pose.toExact limits).linear =
      (target.position.toExact - pose.position.toExact).directionDistance.1.scale
        (Scalar.least (target.position.toExact - pose.position.toExact).directionDistance.2
          limits.distanceCeiling) := rfl
  rw [found, Vec3.toExact_sub, Vec3.toExact_directionDistance, linear]
  rcases nonneg.eq_or_lt with zero | positive
  · rw [← zero, Vec3.scale_zero, Vec3.directionDistance_zero, Exact.clip_zero, Vec3.scale_zero]
    rw [ErrorLimits.distanceCeiling, Exact.least_greatest _ le_rfl, Exact.clip_zero,
      Vec3.toExact_scale, Vec3.scale_zero]
  · rw [Vec3.directionDistance_scale unit positive, ErrorLimits.distanceCeiling,
      Exact.least_greatest _ nonneg, Vec3.toExact_scale]

theorem angular_motionError {target pose : Pose ℝ} {axis : Vec3 ℝ} {angle : ℝ}
    (polar : (target.rotation * pose.rotation.conjugate).IsPolar axis angle)
    (limits : ErrorLimits Exact) :
    (motionError target.toExact pose.toExact limits).angular =
      (axis.scale (limits.maxAngle.clip angle)).toExact := by
  have found : (motionError target.toExact pose.toExact limits).angular =
      (target.rotation.toExact * pose.rotation.toExact.conjugate).axisAngle.1.scale
        (Scalar.least (target.rotation.toExact * pose.rotation.toExact.conjugate).axisAngle.2
          limits.angleCeiling) := rfl
  rw [found, Quat.toExact_conjugate, Quat.toExact_mul, Quat.toExact_axisAngle]
  rcases polar.nonneg.eq_or_lt with zero | positive
  · rw [polar.axisAngle_of_zero zero.symm, ← zero, Exact.clip_zero, Vec3.scale_zero,
      ErrorLimits.angleCeiling, Exact.least_greatest _ le_rfl, Exact.clip_zero,
      Vec3.toExact_scale, Vec3.scale_zero]
  · rw [polar.axisAngle_of_pos positive, ErrorLimits.angleCeiling,
      Exact.least_greatest _ polar.nonneg, Vec3.toExact_scale]

namespace Pose

/-- One position and one rotation, whichever quaternions stand for it. -/
structure SamePlace (a b : Pose ℝ) : Prop where
  position : a.position = b.position
  rotation : a.rotation.SameRotation b.rotation

theorem exists_offset {target pose : Pose ℝ} (targetUnit : target.rotation.IsRotation)
    (poseUnit : pose.rotation.IsRotation) :
    ∃ direction axis distance angle, Offset target pose direction axis distance angle := by
  rcases (target.position - pose.position).exists_direction with ⟨direction, unit, linear⟩
  rcases Quat.exists_isPolar (targetUnit.mul poseUnit.conjugate) with ⟨axis, angle, polar⟩
  exact ⟨direction, axis, _, angle, unit, Vec3.norm_nonneg _, linear, polar⟩

namespace Offset

variable {target pose : Pose ℝ} {direction axis : Vec3 ℝ} {distance angle : ℝ}

theorem norm_eq (offset : Offset target pose direction axis distance angle) :
    (target.position - pose.position).norm = distance := by
  rw [offset.linear, Vec3.norm_unit_scale offset.unit offset.nonneg]

/-- The motion error keeps the direction and the axis, and clips the distance
and the angle. -/
theorem motionError_eq (offset : Offset target pose direction axis distance angle)
    (limits : ErrorLimits Exact) :
    motionError target.toExact pose.toExact limits =
      (SpatialVector.along direction axis (limits.maxDistance.clip distance)
        (limits.maxAngle.clip angle)).toExact :=
  SpatialVector.ext (linear_motionError offset.unit offset.nonneg offset.linear limits)
    (angular_motionError offset.polar limits)

/-- Below both ceilings the motion error is the whole offset. -/
theorem motionError_eq_of_le (offset : Offset target pose direction axis distance angle)
    {limits : ErrorLimits Exact} (distanceBelow : .real distance ≤ limits.maxDistance)
    (angleBelow : .real angle ≤ limits.maxAngle) :
    motionError target.toExact pose.toExact limits =
      (SpatialVector.along direction axis distance angle).toExact := by
  rw [offset.motionError_eq limits, Exact.clip_of_le distanceBelow, Exact.clip_of_le angleBelow]

/-- A displacement along the offset, and not beyond it, shortens it. -/
theorem displace (offset : Offset target pose direction axis distance angle)
    {walked turned : ℝ} (walkedLe : walked ≤ distance) (turnedNonneg : 0 ≤ turned)
    (turnedLe : turned ≤ angle) :
    Offset target (pose.displace (.along direction axis walked turned)) direction axis
      (distance - walked) (angle - turned) where
  unit := offset.unit
  nonneg := by linarith
  linear := by
    have moved : target.position - (pose.position + direction.scale walked) =
        (target.position - pose.position) - direction.scale walked := by
      ext <;> simp <;> ring
    rw [← Vec3.scale_sub, ← offset.linear]
    exact moved
  polar := by
    have turnedBack : target.rotation *
          (Quat.ofRotationVector (axis.scale turned) * pose.rotation).conjugate =
        target.rotation * pose.rotation.conjugate * Quat.turn axis (-turned) := by
      rw [Quat.ofRotationVector_scale offset.polar.unit, Quat.conjugate_mul,
        Quat.turn_conjugate, mul_assoc]
    have back := offset.polar.turn_back turnedNonneg turnedLe
    rw [← turnedBack] at back
    exact back

theorem position_eq_iff (offset : Offset target pose direction axis distance angle) :
    distance = 0 ↔ target.position = pose.position := by
  rw [← offset.norm_eq, Vec3.norm_eq_zero_iff]
  constructor
  · intro same
    have x : target.position.x - pose.position.x = 0 := congrArg Vec3.x same
    have y : target.position.y - pose.position.y = 0 := congrArg Vec3.y same
    have z : target.position.z - pose.position.z = 0 := congrArg Vec3.z same
    exact Vec3.ext (sub_eq_zero.mp x) (sub_eq_zero.mp y) (sub_eq_zero.mp z)
  · intro same
    rw [same]
    ext <;> simp

/-- Nothing is left of the way exactly where the pose is at its target. -/
theorem samePlace_iff (offset : Offset target pose direction axis distance angle)
    (poseUnit : pose.rotation.IsRotation) :
    SamePlace pose target ↔ distance = 0 ∧ angle = 0 := by
  rw [offset.position_eq_iff, offset.polar.angle_eq_zero_iff, Quat.sameRotation_one_iff poseUnit]
  constructor
  · intro same
    exact ⟨same.position.symm, same.rotation.symm⟩
  · intro parts
    exact ⟨parts.1.symm, parts.2.symm⟩

end Offset

theorem displace_isRotation {pose : Pose ℝ} (unit : pose.rotation.IsRotation)
    (error : SpatialVector ℝ) : (pose.displace error).rotation.IsRotation :=
  (Quat.ofRotationVector_isRotation error.angular).mul unit

end Pose

/-- A pose has no error toward itself under any ceilings. -/
theorem motionError_self {pose : Pose ℝ} (unit : pose.rotation.IsRotation)
    (limits : ErrorLimits Exact) :
    motionError pose.toExact pose.toExact limits = SpatialVector.toExact 0 := by
  rcases Pose.exists_offset unit unit with ⟨direction, axis, distance, angle, offset⟩
  have near : distance = 0 := offset.position_eq_iff.mpr rfl
  have aligned : angle = 0 := by
    rw [offset.polar.angle_eq_zero_iff, unit.mul_conjugate]
    exact .inl rfl
  rw [offset.motionError_eq, near, aligned, Exact.clip_zero, Exact.clip_zero,
    SpatialVector.along_zero]

/-! ## The clipped way -/

/-- A vector cut to what a ceiling lets through of its length. -/
noncomputable def Vec3.clipped (v : Vec3 ℝ) (ceiling : Exact) : Vec3 ℝ :=
  v.scale (ceiling.clip v.norm / v.norm)

/-- Each half cut to its own ceiling. -/
noncomputable def SpatialVector.clipped (v : SpatialVector ℝ) (limits : ErrorLimits Exact) :
    SpatialVector ℝ :=
  ⟨v.linear.clipped limits.maxDistance, v.angular.clipped limits.maxAngle⟩

theorem Vec3.clipped_scale {direction : Vec3 ℝ} (unit : direction.norm = 1) {length : ℝ}
    (nonneg : 0 ≤ length) (ceiling : Exact) :
    (direction.scale length).clipped ceiling = direction.scale (ceiling.clip length) := by
  rw [clipped, norm_unit_scale unit nonneg, scale_scale]
  rcases nonneg.eq_or_lt with zero | positive
  · rw [← zero, Exact.clip_zero, zero_mul]
  · rw [mul_div_cancel₀ _ positive.ne']

theorem SpatialVector.clipped_zero (limits : ErrorLimits Exact) :
    (0 : SpatialVector ℝ).clipped limits = 0 := by
  have still (k : ℝ) : (0 : Vec3 ℝ).scale k = 0 := by
    ext <;> simp
  exact SpatialVector.ext (still _) (still _)

theorem SpatialVector.clipped_along {direction axis : Vec3 ℝ} (unit : direction.norm = 1)
    (axisUnit : axis.norm = 1) {distance angle : ℝ} (nonneg : 0 ≤ distance)
    (angleNonneg : 0 ≤ angle) (limits : ErrorLimits Exact) :
    (along direction axis distance angle).clipped limits =
      along direction axis (limits.maxDistance.clip distance) (limits.maxAngle.clip angle) :=
  SpatialVector.ext (Vec3.clipped_scale unit nonneg _) (Vec3.clipped_scale axisUnit angleNonneg _)

/-- The motion error is the difference of the positions and the logarithm of the relative
rotation, each clipped. -/
theorem motionError_eq_clipped {target current : Pose ℝ}
    (targetUnit : target.rotation.IsRotation) (currentUnit : current.rotation.IsRotation)
    (limits : ErrorLimits Exact) :
    motionError target.toExact current.toExact limits =
      (SpatialVector.clipped ⟨target.position - current.position,
        (target.rotation * current.rotation.conjugate).rotationVector⟩ limits).toExact := by
  rcases Pose.exists_offset targetUnit currentUnit with ⟨direction, axis, distance, angle, offset⟩
  rw [offset.motionError_eq limits, offset.linear, offset.polar.rotationVector_eq]
  exact congrArg SpatialVector.toExact (SpatialVector.clipped_along offset.unit offset.polar.unit
    offset.nonneg offset.polar.nonneg limits).symm

end MotionControl
