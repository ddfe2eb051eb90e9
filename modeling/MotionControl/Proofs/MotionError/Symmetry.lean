import MotionControl.Proofs.Geometry.RigidMotion
import MotionControl.Proofs.MotionError.Offset

/-!
# Symmetries of the motion error

The motion error depends on the way from one pose to another and on nothing else.  A rigid
motion of the base frame carries both poses along, and with them the error.  A common rotation on
the right, which is another choice of axes on the tool, cancels in the relative rotation.  The
way back is the opposite of the way there.

All three are exact, at a half turn too.  There the two ways round are equally short and the sign
of a stored quaternion decides between them, but neither conjugation nor inversion touches the
scalar part, so both runs decide alike.
-/

namespace MotionControl

/-- Both halves of a spatial vector, turned. -/
def SpatialVector.rotate {α : Type} [Scalar α] (v : SpatialVector α) (q : Quat α) :
    SpatialVector α :=
  ⟨q.rotate v.linear, q.rotate v.angular⟩

/-- The pose with other axes on the tool. -/
def Pose.regrip {α : Type} [Scalar α] (pose : Pose α) (tool : Quat α) : Pose α :=
  ⟨pose.position, pose.rotation * tool⟩

/-- What becomes of the motion error from `current` to `target` if the base frame moves, if the
axes on the tool are chosen differently, and on the way back. -/
structure IsSymmetric (target current : Pose ℝ) (limits : ErrorLimits Exact)
    (error : SpatialVector ℝ) : Prop where
  motionError_eq : motionError target.toExact current.toExact limits = error.toExact
  carried : ∀ motion : Pose ℝ, motion.rotation.IsRotation →
    motionError (motion.carry target).toExact (motion.carry current).toExact limits =
      (error.rotate motion.rotation).toExact
  regripped : ∀ tool : Quat ℝ, tool.IsRotation →
    motionError (target.regrip tool).toExact (current.regrip tool).toExact limits =
      error.toExact
  reversed : motionError current.toExact target.toExact limits = (-error).toExact

/-! ## Symmetric offsets -/

theorem SpatialVector.along_rotate (direction axis : Vec3 ℝ) (distance angle : ℝ) (q : Quat ℝ) :
    (along direction axis distance angle).rotate q =
      along (q.rotate direction) (q.rotate axis) distance angle :=
  SpatialVector.ext (q.rotate_scale direction distance) (q.rotate_scale axis angle)

theorem SpatialVector.along_neg (direction axis : Vec3 ℝ) (distance angle : ℝ) :
    -along direction axis distance angle =
      along (direction.scale (-1)) (axis.scale (-1)) distance angle := by
  have opposite (v : Vec3 ℝ) (k : ℝ) : -v.scale k = (v.scale (-1)).scale k := by
    ext <;> simp
  exact SpatialVector.ext (opposite direction distance) (opposite axis angle)

namespace Pose.Offset

variable {target pose : Pose ℝ} {direction axis : Vec3 ℝ} {distance angle : ℝ}

theorem carried (offset : Offset target pose direction axis distance angle) {motion : Pose ℝ}
    (unit : motion.rotation.IsRotation) :
    Offset (motion.carry target) (motion.carry pose) (motion.rotation.rotate direction)
      (motion.rotation.rotate axis) distance angle where
  unit := (Quat.norm_rotate unit direction).trans offset.unit
  nonneg := offset.nonneg
  linear := by
    have shifted : (motion.carry target).position - (motion.carry pose).position =
        motion.rotation.rotate target.position - motion.rotation.rotate pose.position := by
      ext <;> simp [carry]
    rw [shifted, ← Quat.rotate_sub, offset.linear, Quat.rotate_scale]
  polar := by
    have conjugated : (motion.carry target).rotation * (motion.carry pose).rotation.conjugate =
        motion.rotation * (target.rotation * pose.rotation.conjugate) *
          motion.rotation.conjugate := by
      simp only [carry, Quat.conjugate_mul, mul_assoc]
    rw [conjugated]
    exact offset.polar.carried unit

theorem regripped (offset : Offset target pose direction axis distance angle) {tool : Quat ℝ}
    (unit : tool.IsRotation) :
    Offset (target.regrip tool) (pose.regrip tool) direction axis distance angle where
  unit := offset.unit
  nonneg := offset.nonneg
  linear := offset.linear
  polar := by
    have cancelled : (target.regrip tool).rotation * (pose.regrip tool).rotation.conjugate =
        target.rotation * pose.rotation.conjugate := by
      rw [regrip, regrip, Quat.conjugate_mul, mul_assoc, ← mul_assoc tool, unit.mul_conjugate,
        one_mul]
    rw [cancelled]
    exact offset.polar

theorem reversed (offset : Offset target pose direction axis distance angle) :
    Offset pose target (direction.scale (-1)) (axis.scale (-1)) distance angle where
  unit := direction.norm_opposite.trans offset.unit
  nonneg := offset.nonneg
  linear := by
    have opposite : pose.position - target.position =
        (target.position - pose.position).scale (-1) := by
      ext <;> simp
    rw [opposite, offset.linear, Vec3.scale_scale, Vec3.scale_scale, mul_comm]
  polar := by
    have undone : pose.rotation * target.rotation.conjugate =
        (target.rotation * pose.rotation.conjugate).conjugate := by
      rw [Quat.conjugate_mul, Quat.conjugate_conjugate]
    rw [undone]
    exact offset.polar.conjugate

end Pose.Offset

/-- Under all limits the motion error between unit rotations has the three symmetries. -/
theorem motionError_isSymmetric {target current : Pose ℝ}
    (targetUnit : target.rotation.IsRotation) (currentUnit : current.rotation.IsRotation)
    (limits : ErrorLimits Exact) : ∃ error, IsSymmetric target current limits error := by
  rcases Pose.exists_offset targetUnit currentUnit with ⟨direction, axis, distance, angle, offset⟩
  refine ⟨.along direction axis (limits.maxDistance.clip distance) (limits.maxAngle.clip angle), ?_⟩
  exact {
    motionError_eq := offset.motionError_eq limits
    carried := by
      intro motion unit
      rw [(offset.carried unit).motionError_eq limits, SpatialVector.along_rotate]
    regripped := fun tool unit => (offset.regripped unit).motionError_eq limits
    reversed := by
      rw [offset.reversed.motionError_eq limits, SpatialVector.along_neg] }

/-- A half turn about x and a way of five, both within the ceilings. -/
theorem motionError_isSymmetric_halfTurn :
    (⟨1, 0, 0, 0⟩ : Quat ℝ).IsRotation ∧ (1 : Quat ℝ).IsRotation ∧
      IsSymmetric ⟨⟨3, 4, 0⟩, ⟨1, 0, 0, 0⟩⟩ ⟨0, 1⟩ ⟨.infinite false, .real 5⟩
        ⟨⟨3, 4, 0⟩, ⟨Real.pi, 0, 0⟩⟩ := by
  have halfTurn := Quat.halfTurn_isPolar.isRotation
  refine ⟨halfTurn, .one, ?_⟩
  have offset : Pose.Offset ⟨⟨3, 4, 0⟩, ⟨1, 0, 0, 0⟩⟩ ⟨0, 1⟩ ⟨3 / 5, 4 / 5, 0⟩ ⟨1, 0, 0⟩ 5
      Real.pi := {
    unit := by norm_num [Vec3.norm, Vec3.normSq]
    nonneg := by norm_num
    linear := by ext <;> norm_num
    polar := by
      rw [Quat.mul_one_conjugate]
      exact Quat.halfTurn_isPolar }
  have whole : SpatialVector.along ⟨3 / 5, 4 / 5, 0⟩ ⟨1, 0, 0⟩ 5 Real.pi =
      ⟨⟨3, 4, 0⟩, ⟨Real.pi, 0, 0⟩⟩ := by
    ext <;> norm_num [SpatialVector.along]
  have exists_error : ∃ error,
      IsSymmetric ⟨⟨3, 4, 0⟩, ⟨1, 0, 0, 0⟩⟩ ⟨0, 1⟩ ⟨.infinite false, .real 5⟩ error :=
    motionError_isSymmetric halfTurn .one _
  rcases exists_error with ⟨error, symmetric⟩
  have found : error = ⟨⟨3, 4, 0⟩, ⟨Real.pi, 0, 0⟩⟩ := by
    apply SpatialVector.toExact_injective
    rw [← symmetric.motionError_eq, ← whole]
    exact offset.motionError_eq_of_le (Exact.real_le.mpr le_rfl) trivial
  exact found ▸ symmetric

end MotionControl
