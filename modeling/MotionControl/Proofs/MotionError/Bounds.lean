import MotionControl.Proofs.MotionError.Offset

/-!
# Direction and size of the motion error

`IsBounded` says what the motion error is without saying how it is computed.
Its linear part lies along the difference of the positions and its length is
that difference clipped; its angular part is the difference of the rotations,
which is a turn by some least angle, with that angle clipped.  The clip treats
every ceiling: a negative one and one that is not a number leave nothing, an
infinite one leaves everything.
-/

namespace MotionControl

/-- What the motion error from `current` toward `target` is, said without the
steps of its computation.  The linear part points along the difference of the
positions; the angular part is the relative rotation up to its size; each half
depends on its own inputs alone, and vanishes if it has nothing to correct or no
room to. -/
structure IsBounded (target current : Pose ℝ) (limits : ErrorLimits Exact)
    (error : SpatialVector ℝ) : Prop where
  linear_direction : ∃ k, 0 ≤ k ∧
    error.linear = (target.position - current.position).scale k
  linear_norm : error.linear.norm =
    limits.maxDistance.clip (target.position - current.position).norm
  angular : ∃ angle, 0 ≤ angle ∧ angle ≤ Real.pi ∧
    (target.rotation * current.rotation.conjugate).IsTurningAngle angle ∧
    error.angular.norm = limits.maxAngle.clip angle ∧
    (error.angular ≠ 0 →
      (Quat.turn (error.angular.unscale error.angular.norm) angle).SameRotation
        (target.rotation * current.rotation.conjugate))
  linear_only : ∀ (target' current' : Pose Exact) (limits' : ErrorLimits Exact),
    target'.position = target.position.toExact →
    current'.position = current.position.toExact →
    limits'.maxDistance = limits.maxDistance →
    (motionError target' current' limits').linear = error.linear.toExact
  angular_only : ∀ (target' current' : Pose Exact) (limits' : ErrorLimits Exact),
    target'.rotation = target.rotation.toExact →
    current'.rotation = current.rotation.toExact →
    limits'.maxAngle = limits.maxAngle →
    (motionError target' current' limits').angular = error.angular.toExact
  zero_iff : error = 0 ↔
    (target.position = current.position ∨ ¬ 0 < limits.maxDistance) ∧
      (target.rotation.SameRotation current.rotation ∨ ¬ 0 < limits.maxAngle)

theorem linear_motionError_congr {α : Type} [Scalar α] {target current target' current' : Pose α}
    {limits limits' : ErrorLimits α} (targetEq : target'.position = target.position)
    (currentEq : current'.position = current.position)
    (limitEq : limits'.maxDistance = limits.maxDistance) :
    (motionError target' current' limits').linear = (motionError target current limits).linear := by
  simp only [motionError, ErrorLimits.distanceCeiling, targetEq, currentEq, limitEq]

theorem angular_motionError_congr {α : Type} [Scalar α] {target current target' current' : Pose α}
    {limits limits' : ErrorLimits α} (targetEq : target'.rotation = target.rotation)
    (currentEq : current'.rotation = current.rotation)
    (limitEq : limits'.maxAngle = limits.maxAngle) :
    (motionError target' current' limits').angular =
      (motionError target current limits).angular := by
  simp only [motionError, ErrorLimits.angleCeiling, targetEq, currentEq, limitEq]

namespace Pose.Offset

variable {target current : Pose ℝ} {direction axis : Vec3 ℝ} {distance angle : ℝ}

theorem linear_direction (offset : Offset target current direction axis distance angle)
    (ceiling : Exact) : ∃ k, 0 ≤ k ∧
      direction.scale (ceiling.clip distance) = (target.position - current.position).scale k := by
  refine ⟨ceiling.clip distance / distance,
    div_nonneg (ceiling.clip_nonneg offset.nonneg) offset.nonneg, ?_⟩
  rw [offset.linear, Vec3.scale_scale]
  rcases offset.nonneg.eq_or_lt with zero | positive
  · rw [← zero, Exact.clip_zero, zero_mul]
  · rw [mul_div_cancel₀ _ positive.ne']

end Pose.Offset

/-- The motion error between unit rotations is real, and bounded as
`IsBounded` says, under every pair of ceilings. -/
theorem motionError_isBounded {target current : Pose ℝ}
    (targetUnit : target.rotation.IsRotation) (currentUnit : current.rotation.IsRotation)
    (limits : ErrorLimits Exact) :
    ∃ error, motionError target.toExact current.toExact limits = error.toExact ∧
      IsBounded target current limits error := by
  rcases Pose.exists_offset targetUnit currentUnit with ⟨direction, axis, distance, angle, offset⟩
  have walked := limits.maxDistance.clip_nonneg offset.nonneg
  have turned := limits.maxAngle.clip_nonneg offset.polar.nonneg
  refine ⟨_, offset.motionError_eq limits, ?_⟩
  exact {
    linear_direction := offset.linear_direction limits.maxDistance
    linear_norm := by
      rw [offset.norm_eq]
      exact Vec3.norm_unit_scale offset.unit walked
    angular := by
      refine ⟨angle, offset.polar.nonneg, offset.polar.le_pi, offset.polar.isTurningAngle,
        Vec3.norm_unit_scale offset.polar.unit turned, ?_⟩
      intro nonzero
      have axisEq := Vec3.unscale_norm_of_scale offset.polar.unit turned nonzero
      exact axisEq.symm ▸ offset.polar.sameRotation.symm
    linear_only := by
      intro target' current' limits' targetEq currentEq limitEq
      have half : (motionError target' current' limits').linear =
          (motionError target.toExact current.toExact limits).linear :=
        linear_motionError_congr targetEq currentEq limitEq
      exact half.trans (linear_motionError offset.unit offset.nonneg offset.linear limits)
    angular_only := by
      intro target' current' limits' targetEq currentEq limitEq
      have half : (motionError target' current' limits').angular =
          (motionError target.toExact current.toExact limits).angular :=
        angular_motionError_congr targetEq currentEq limitEq
      exact half.trans (angular_motionError offset.polar limits)
    zero_iff := by
      rw [← offset.position_eq_iff, ← Quat.sameRotation_one_iff currentUnit,
        ← offset.polar.angle_eq_zero_iff,
        ← Exact.clip_eq_zero_iff limits.maxDistance offset.nonneg,
        ← Exact.clip_eq_zero_iff limits.maxAngle offset.polar.nonneg,
        ← Vec3.scale_eq_zero_iff offset.unit, ← Vec3.scale_eq_zero_iff offset.polar.unit]
      exact SpatialVector.ext_iff }

/-- A half turn about x, reached from the base frame without an angular ceiling
and with no room to move. -/
theorem motionError_isBounded_halfTurn :
    (⟨1, 0, 0, 0⟩ : Quat ℝ).IsRotation ∧ (1 : Quat ℝ).IsRotation ∧
      ∃ error,
        motionError (Pose.toExact ⟨⟨3, 4, 0⟩, ⟨1, 0, 0, 0⟩⟩) (Pose.toExact ⟨0, 1⟩)
          ⟨.infinite false, .nan⟩ = error.toExact ∧
        IsBounded ⟨⟨3, 4, 0⟩, ⟨1, 0, 0, 0⟩⟩ ⟨0, 1⟩ ⟨.infinite false, .nan⟩ error := by
  have halfTurn := Quat.halfTurn_isPolar.isRotation
  exact ⟨halfTurn, .one, motionError_isBounded halfTurn .one _⟩

end MotionControl
