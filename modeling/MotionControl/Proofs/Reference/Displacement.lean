import MotionControl.Proofs.Geometry.Normalisation
import MotionControl.Proofs.Geometry.RollPitchYaw
import MotionControl.Proofs.MotionError.Offset
import MotionControl.Proofs.Reference.Batch

/-!
# Twists as displacements

A twist takes the last published pose along a way that the twist alone determines: its linear
part, and the short way round of its roll, pitch and yaw.  `Twist.Displaces` says that the target
is that far from the published pose, wherever this is and however it is turned.  The twist turns
from the left, the motion error divides by the current rotation on the right, and a displacement
turns from the left again, so the published rotation cancels exactly and the error toward the
new target is the way of the twist, clipped.
-/

namespace MotionControl

namespace Twist

/-- A real twist as an exact one. -/
def toExact (twist : Twist ℝ) : Twist Exact :=
  ⟨twist.linear.toExact, twist.angular.toExact⟩

/-- How far a twist leads: its linear part, and the short way round of the rotation that its
angles make. -/
noncomputable def way (twist : Twist ℝ) : SpatialVector ℝ :=
  ⟨twist.linear, (Quat.rollPitchYaw twist.angular).rotationVector⟩

/-- What a twist makes of a published pose.  The target is one displacement away, and the motion
error toward it is that displacement, clipped; neither depends on the pose.  A twist without
motion gives no error, and an angle about a single axis, up to a half turn, is itself the angular
error before it is clipped. -/
structure Displaces (twist : Twist ℝ) (pose target : Pose ℝ) : Prop where
  position : target.position = pose.position + twist.linear
  rotation : target.rotation = Quat.rollPitchYaw twist.angular * pose.rotation
  reached : (pose.displace twist.way).SamePlace target
  shortWay : (Quat.rollPitchYaw twist.angular).IsTurningAngle twist.way.angular.norm
  motionError_eq : ∀ limits : ErrorLimits Exact,
    motionError target.toExact pose.toExact limits = (twist.way.clipped limits).toExact
  still : twist = .zero → ∀ limits : ErrorLimits Exact,
    motionError target.toExact pose.toExact limits = 0
  axial : twist.angular.IsAxial → twist.angular.norm ≤ Real.pi → ∀ limits : ErrorLimits Exact,
    (motionError target.toExact pose.toExact limits).angular =
      (twist.angular.clipped limits.maxAngle).toExact

theorem toExact_injective : Function.Injective toExact := by
  intro a b same
  rcases a with ⟨linear, angular⟩
  rcases b with ⟨linear', angular'⟩
  simpa [toExact, Vec3.toExact, Vec3.ext_iff] using same

theorem exists_toExact {twist : Twist Exact} (usable : twist.Usable) :
    ∃ finite : Twist ℝ, twist = finite.toExact := by
  rw [Usable, List.forall_mem_append] at usable
  rcases Vec3.exists_toExact usable.1 with ⟨linear, linearEq⟩
  rcases Vec3.exists_toExact usable.2 with ⟨angular, angularEq⟩
  rcases twist with ⟨linear', angular'⟩
  exact ⟨⟨linear, angular⟩, by rw [toExact, ← linearEq, ← angularEq]⟩

end Twist

namespace Reference

/-- The pose that a twist leads to: unit rotations stay what they are when they are
normalised. -/
theorem advance_toExact {pose : Pose ℝ} (unit : pose.rotation.IsRotation) (twist : Twist ℝ) :
    advance pose.toExact twist.toExact =
      Pose.toExact ⟨pose.position + twist.linear,
        Quat.rollPitchYaw twist.angular * pose.rotation⟩ := by
  have turned := (Quat.rollPitchYaw_isRotation twist.angular).mul unit
  have made : Quat.ofRollPitchYaw twist.toExact.angular.x twist.toExact.angular.y
      twist.toExact.angular.z = (Quat.rollPitchYaw twist.angular).toExact := by
    rw [← Quat.ofRollPitchYaw_eq, ← Quat.toExact_ofRollPitchYaw]
    rfl
  refine Pose.ext rfl ?_
  rw [advance, made]
  exact (congrArg Quat.renormalize (Quat.toExact_mul _ _)).trans turned.toExact_renormalize

end Reference

namespace Twist

theorem way_angular_of_axial {twist : Twist ℝ} (axial : twist.angular.IsAxial)
    (short : twist.angular.norm ≤ Real.pi) : twist.way.angular = twist.angular :=
  Quat.rotationVector_rollPitchYaw axial short

theorem way_zero : (zero : Twist ℝ).way = 0 := by
  have axial : (0 : Vec3 ℝ).IsAxial := ⟨⟨1, 0, 0⟩, by simp [Vec3.axes], 0, by ext <;> simp⟩
  have short : (0 : Vec3 ℝ).norm ≤ Real.pi := by
    rw [(Vec3.norm_eq_zero_iff 0).mpr rfl]
    exact Real.pi_pos.le
  exact SpatialVector.ext rfl (way_angular_of_axial axial short)

theorem displaces_advance {pose : Pose ℝ} (unit : pose.rotation.IsRotation) (twist : Twist ℝ) :
    twist.Displaces pose
      ⟨pose.position + twist.linear, Quat.rollPitchYaw twist.angular * pose.rotation⟩ := by
  have turns := Quat.rollPitchYaw_isRotation twist.angular
  have error (limits : ErrorLimits Exact) :
      motionError (Pose.toExact ⟨pose.position + twist.linear,
        Quat.rollPitchYaw twist.angular * pose.rotation⟩) pose.toExact limits =
        (twist.way.clipped limits).toExact := by
    have moved : pose.position + twist.linear - pose.position = twist.linear := by
      ext <;> simp
    rw [motionError_eq_clipped (turns.mul unit) unit, moved, mul_assoc, unit.mul_conjugate,
      mul_one, way]
  exact {
    position := rfl
    rotation := rfl
    reached := ⟨rfl, turns.ofRotationVector_rotationVector.mul_right pose.rotation⟩
    shortWay := turns.isTurningAngle_norm
    motionError_eq := error
    still := by
      rintro rfl limits
      rw [error, way_zero, SpatialVector.clipped_zero]
      rfl
    axial := by
      intro axial short limits
      rw [error, ← way_angular_of_axial axial short]
      rfl }

end Twist

namespace Reference

/-- An accepted twist displaces the last published pose. -/
theorem onTwist_displaces {reference : Reference Exact} {pose : Pose ℝ} {twist : Twist Exact}
    {now : ℕ} (published : reference.lastPublished = pose.toExact)
    (unit : pose.rotation.IsRotation)
    (applied : (reference.onTwist twist now).2.1 = .applied) :
    ∃ (finite : Twist ℝ) (target : Pose ℝ), twist = finite.toExact ∧
      (reference.onTwist twist now).1.target = target.toExact ∧
      finite.Displaces pose target := by
  have usable := (onTwist_isHandled reference twist now).answered.2.mp (congrArg some applied)
  rcases Twist.exists_toExact usable with ⟨finite, rfl⟩
  have sets := sets_advance reference usable
  refine ⟨finite, _, rfl, ?_, Twist.displaces_advance unit finite⟩
  rw [← advance_toExact unit, ← published]
  exact sets.handle_target now

/-- A pose that is turned by a half turn about x and lies off the origin. -/
noncomputable def upsideDown : Pose ℝ :=
  ⟨⟨1, 0, -1⟩, ⟨1, 0, 0, 0⟩⟩

/-- A way of five and a turn by one about z in the negative direction, of which the ceilings let
a way of one and a turn by a half through. -/
theorem onTwist_displaces_upsideDown :
    ((create "base" upsideDown.toExact).onTwist
        (Twist.toExact ⟨⟨3, 4, 0⟩, ⟨0, 0, -1⟩⟩) 0).2.1 = .applied ∧
      upsideDown.rotation.IsRotation ∧
      motionError ((create "base" upsideDown.toExact).onTwist
          (Twist.toExact ⟨⟨3, 4, 0⟩, ⟨0, 0, -1⟩⟩) 0).1.target upsideDown.toExact
          ⟨.real (1 / 2), .real 1⟩ =
        (⟨⟨3 / 5, 4 / 5, 0⟩, ⟨0, 0, -1 / 2⟩⟩ : SpatialVector ℝ).toExact := by
  have unit : upsideDown.rotation.IsRotation := Quat.halfTurn_isPolar.isRotation
  have applied : ((create "base" upsideDown.toExact).onTwist
      (Twist.toExact ⟨⟨3, 4, 0⟩, ⟨0, 0, -1⟩⟩) 0).2.1 = .applied := rfl
  refine ⟨applied, unit, ?_⟩
  rcases onTwist_displaces rfl unit applied with ⟨finite, target, same, reached, displaces⟩
  have sent : (⟨⟨3, 4, 0⟩, ⟨0, 0, -1⟩⟩ : Twist ℝ) = finite := Twist.toExact_injective same
  subst sent
  have direction : (⟨3 / 5, 4 / 5, 0⟩ : Vec3 ℝ).norm = 1 := by
    norm_num [Vec3.norm, Vec3.normSq]
  have axis : (⟨0, 0, -1⟩ : Vec3 ℝ).norm = 1 := by norm_num [Vec3.norm, Vec3.normSq]
  have axial : (⟨0, 0, -1⟩ : Vec3 ℝ).IsAxial :=
    ⟨⟨0, 0, 1⟩, by simp [Vec3.axes], -1, by ext <;> simp⟩
  have short : (⟨0, 0, -1⟩ : Vec3 ℝ).norm ≤ Real.pi :=
    axis.trans_le (one_le_two.trans Real.two_le_pi)
  have way : (⟨⟨3, 4, 0⟩, ⟨0, 0, -1⟩⟩ : Twist ℝ).way =
      .along ⟨3 / 5, 4 / 5, 0⟩ ⟨0, 0, -1⟩ 5 1 := by
    refine SpatialVector.ext ?_ ((Twist.way_angular_of_axial axial short).trans ?_) <;>
      ext <;> norm_num [SpatialVector.along, Twist.way]
  rw [reached, displaces.motionError_eq, way,
    SpatialVector.clipped_along direction axis (by norm_num) zero_le_one,
    Exact.clip_real (by norm_num), Exact.clip_real (by norm_num)]
  norm_num [SpatialVector.along, Vec3.scale]

end Reference
end MotionControl
