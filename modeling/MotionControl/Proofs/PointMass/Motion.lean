import MotionControl.Proofs.MotionError.Offset
import MotionControl.Proofs.PointMass.Exact

/-!
# Motion along one direction and about one axis

A force along the twist keeps the twist on its direction and axis, so a step is
described by two numbers, the speed and the spin (`nextSpeed`).  A body at rest
is the case of both being zero: it stays where it is as long as its error is
zero.
-/

namespace MotionControl

theorem Vec3.scale_add_force (direction : Vec3 ℝ) (speed error stiffness damping mass dt : ℝ) :
    direction.scale speed +
        (((direction.scale error).scale stiffness -
          (direction.scale speed).scale damping).unscale mass).scale dt =
      direction.scale (speed + (error * stiffness - speed * damping) / mass * dt) := by
  ext <;> simp [unscale] <;> ring

theorem Pose.displace_zero (pose : Pose ℝ) : pose.displace 0 = pose := by
  have unit : (⟨1, 0, 0⟩ : Vec3 ℝ).norm = 1 := by
    simp [Vec3.norm, Vec3.normSq]
  have still : Quat.ofRotationVector (0 : Vec3 ℝ) = 1 := by
    rw [← Vec3.scale_zero ⟨1, 0, 0⟩, Quat.ofRotationVector_scale unit, Quat.turn_zero]
  apply Pose.ext
  · change pose.position + 0 = pose.position
    ext <;> simp
  · change Quat.ofRotationVector 0 * pose.rotation = pose.rotation
    rw [still, one_mul]

namespace PointMass

/-- Speed after some seconds under a spring and a damper, in one dimension. -/
noncomputable def nextSpeed (stiffness damping mass dt error speed : ℝ) : ℝ :=
  speed + (error * stiffness - speed * damping) / mass * dt

theorem nextVelocity_along {body : PointMass ℝ} {direction axis : Vec3 ℝ} {speed spin : ℝ}
    (velocity : body.velocity = .along direction axis speed spin) (distance angle dt : ℝ) :
    body.nextVelocity (.along direction axis distance angle) dt =
      .along direction axis
        (nextSpeed body.stiffness body.damping body.mass dt distance speed)
        (nextSpeed body.stiffness body.damping body.inertia dt angle spin) := by
  rw [nextVelocity, velocity]
  exact SpatialVector.ext (direction.scale_add_force _ _ _ _ _ _)
    (axis.scale_add_force _ _ _ _ _ _)

/-! ## Rest -/

/-- A solid body without velocity, whose simulated commands say so. -/
structure IsResting (body : PointMass ℝ) : Prop extends body.IsSolid where
  velocity_eq : body.velocity = 0
  simulated_eq : body.simulated = .ofState body.pose 0

theorem IsSolid.sync_isResting {body : PointMass ℝ} (solid : body.IsSolid) :
    body.sync.1.IsResting where
  mass := solid.mass
  inertia := solid.inertia
  rotation := solid.rotation
  velocity_eq := rfl
  simulated_eq := rfl

/-- One body made of another without moving it: it is in the same place, and a
command written in between says that it rests there. -/
structure Idles (before after : PointMass ℝ) : Prop where
  pose_eq : after.pose = before.pose
  written : (after.written = before.written ∧ after.writes = before.writes) ∨
    after.written = some (.ofState before.pose 0)

namespace Idles

theorem refl (body : PointMass ℝ) : Idles body body :=
  ⟨rfl, .inl ⟨rfl, rfl⟩⟩

theorem trans {first second third : PointMass ℝ} (early : Idles first second)
    (late : Idles second third) : Idles first third where
  pose_eq := late.pose_eq.trans early.pose_eq
  written := by
    rcases late.written with ⟨command, count⟩ | command
    · rw [command, count]
      exact early.written
    · rw [early.pose_eq] at command
      exact .inr command

theorem write {body : PointMass ℝ} (resting : body.IsResting) : Idles body body.write.1 :=
  ⟨rfl, .inr (congrArg some resting.simulated_eq)⟩

end Idles

namespace IsResting

variable {body : PointMass ℝ} (resting : body.IsResting)

include resting

theorem write : body.write.1.IsResting where
  mass := resting.mass
  inertia := resting.inertia
  rotation := resting.rotation
  velocity_eq := resting.velocity_eq
  simulated_eq := resting.simulated_eq

theorem sync : body.sync.1 = body := by
  have velocity := resting.velocity_eq
  have simulated := resting.simulated_eq
  cases body
  simp only at velocity simulated
  simp only [PointMass.sync, velocity, simulated]

theorem nextVelocity_eq (dt : ℝ) : body.nextVelocity 0 dt = 0 := by
  have still : body.velocity = .along 0 0 0 0 :=
    resting.velocity_eq.trans (SpatialVector.along_zero 0 0).symm
  have kept : nextSpeed body.stiffness body.damping body.mass dt 0 0 = 0 ∧
      nextSpeed body.stiffness body.damping body.inertia dt 0 0 = 0 := by
    constructor <;> simp [nextSpeed]
  have next := nextVelocity_along still 0 0 dt
  rwa [kept.1, kept.2, SpatialVector.along_zero] at next

/-- A step without error leaves every field as it was. -/
theorem stepped_eq (dt : ℝ) : body.stepped 0 dt = body := by
  have pose : body.nextPose 0 dt = body.pose := by
    rw [nextPose_eq_displace resting.toIsSolid, SpatialVector.zero_scale, Pose.displace_zero]
  have velocity := resting.velocity_eq
  have simulated := resting.simulated_eq
  rw [stepped, resting.nextVelocity_eq, pose, ← simulated, ← velocity]

/-- Whether a step without error is carried out or refused, nothing changes. -/
theorem synthesize_eq (period : Duration) : (body.synthesize 0 period).1 = body := by
  cases violated : body.violatedRadius? (body.stepped 0 period.seconds).pose.position with
  | none => rw [synthesize_of_inside violated, resting.stepped_eq]
  | some radius => rw [synthesize_of_outside violated]

end IsResting

end PointMass
end MotionControl
