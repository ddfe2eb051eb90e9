import MotionControl.Proofs.Geometry.Normalisation
import MotionControl.Proofs.PointMass.Coherence

/-!
# The point mass over the reals and among the exact numbers

A body with real gains, masses that are not zero and a unit rotation stays among
the reals: every step of its exact image is the image of a real step
(`toExact_synthesize`).  Over the reals a step is plain mechanics.  The rotation
keeps unit length by itself, so restoring it changes nothing, and the pose moves
by one displacement (`nextPose_eq_displace`).
-/

namespace MotionControl

/-! ## Embeddings -/

theorem Duration.seconds_toExact (duration : Duration) :
    (duration.seconds : Exact) = .real duration.seconds := by
  have perSecond : ((Duration.perSecond : ℕ) : ℝ) ≠ 0 := by
    norm_num [Duration.perSecond]
  simp only [Duration.seconds, Scalar.ratio, Exact.natCast_eq, Exact.real_div _ perSecond,
    Exact.real_add]

namespace SpatialVector

@[simp] theorem toExact_sub (a b : SpatialVector ℝ) :
    a.toExact - b.toExact = (a - b).toExact :=
  SpatialVector.ext (Vec3.toExact_sub _ _) (Vec3.toExact_sub _ _)

theorem toExact_isFinite (v : SpatialVector ℝ) : v.toExact.isFinite = true :=
  rfl

end SpatialVector

/-- A fault of a real plant as one among the exact numbers. -/
def Fault.toExact : Fault ℝ → Fault Exact
  | .outsideWorkspace radius => .outsideWorkspace (.real radius)
  | .unreachable reason => .unreachable reason
  | .nonFinite quantity => .nonFinite quantity
  | .hardware reason => .hardware reason

def JointCommand.toExact (command : JointCommand ℝ) : JointCommand Exact :=
  ⟨command.positions.toExact, command.velocities.toExact⟩

theorem JointCommand.toExact_ofState (pose : Pose ℝ) (velocity : SpatialVector ℝ) :
    JointCommand.ofState pose.toExact velocity.toExact =
      (JointCommand.ofState pose velocity).toExact := by
  simp only [ofState, toExact, SpatialVector.toExact, Pose.toExact, Quat.toExact_rotationVector]

namespace PointMass

/-- A real body as an exact plant. -/
def toExact (body : PointMass ℝ) : PointMass Exact where
  interface := body.interface
  pose := body.pose.toExact
  velocity := body.velocity.toExact
  mass := .real body.mass
  inertia := .real body.inertia
  stiffness := .real body.stiffness
  damping := .real body.damping
  workspaceRadius := body.workspaceRadius.map .real
  simulated := body.simulated.toExact
  written := body.written.map .toExact
  writes := body.writes

theorem toExact_create_withPose (interface : Interface) (pose : Pose ℝ) :
    (create interface).withPose pose.toExact = ((create interface).withPose pose).toExact := by
  have rest : JointCommand.ofState pose.toExact 0 = (JointCommand.ofState pose 0).toExact :=
    JointCommand.toExact_ofState pose 0
  rw [withPose, rest]
  rfl

/-- Masses that are not zero, and a unit rotation. -/
structure IsSolid (body : PointMass ℝ) : Prop where
  mass : body.mass ≠ 0
  inertia : body.inertia ≠ 0
  rotation : body.pose.rotation.IsRotation

theorem moved_isRotation {body : PointMass ℝ} (unit : body.pose.rotation.IsRotation)
    (velocity : SpatialVector ℝ) (dt : ℝ) :
    (Quat.ofRotationVector (velocity.angular.scale dt) * body.pose.rotation).IsRotation :=
  (Quat.ofRotationVector_isRotation _).mul unit

section Solid

variable {body : PointMass ℝ} (solid : body.IsSolid)

include solid

theorem toExact_nextVelocity (error : SpatialVector ℝ) (dt : ℝ) :
    body.toExact.nextVelocity error.toExact (.real dt) = (body.nextVelocity error dt).toExact := by
  have force : error.toExact.scale body.toExact.stiffness -
        body.toExact.velocity.scale body.toExact.damping =
      (error.scale body.stiffness - body.velocity.scale body.damping).toExact := by
    simp only [toExact, SpatialVector.toExact_scale, SpatialVector.toExact_sub]
  have linear := Vec3.toExact_unscale
    (error.scale body.stiffness - body.velocity.scale body.damping).linear solid.mass
  have angular := Vec3.toExact_unscale
    (error.scale body.stiffness - body.velocity.scale body.damping).angular solid.inertia
  simp only [nextVelocity, force]
  simp only [SpatialVector.toExact, toExact, linear, angular, Vec3.toExact_scale,
    Vec3.toExact_add]

theorem toExact_nextPose (velocity : SpatialVector ℝ) (dt : ℝ) :
    body.toExact.nextPose velocity.toExact (.real dt) = (body.nextPose velocity dt).toExact := by
  have unit := moved_isRotation solid.rotation velocity dt
  apply Pose.ext
  · simp only [nextPose, toExact, Pose.toExact, SpatialVector.toExact, Vec3.toExact_scale,
      Vec3.toExact_add]
  · simp only [nextPose, toExact, Pose.toExact, SpatialVector.toExact, Vec3.toExact_scale,
      Quat.toExact_ofRotationVector, Quat.toExact_mul, unit.toExact_renormalize, unit.renormalize]

/-- Moving for some time is one displacement by the way made in it. -/
theorem nextPose_eq_displace (velocity : SpatialVector ℝ) (dt : ℝ) :
    body.nextPose velocity dt = body.pose.displace (velocity.scale dt) := by
  apply Pose.ext
  · rfl
  · exact (moved_isRotation solid.rotation velocity dt).renormalize

end Solid

theorem toExact_violatedRadius? (body : PointMass ℝ) (position : Vec3 ℝ) :
    body.toExact.violatedRadius? position.toExact =
      (body.violatedRadius? position).map .real := by
  unfold violatedRadius? toExact
  cases body.workspaceRadius with
  | none => rfl
  | some radius => by_cases outside : radius < position.norm <;> simp [Option.filter, outside]

/-! ## Calls -/

/-- The outcome of a step inside the workspace. -/
noncomputable def stepped (body : PointMass ℝ) (error : SpatialVector ℝ) (dt : ℝ) : PointMass ℝ :=
  { body with
    pose := body.nextPose (body.nextVelocity error dt) dt
    velocity := body.nextVelocity error dt
    simulated := .ofState (body.nextPose (body.nextVelocity error dt) dt)
      (body.nextVelocity error dt) }

/-- The image of a call of a real body. -/
def exactAttempt (attempt : Attempt ℝ (PointMass ℝ)) : Attempt Exact (PointMass Exact) :=
  (attempt.1.toExact, attempt.2.mapError Fault.toExact)

section Real

variable {body : PointMass ℝ} {error : SpatialVector ℝ} {period : Duration}

theorem synthesize_of_inside
    (inside : body.violatedRadius? (body.stepped error period.seconds).pose.position = none) :
    body.synthesize error period = (body.stepped error period.seconds, .ok ()) :=
  synthesize_of_none rfl inside

theorem synthesize_of_outside {radius : ℝ}
    (outside : body.violatedRadius? (body.stepped error period.seconds).pose.position =
      some radius) :
    body.synthesize error period = (body, .error (.outsideWorkspace radius)) :=
  synthesize_of_some rfl outside

theorem toExact_synthesize (solid : body.IsSolid) :
    body.toExact.synthesize error.toExact period =
      exactAttempt (body.synthesize error period) := by
  have finite := SpatialVector.toExact_isFinite error
  have radius := toExact_violatedRadius? body (body.stepped error period.seconds).pose.position
  have command := JointCommand.toExact_ofState (body.stepped error period.seconds).pose
    (body.stepped error period.seconds).velocity
  cases violated : body.violatedRadius? (body.stepped error period.seconds).pose.position with
  | none =>
      rw [synthesize_of_inside violated]
      rw [violated, stepped] at radius
      rw [stepped] at command
      simp only [Pose.toExact] at radius command
      simp only [synthesize, finite, Bool.not_true, Bool.false_eq_true, if_false,
        Duration.seconds_toExact, toExact_nextVelocity solid, toExact_nextPose solid,
        Pose.toExact, radius, command]
      rfl
  | some bound =>
      rw [synthesize_of_outside violated]
      rw [violated, stepped] at radius
      simp only [synthesize, finite, Bool.not_true, Bool.false_eq_true, if_false,
        Duration.seconds_toExact, toExact_nextVelocity solid, toExact_nextPose solid,
        Pose.toExact, radius]
      rfl

end Real

theorem toExact_write (body : PointMass ℝ) :
    body.toExact.write = exactAttempt body.write :=
  rfl

theorem toExact_sync (body : PointMass ℝ) :
    body.toExact.sync = exactAttempt body.sync := by
  have rest : JointCommand.ofState body.toExact.pose 0 =
      (JointCommand.ofState body.pose 0).toExact :=
    JointCommand.toExact_ofState body.pose 0
  simp only [sync, rest]
  rfl

end PointMass
end MotionControl
