import Mathlib.Data.List.Induction
import MotionControl.Proofs.MotionError.Offset
import MotionControl.Proofs.PointMass.Exact

/-!
# What a joint command says

A joint command carries the position and the rotation vector of a pose.  The rotation vector is
the logarithm of the stored quaternion on the short way round, so it never exceeds a half turn,
and walking it from the base frame leads back to the pose, though perhaps to the other of its two
quaternions (`ofState_describes`).  That needs unit quaternions, and a point mass keeps its own
of unit length, whatever twist the errors and the masses give it.

So in every state that calls lead to, the simulated command can be read back, and the written one
still says where the body was and how it moved when it was written (`IsLegible`).  Over the
reals a quotient by a mass of zero has no meaning of its own, and none is needed here; with
masses that are not zero the same calls among the exact numbers never leave the reals.
-/

namespace MotionControl

namespace JointCommand

/-- The command can be read back: it names the position, and a turn of at most a half that leads
from the base frame to the rotation, by the least angle there is; its velocities are the twist. -/
structure Describes (command : JointCommand ℝ) (pose : Pose ℝ) (twist : SpatialVector ℝ) :
    Prop where
  linear_eq : command.positions.linear = pose.position
  angular_le_pi : command.positions.angular.norm ≤ Real.pi
  turningAngle : pose.rotation.IsTurningAngle command.positions.angular.norm
  samePlace : (Pose.identity.displace command.positions).SamePlace pose
  velocities_eq : command.velocities = twist

theorem ofState_describes {pose : Pose ℝ} (unit : pose.rotation.IsRotation)
    (twist : SpatialVector ℝ) : (ofState pose twist).Describes pose twist where
  linear_eq := rfl
  angular_le_pi := by
    rcases Quat.exists_isPolar unit with ⟨axis, angle, polar⟩
    change pose.rotation.rotationVector.norm ≤ Real.pi
    rw [polar.rotationVector_eq, Vec3.norm_unit_scale polar.unit polar.nonneg]
    exact polar.le_pi
  turningAngle := unit.isTurningAngle_norm
  samePlace := by
    constructor
    · change 0 + pose.position = pose.position
      ext <;> simp
    · change (Quat.ofRotationVector pose.rotation.rotationVector * 1).SameRotation pose.rotation
      rw [mul_one]
      exact unit.ofRotationVector_rotationVector
  velocities_eq := rfl

end JointCommand

namespace PointMass

/-- A call on real values as one among the exact numbers. -/
def Call.toExact : Call ℝ → Call Exact
  | .synthesize error period => .synthesize error.toExact period
  | .write => .write
  | .sync => .sync

/-- What can be read off a body after some calls, carried out or refused.  Its rotation is a unit
quaternion and its simulated command describes its pose and its twist.  A written command was
written at some moment, by the last write up to now, and describes the pose and the twist of that
moment.  With masses that are not zero, the calls lead through the same states among the exact
numbers. -/
structure IsLegible (first : PointMass ℝ) (calls : List (Call ℝ)) : Prop where
  rotation : (first.run calls).pose.rotation.IsRotation
  simulated :
    (first.run calls).simulated.Describes (first.run calls).pose (first.run calls).velocity
  written : ∀ command, (first.run calls).written = some command →
    ∃ front back, calls = front ++ .write :: back ∧ (∀ call ∈ back, call.isWrite = false) ∧
      command.Describes (first.run front).pose (first.run front).velocity
  exact : first.mass ≠ 0 → first.inertia ≠ 0 →
    first.toExact.run (calls.map Call.toExact) = (first.run calls).toExact

/-! ## One call -/

/-- A unit quaternion and a simulated command that tells pose and twist. -/
structure IsTold (body : PointMass ℝ) : Prop where
  rotation : body.pose.rotation.IsRotation
  simulated_eq : body.simulated = .ofState body.pose body.velocity

theorem IsTold.simulated {body : PointMass ℝ} (told : body.IsTold) :
    body.simulated.Describes body.pose body.velocity := by
  rw [told.simulated_eq]
  exact JointCommand.ofState_describes told.rotation body.velocity

/-- Turning for some time keeps the rotation of unit length, whatever the twist. -/
theorem nextPose_isRotation {body : PointMass ℝ} (unit : body.pose.rotation.IsRotation)
    (velocity : SpatialVector ℝ) (dt : ℝ) : (body.nextPose velocity dt).rotation.IsRotation := by
  have turned := moved_isRotation unit velocity dt
  rw [nextPose, turned.renormalize]
  exact turned

theorem IsTold.perform {body : PointMass ℝ} (told : body.IsTold) (call : Call ℝ) :
    (body.perform call).1.IsTold := by
  cases call with
  | synthesize error period =>
      refine (body.synthesize_isStep error period).preserves (P := IsTold) told fun _ => ?_
      exact ⟨nextPose_isRotation told.rotation _ _, rfl⟩
  | write => exact ⟨told.rotation, told.simulated_eq⟩
  | sync => exact ⟨told.rotation, rfl⟩

theorem IsSolid.perform {body : PointMass ℝ} (solid : body.IsSolid) (call : Call ℝ) :
    (body.perform call).1.IsSolid := by
  cases call with
  | synthesize error period =>
      refine (body.synthesize_isStep error period).preserves (P := IsSolid) solid fun _ => ?_
      exact ⟨solid.mass, solid.inertia, nextPose_isRotation solid.rotation _ _⟩
  | write | sync => exact ⟨solid.mass, solid.inertia, solid.rotation⟩

theorem toExact_perform {body : PointMass ℝ} (solid : body.IsSolid) (call : Call ℝ) :
    body.toExact.perform call.toExact = exactAttempt (body.perform call) := by
  cases call with
  | synthesize error period => exact toExact_synthesize solid
  | write => exact toExact_write body
  | sync => exact toExact_sync body

/-! ## Any number of calls -/

theorem IsTold.run {body : PointMass ℝ} (told : body.IsTold) (calls : List (Call ℝ)) :
    (body.run calls).IsTold := by
  induction calls generalizing body with
  | nil => exact told
  | cons call rest inductionHypothesis => exact inductionHypothesis (told.perform call)

theorem toExact_run {body : PointMass ℝ} (solid : body.IsSolid) (calls : List (Call ℝ)) :
    body.toExact.run (calls.map Call.toExact) = (body.run calls).toExact := by
  induction calls generalizing body with
  | nil => rfl
  | cons call rest inductionHypothesis =>
      have here := congrArg Prod.fst (toExact_perform solid call)
      calc body.toExact.run ((call :: rest).map Call.toExact)
          = (body.toExact.perform call.toExact).1.run (rest.map Call.toExact) := rfl
        _ = (body.perform call).1.toExact.run (rest.map Call.toExact) := by rw [here]; rfl
        _ = (body.run (call :: rest)).toExact := inductionHypothesis (solid.perform call)

/-- A written command is the simulated one of the moment of the last write. -/
theorem exists_write_of_written {body : PointMass ℝ} (blank : body.written = none)
    {calls : List (Call ℝ)} {command : JointCommand ℝ}
    (written : (body.run calls).written = some command) :
    ∃ front back, calls = front ++ .write :: back ∧ (∀ call ∈ back, call.isWrite = false) ∧
      command = (body.run front).simulated := by
  induction calls using List.reverseRecOn with
  | nil =>
      rw [run, List.foldl_nil, blank] at written
      cases written
  | append_singleton earlier call inductionHypothesis =>
      have last : (body.run (earlier ++ [call])) = ((body.run earlier).perform call).1 := by
        rw [run_append]
        rfl
      rw [last] at written
      cases kind : call.isWrite with
      | true =>
          cases call with
          | write => exact ⟨earlier, [], rfl, List.forall_mem_nil _, (Option.some.inj written).symm⟩
          | synthesize | sync => cases kind
      | false =>
          rw [(perform_written (body.run earlier) kind).1] at written
          rcases inductionHypothesis written with ⟨front, back, split, idle, same⟩
          refine ⟨front, back ++ [call], ?_, ?_, same⟩
          · rw [split, List.append_assoc]
            rfl
          · exact List.forall_mem_append.mpr ⟨idle, List.forall_mem_singleton.mpr kind⟩

theorem IsNew.isTold {body : PointMass ℝ} (made : body.IsNew)
    (unit : body.pose.rotation.IsRotation) : body.IsTold :=
  ⟨unit, made.isBlank.simulated_eq⟩

/-- The commands of a point mass can be read back in every state that calls lead to, from any
pose with a unit rotation, with any gains and workspace.  The masses are to be other than zero:
without mass or inertia the exact body has no next velocity, and the statement on the real one
rests on the value that the reals give to a quotient by zero. -/
theorem run_isLegible {body : PointMass ℝ} (made : body.IsNew)
    (unit : body.pose.rotation.IsRotation) (calls : List (Call ℝ)) : body.IsLegible calls where
  rotation := ((made.isTold unit).run calls).rotation
  simulated := ((made.isTold unit).run calls).simulated
  written := by
    intro command written
    rcases exists_write_of_written made.isBlank.written_eq written with
      ⟨front, back, split, idle, same⟩
    refine ⟨front, back, split, idle, ?_⟩
    rw [same]
    exact ((made.isTold unit).run front).simulated
  exact := fun mass inertia => toExact_run ⟨mass, inertia, unit⟩ calls

/-- A body at the rim of its workspace.  It is stored as one that has made a full turn, and its
inertia is below zero. -/
noncomputable def turnedBody : PointMass ℝ :=
  (((create .effort).withPose ⟨⟨1, 0, 0⟩, ⟨0, 0, 0, -1⟩⟩).withMass 1 (-1)).withWorkspaceRadius 1

/-- A step that turns, a write, a step that leads outside, and a synchronisation. -/
noncomputable def turningRun : List (Call ℝ) :=
  [.synthesize ⟨0, ⟨0, 0, 1⟩⟩ ⟨20000000⟩, .write, .synthesize ⟨⟨1, 0, 0⟩, 0⟩ ⟨1000000000⟩, .sync]

theorem run_isLegible_turnedBody :
    turnedBody.IsNew ∧ turnedBody.pose.rotation.IsRotation ∧ turnedBody.mass ≠ 0 ∧
      turnedBody.inertia ≠ 0 ∧ turnedBody.IsLegible turningRun := by
  have made : turnedBody.IsNew := .withWorkspaceRadius (.withMass (.withPose (.create _) _) _ _) _
  have unit : turnedBody.pose.rotation.IsRotation := by
    norm_num [turnedBody, withPose, withMass, withWorkspaceRadius, Quat.IsRotation, Quat.normSq]
  refine ⟨made, unit, ?_, ?_, run_isLegible made unit turningRun⟩
  · norm_num [turnedBody, withMass, withWorkspaceRadius]
  · norm_num [turnedBody, withMass, withWorkspaceRadius]

end PointMass
end MotionControl
