import MotionControl.Geometry.Pose

/-!
# Bounded motion error

The motion error is the displacement, in the base frame, that would carry the
current pose to the target, bounded in length and in angle.  What the bounds cut
off is left for later cycles, so the error keeps its direction and its axis.

A difference that has no direction (none at all, or one that is not finite)
gives a zero part; the axis of the identity likewise.  `Pose.displace` applies
an error to a pose, and undoes `motionError` while no bound is active.
-/

namespace MotionControl

open Scalar

structure ErrorLimits (α : Type) where
  /-- Largest angular error, in radians. -/
  maxAngle : α
  /-- Largest linear error, in metres. -/
  maxDistance : α
  deriving DecidableEq

variable {α : Type} [Scalar α]

namespace ErrorLimits

/-- One radian and one metre. -/
def standard : ErrorLimits α :=
  ⟨1, 1⟩

/-- The angular bound in use.  A bound that is negative or not a number
counts as zero and suppresses the rotation. -/
def angleCeiling (limits : ErrorLimits α) : α :=
  greatest limits.maxAngle 0

/-- The linear bound in use, with the same rule. -/
def distanceCeiling (limits : ErrorLimits α) : α :=
  greatest limits.maxDistance 0

end ErrorLimits

/-- Axis and angle of a rotation on the short way round; zero and zero if there
is no axis or the angle is not finite. -/
def Quat.axisAngle (q : Quat α) : Vec3 α × α :=
  match q.axis? with
  | some axis => if Scalar.isFinite q.angle then (axis, q.angle) else (0, 0)
  | none => (0, 0)

/-- Direction and length of a vector; zero and zero for a vector that is zero or
not finite.  The components are scaled by the largest one first, so a large
finite vector keeps its direction while its length may overflow. -/
def Vec3.directionDistance (v : Vec3 α) : Vec3 α × α :=
  let size := v.maxMagnitude
  if !Scalar.isFinite size || size ≤ 0 then (0, 0)
  else
    match (v.unscale size).direction? with
    | some (direction, length) => (direction, length * size)
    | none => (0, 0)

/-- The bounded displacement from `current` toward `target`. -/
def motionError (target current : Pose α) (limits : ErrorLimits α) : SpatialVector α :=
  let (axis, angle) := (target.rotation * current.rotation.conjugate).axisAngle
  let (direction, distance) := (target.position - current.position).directionDistance
  { linear := direction.scale (least distance limits.distanceCeiling)
    angular := axis.scale (least angle limits.angleCeiling) }

/-- Displace a pose: add the linear part, and turn by the angular part, read as
axis times angle, in the base frame. -/
def Pose.displace (pose : Pose α) (error : SpatialVector α) : Pose α where
  position := pose.position + error.linear
  rotation := Quat.ofRotationVector error.angular * pose.rotation

/-- Lengths of the linear and the angular part. -/
def SpatialVector.magnitudes (v : SpatialVector α) : α × α :=
  (v.linear.norm, v.angular.norm)

end MotionControl
