import MotionControl.Interface
import MotionControl.MotionError
import MotionControl.Plant

/-!
# The point-mass plant

A free-floating end effector with a mass and a rotational inertia.
The motion error acts as a spring, a viscous damper opposes the twist, and each
step first updates the twist and then moves by it:

    force    = stiffness · error - damping · twist
    twist    = twist + force / mass · dt
    position = position + linear · dt
    rotation = exp (angular · dt) · rotation

The six joints are the Cartesian coordinates themselves: joint positions are the
position followed by the rotation vector, joint velocities are the twist.  A
step that would end outside the workspace is refused and leaves the state alone.
-/

namespace MotionControl

open Scalar

/-- Joint-level commands of one simulation step. -/
structure JointCommand (α : Type) where
  positions : SpatialVector α
  velocities : SpatialVector α
  deriving DecidableEq

structure PointMass (α : Type) where
  interface : Interface
  pose : Pose α
  /-- Twist in the base frame. -/
  velocity : SpatialVector α
  mass : α
  inertia : α
  stiffness : α
  damping : α
  /-- Positions farther than this from the base are unreachable; without a
  radius every position can be reached. -/
  workspaceRadius : Option α
  simulated : JointCommand α
  /-- Commands most recently written to the hardware. -/
  written : Option (JointCommand α)
  writes : Nat

variable {α : Type} [Scalar α]

namespace JointCommand

/-- The commands that describe a pose and a twist. -/
def ofState (pose : Pose α) (velocity : SpatialVector α) : JointCommand α where
  positions := ⟨pose.position, pose.rotation.rotationVector⟩
  velocities := velocity

/-- The values that a hardware interface of the given kind receives. -/
def forInterface (command : JointCommand α) : Interface → SpatialVector α
  | .velocity => command.velocities
  | .position | .effort => command.positions

end JointCommand

namespace PointMass

/-- At rest in the base frame, with unit mass and inertia, a critically damped
spring and no bound on the workspace. -/
def create (interface : Interface) : PointMass α where
  interface := interface
  pose := .identity
  velocity := 0
  mass := 1
  inertia := 1
  stiffness := ((25 : Nat) : α)
  damping := ((10 : Nat) : α)
  workspaceRadius := none
  simulated := .ofState .identity 0
  written := none
  writes := 0

def withPose (plant : PointMass α) (pose : Pose α) : PointMass α :=
  { plant with pose := pose, velocity := 0, simulated := .ofState pose 0 }

/-- With the given spring stiffness and damping, the same on all six axes. -/
def withGains (plant : PointMass α) (stiffness damping : α) : PointMass α :=
  { plant with stiffness := stiffness, damping := damping }

def withMass (plant : PointMass α) (mass inertia : α) : PointMass α :=
  { plant with mass := mass, inertia := inertia }

def withWorkspaceRadius (plant : PointMass α) (radius : α) : PointMass α :=
  { plant with workspaceRadius := some radius }

/-- The twist after a step of `dt` seconds. -/
def nextVelocity (plant : PointMass α) (error : SpatialVector α) (dt : α) : SpatialVector α :=
  let force := error.scale plant.stiffness - plant.velocity.scale plant.damping
  { linear := plant.velocity.linear + (force.linear.unscale plant.mass).scale dt
    angular := plant.velocity.angular + (force.angular.unscale plant.inertia).scale dt }

/-- The pose after moving for `dt` seconds with a twist. -/
def nextPose (plant : PointMass α) (velocity : SpatialVector α) (dt : α) : Pose α where
  position := plant.pose.position + velocity.linear.scale dt
  rotation :=
    (Quat.ofRotationVector (velocity.angular.scale dt) * plant.pose.rotation).renormalize

/-- The radius that a position violates, if it does. -/
def violatedRadius? (plant : PointMass α) (position : Vec3 α) : Option α :=
  plant.workspaceRadius.filter fun radius => radius < position.norm

/-- Advance the simulation under a motion error. -/
def synthesize (plant : PointMass α) (error : SpatialVector α) (period : Duration) :
    Attempt α (PointMass α) :=
  if !error.isFinite then (plant, .error (.nonFinite "cartesian error"))
  else
    let dt : α := period.seconds
    let velocity := plant.nextVelocity error dt
    let pose := plant.nextPose velocity dt
    match plant.violatedRadius? pose.position with
    | some radius => (plant, .error (.outsideWorkspace radius))
    | none =>
      ({ plant with
          pose := pose, velocity := velocity, simulated := .ofState pose velocity }, .ok ())

/-- Record the simulated commands as written. -/
def write (plant : PointMass α) : Attempt α (PointMass α) :=
  ({ plant with written := some plant.simulated, writes := plant.writes + 1 }, .ok ())

/-- Come to rest: the model is its own robot. -/
def sync (plant : PointMass α) : Attempt α (PointMass α) :=
  ({ plant with velocity := 0, simulated := .ofState plant.pose 0 }, .ok ())

instance : Plant α (PointMass α) where
  pose := PointMass.pose
  synthesize := synthesize
  write := write
  sync := sync

end PointMass
end MotionControl
