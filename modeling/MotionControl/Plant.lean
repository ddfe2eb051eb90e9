import MotionControl.Decimal.Fixed
import MotionControl.Duration
import MotionControl.Geometry.Pose

/-!
# Plants

The controller owns no kinematics.  It drives a plant: a simulated manipulator
that turns a motion error into joint commands step by step, and writes the last
of them to the hardware.  A plant is any state type with the four operations
below.  Each of them may fail, and may change the state whether it fails or not.
-/

namespace MotionControl

inductive Fault (α : Type) where
  /-- The step would leave the workspace of the given radius. -/
  | outsideWorkspace (radius : α)
  /-- The target cannot be reached for another reason. -/
  | unreachable (reason : String)
  | nonFinite (quantity : String)
  | hardware (reason : String)
  deriving DecidableEq

namespace Fault

/-- Wording of a fault.  A radius shows three decimals. -/
def message : Fault Float → String
  | .outsideWorkspace radius =>
    "Target configuration unreachable: end effector would leave the "
      ++ String.ofList (Decimal.fixed 3 radius) ++ " m workspace"
  | .unreachable reason => "Target configuration unreachable: " ++ reason
  | .nonFinite quantity => "Non-finite value in " ++ quantity
  | .hardware reason => "Hardware interface error: " ++ reason

/-- Wording of a fault when the controller passes it on. -/
def controllerMessage (fault : Fault Float) : String :=
  "Forward dynamics failure: " ++ fault.message

end Fault

/-- The state after an operation, and whether the operation succeeded. -/
abbrev Attempt (α σ : Type) := σ × Except (Fault α) Unit

/-- Go on from a success; a failure is the end. -/
def Attempt.andThen {α σ : Type} (attempt : Attempt α σ) (next : σ → Attempt α σ) : Attempt α σ :=
  match attempt with
  | (state, .ok ()) => next state
  | (state, .error fault) => (state, .error fault)

/-- Forward dynamics over states `σ`. -/
class Plant (α : outParam Type) (σ : Type) where
  pose : σ → Pose α
  /-- Turn a motion error into joint commands, advancing the simulation by a
  span of time. -/
  synthesize : σ → SpatialVector α → Duration → Attempt α σ
  /-- Write the current commands to the hardware. -/
  write : σ → Attempt α σ
  /-- Take over the real joint state; a plant without feedback has nothing to
  do. -/
  sync : σ → Attempt α σ := fun state => (state, .ok ())

end MotionControl
