import MotionControl.MotionError
import MotionControl.Plant

/-!
# A plant that follows a script

For trying out a controller without dynamics: each step moves the pose by a fixed
fraction of the error, and chosen calls fail.  The plant counts its calls and
remembers what the last one was given.
-/

namespace MotionControl

structure ScriptedPlant (α : Type) where
  pose : Pose α
  /-- Fraction of the error that a step covers. -/
  gain : α
  /-- The step with this number, counted from one, fails. -/
  failOnCall : Option Nat := none
  failWrites : Bool := false
  failSync : Bool := false
  calls : Nat := 0
  writes : Nat := 0
  lastError : Option (SpatialVector α) := none
  lastPeriod : Option Duration := none

namespace ScriptedPlant

variable {α : Type} [Scalar α]

/-- Count the step and remember its arguments; then fail or move. -/
def synthesize (plant : ScriptedPlant α) (error : SpatialVector α) (period : Duration) :
    Attempt α (ScriptedPlant α) :=
  let called := { plant with
    calls := plant.calls + 1, lastError := some error, lastPeriod := some period }
  if plant.failOnCall = some called.calls then (called, .error (.unreachable "joint limit"))
  else ({ called with pose := plant.pose.displace (error.scale plant.gain) }, .ok ())

/-- Count the write, unless writes fail. -/
def write (plant : ScriptedPlant α) : Attempt α (ScriptedPlant α) :=
  if plant.failWrites then (plant, .error (.hardware "command interface unavailable"))
  else ({ plant with writes := plant.writes + 1 }, .ok ())

/-- There is no joint state to take over; asking for it may fail. -/
def sync (plant : ScriptedPlant α) : Attempt α (ScriptedPlant α) :=
  if plant.failSync then (plant, .error (.hardware "no joint state")) else (plant, .ok ())

instance : Plant α (ScriptedPlant α) where
  pose := ScriptedPlant.pose
  synthesize := synthesize
  write := write
  sync := sync

end ScriptedPlant
end MotionControl
