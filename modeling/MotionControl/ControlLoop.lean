import MotionControl.Config
import MotionControl.Plant

/-!
# The control loop

Every tick drives the plant toward the target for a number of sub-steps of fixed
length and then writes the final commands once.  Each sub-step records and
publishes the current pose, measures the bounded error toward the target, scales
it and hands it to the plant.  The first plant operation that fails ends the
tick; nothing is written then, and the next tick starts afresh.

The loop is written over any workcell: a state that it reads and changes by one
action after the other.  Each action starts from the state that the action before
it left, so the order of the actions is part of what the loop does.  A controller
is a workcell, and so is one that keeps a journal.
-/

namespace MotionControl

/-- What the control loop reads and does, over states `ω`. -/
class Workcell (α : outParam Type) (ω : Type) where
  paused : ω → Bool
  settings : ω → Settings α
  /-- Pose of the end effector. -/
  pose : ω → Pose α
  /-- Look up the target, which event sources may change at any time. -/
  readTarget : ω → ω × Pose α
  /-- Record the pose as the one published last. -/
  record : ω → Pose α → ω
  /-- Hand the pose to the observers.  The message that carries it, with a time
  stamp, is made at the boundary. -/
  publish : ω → Pose α → ω
  synthesize : ω → SpatialVector α → Duration → Attempt α ω
  write : ω → Attempt α ω
  /-- Count a step that succeeded. -/
  countSubstep : ω → ω
  /-- Count a tick, whether it failed, and its wall time against its period. -/
  countTick (cell : ω) (failed : Bool) (period elapsed : Duration) : ω

namespace Workcell

variable {α ω : Type} [Scalar α] [Workcell α ω]

/-- Record and publish the current pose, and only then look up the target and
measure the bounded error toward it. -/
def measure (cell : ω) : ω × SpatialVector α :=
  let current := pose cell
  let cell := record cell current
  let cell := publish cell current
  let (cell, target) := readTarget cell
  (cell, motionError target current (settings cell).limits)

/-- One sub-step: measure the error, scale it, and let the plant follow it. -/
def substep (cell : ω) : Attempt α ω :=
  let (cell, error) := measure cell
  (synthesize cell (error.scale (settings cell).errorScale) (settings cell).internalPeriod).andThen
    fun cell => (countSubstep cell, .ok ())

/-- The given number of sub-steps, ending at the first that fails. -/
def runSubsteps : Nat → ω → Attempt α ω
  | 0, cell => (cell, .ok ())
  | n + 1, cell => (substep cell).andThen (runSubsteps n)

/-- All sub-steps of a tick, and one write if none of them failed. -/
def tick (cell : ω) : Attempt α ω :=
  (runSubsteps (settings cell).substeps.toNat cell).andThen write

/-- Advance one outer cycle of length `period`, which takes `elapsed` of wall
time.  While the loop is paused it still publishes the pose but neither
synthesises nor writes. -/
def update (cell : ω) (period elapsed : Duration) : Attempt α ω :=
  if paused cell then ((measure cell).1, .ok ())
  else
    let (cell, result) := tick cell
    let failed := match result with
      | .ok () => false
      | .error _ => true
    (countTick cell failed period elapsed, result)

end Workcell
end MotionControl
