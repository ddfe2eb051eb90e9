import MotionControl.LogEntry
import MotionControl.Message
import MotionControl.MotionError
import MotionControl.Throttle

/-!
# The target reference

The reference holds two poses: the target, which events set, and the pose that
the control loop published last, which the loop alone records.  A target pose
replaces the target.  A twist displaces the last published pose, not the target,
so several twists between two publications do not add up.  An event that is
refused changes neither pose and is reported through one of two throttles, one
for foreign frames and one for unusable values.
-/

namespace MotionControl

/-- Target and last published pose, with the frame that target poses must name. -/
structure Reference (α : Type) where
  baseLink : String
  target : Pose α
  /-- The pose the control loop published last. -/
  lastPublished : Pose α
  frameWarnings : Throttle
  valueWarnings : Throttle

inductive Outcome where
  | applied
  | frameMismatch
  /-- The position is not finite or the orientation cannot be normalised. -/
  | invalidPose
  | invalidTwist
  deriving DecidableEq

/-- Holds of the one outcome that changes the target. -/
def Outcome.isApplied (outcome : Outcome) : Bool :=
  outcome == .applied

inductive Event (α : Type) where
  /-- An absolute target pose. -/
  | targetPose (message : PoseStamped α)
  /-- A displacement of the last published pose. -/
  | twist (command : Twist α)
  /-- A target known to be in the base frame. -/
  | setTarget (pose : Pose α)

namespace Reference

variable {α : Type} [Scalar α]

/-- Window of the warning throttles where no other is asked for. -/
def standardWindow : Duration :=
  .ofWholeSeconds 3

/-- A reference whose target and last published pose start at `initial`. -/
def create (baseLink : String) (initial : Pose α) (window : Duration := standardWindow) :
    Reference α where
  baseLink := baseLink
  target := initial
  lastPublished := initial
  frameWarnings := ⟨window, none, 0⟩
  valueWarnings := ⟨window, none, 0⟩

def setTarget (reference : Reference α) (pose : Pose α) : Reference α :=
  { reference with target := pose }

/-- Record the pose that the control loop publishes. -/
def recordPublished (reference : Reference α) (pose : Pose α) : Reference α :=
  { reference with lastPublished := pose }

/-- Start where we are: both poses become `pose`. -/
def resync (reference : Reference α) (pose : Pose α) : Reference α :=
  (reference.recordPublished pose).setTarget pose

/-- Report a foreign frame through its throttle. -/
def warnFrame (reference : Reference α) (got : String) (now : Nat) :
    Reference α × List (LogEntry α) :=
  let (throttle, admitted) := reference.frameWarnings.check now
  ({ reference with frameWarnings := throttle },
    admitted.toList.map (.wrongFrame reference.baseLink got))

/-- Report unusable values through their throttle. -/
def warnValues (reference : Reference α) (entry : Nat → LogEntry α) (now : Nat) :
    Reference α × List (LogEntry α) :=
  let (throttle, admitted) := reference.valueWarnings.check now
  ({ reference with valueWarnings := throttle }, admitted.toList.map entry)

/-- The pose that a message in the base frame stands for; nothing if its
position is not finite or its orientation has no unit multiple. -/
def poseOf? (message : PoseStamped α) : Option (Pose α) :=
  match message.orientation.ofComponents? with
  | some rotation =>
    if message.position.isFinite then some ⟨message.position, rotation⟩ else none
  | none => none

/-- Handle an absolute target pose at time `now`.  The frame is checked before
the values. -/
def onTargetPose (reference : Reference α) (message : PoseStamped α) (now : Nat) :
    Reference α × Outcome × List (LogEntry α) :=
  if message.frame ≠ reference.baseLink then
    let (reference, log) := reference.warnFrame message.frame now
    (reference, .frameMismatch, log)
  else
    match poseOf? message with
    | some pose => (reference.setTarget pose, .applied, [])
    | none =>
      let (reference, log) := reference.warnValues .unusablePose now
      (reference, .invalidPose, log)

/-- The pose that a twist makes of a published one: the linear part is added,
and the angular part, read as roll, pitch and yaw, turns it in the base frame. -/
def advance (pose : Pose α) (twist : Twist α) : Pose α where
  position := pose.position + twist.linear
  rotation :=
    (Quat.ofRollPitchYaw twist.angular.x twist.angular.y twist.angular.z
      * pose.rotation).renormalize

def onTwist (reference : Reference α) (twist : Twist α) (now : Nat) :
    Reference α × Outcome × List (LogEntry α) :=
  if twist.isValid then
    (reference.setTarget (advance reference.lastPublished twist), .applied, [])
  else
    let (reference, log) := reference.warnValues .unusableTwist now
    (reference, .invalidTwist, log)

/-- Handle any event at time `now`; setting a target outright has no outcome. -/
def handle (reference : Reference α) (event : Event α) (now : Nat) :
    Reference α × Option Outcome × List (LogEntry α) :=
  match event with
  | .targetPose message =>
    let (reference, outcome, log) := reference.onTargetPose message now
    (reference, some outcome, log)
  | .twist command =>
    let (reference, outcome, log) := reference.onTwist command now
    (reference, some outcome, log)
  | .setTarget pose => (reference.setTarget pose, none, [])

end Reference
end MotionControl
