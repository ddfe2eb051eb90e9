import MotionControl.Geometry.Pose

/-!
# Pose sinks

The controller hands the current pose to a sink every time it computes an error.
Sinks keep bare poses: `CurrentPose.ofPose` makes a message of a pose and of the
time at which it is sent, and no sink looks at that time.
A sink never makes the control loop wait and never reports back: a channel whose
queue is full, or that nobody reads any more, loses the pose silently.
-/

namespace MotionControl

/-- Receivers of published poses, over states `π`. -/
class Sink (α : outParam Type) (π : Type) where
  publish : π → Pose α → π

/-- The sink that keeps nothing. -/
structure NullSink (α : Type) where

instance (α : Type) : Sink α (NullSink α) where
  publish sink _ := sink

/-- The sink that keeps every pose, the oldest first. -/
structure PoseHistory (α : Type) where
  poses : List (Pose α) := []

instance (α : Type) : Sink α (PoseHistory α) where
  publish history pose := ⟨history.poses ++ [pose]⟩

/-- A queue of bounded length between the control loop and an observer. -/
structure Channel (α : Type) where
  capacity : Nat
  /-- The observer still holds its end. -/
  connected : Bool := true
  /-- Poses sent and not yet received, the oldest first. -/
  queue : List (Pose α) := []

namespace Channel

variable {α : Type}

/-- Put a pose into the queue; it is lost if the queue is full or nobody
listens. -/
def send (channel : Channel α) (pose : Pose α) : Channel α :=
  if channel.connected && channel.queue.length < channel.capacity then
    { channel with queue := channel.queue ++ [pose] }
  else channel

def receive (channel : Channel α) : Channel α × Option (Pose α) :=
  match channel.queue with
  | [] => (channel, none)
  | pose :: rest => ({ channel with queue := rest }, some pose)

def drain (channel : Channel α) : Channel α × List (Pose α) :=
  ({ channel with queue := [] }, channel.queue)

/-- Drop the receiving end, and with it what is still queued. -/
def disconnect (channel : Channel α) : Channel α :=
  { channel with connected := false, queue := [] }

instance : Sink α (Channel α) where
  publish := send

end Channel

/-- A sink behind a switch; while it is muted, poses are lost. -/
structure Switched (π : Type) where
  sink : π
  muted : Bool := false

instance (α π : Type) [Sink α π] : Sink α (Switched π) where
  publish switched pose :=
    if switched.muted then switched
    else { switched with sink := Sink.publish switched.sink pose }

end MotionControl
