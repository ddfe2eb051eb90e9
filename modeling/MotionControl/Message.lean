import MotionControl.Geometry.Pose

/-!
# Messages at the boundary

Inbound are target poses tagged with a frame, and twists; outbound is the
current pose.  Message fields are raw numbers: an orientation need not have unit
length and nothing need be finite, so the receiver checks.
-/

namespace MotionControl

/-- An absolute target pose tagged with its frame. -/
structure PoseStamped (α : Type) where
  frame : String
  position : Vec3 α
  /-- Orientation, not necessarily of unit length. -/
  orientation : Quat α
  /-- Nanoseconds since the epoch. -/
  stampNanos : UInt64
  deriving DecidableEq

/-- A one-shot displacement: an increment of the position, and increments of
roll, pitch and yaw. -/
structure Twist (α : Type) where
  linear : Vec3 α
  angular : Vec3 α
  deriving DecidableEq

/-- The end-effector pose as observers see it. -/
structure CurrentPose (α : Type) where
  /-- Nanoseconds since the epoch. -/
  stampNanos : UInt64
  position : Vec3 α
  orientation : Quat α
  deriving DecidableEq

variable {α : Type}

/-- The message that carries a pose as it is stored. -/
def PoseStamped.ofPose (frame : String) (pose : Pose α) (stampNanos : UInt64) :
    PoseStamped α :=
  ⟨frame, pose.position, pose.rotation, stampNanos⟩

/-- The message that carries a pose as it is stored. -/
def CurrentPose.ofPose (pose : Pose α) (stampNanos : UInt64) : CurrentPose α :=
  ⟨stampNanos, pose.position, pose.rotation⟩

namespace Twist

variable [Scalar α]

/-- No motion. -/
def zero : Twist α :=
  ⟨0, 0⟩

def isValid (twist : Twist α) : Bool :=
  twist.linear.isFinite && twist.angular.isFinite

end Twist
end MotionControl
