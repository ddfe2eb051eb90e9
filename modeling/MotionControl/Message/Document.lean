import MotionControl.Message
import MotionControl.MotionError
import MotionControl.Toml.Decode
import MotionControl.Toml.Document
import MotionControl.Toml.Writer

/-!
# Messages as TOML documents

A message document gives every field of its message; further names are ignored.
Writing puts the fields in their order, arrays on one line.
-/

namespace MotionControl

open Toml (Entries Value)

/-- The value under a name, as `decode` takes it; a missing name has none. -/
def Toml.Entries.required {β : Type} (entries : Entries) (name : String)
    (decode : Value → Option β) : Option β :=
  (entries.find? name).bind decode

/-- A count of nanoseconds, from zero up. -/
def Toml.Value.stamp? (value : Value) : Option UInt64 :=
  (value.natural? UInt64.size).map UInt64.ofNat

namespace PoseStamped

/-- The message of a table of entries. -/
def ofEntries? (entries : Entries) : Option (PoseStamped Float) := do
  return {
    frame := ← entries.required "frame_id" Value.string?
    position := ← entries.required "position" Value.vector?
    orientation := ← entries.required "orientation" Value.quaternion?
    stampNanos := ← entries.required "stamp_nanos" Value.stamp? }

/-- The document of the message. -/
def toToml (message : PoseStamped Float) : String :=
  Toml.writeEntries [
    ("frame_id", Toml.writeString message.frame),
    ("position", Toml.writeFloats message.position.toList),
    ("orientation", Toml.writeFloats message.orientation.toList),
    ("stamp_nanos", Toml.writeNat message.stampNanos.toNat)]

end PoseStamped

namespace CurrentPose

/-- The message of a table of entries. -/
def ofEntries? (entries : Entries) : Option (CurrentPose Float) := do
  return {
    stampNanos := ← entries.required "stamp_nanos" Value.stamp?
    position := ← entries.required "position" Value.vector?
    orientation := ← entries.required "orientation" Value.quaternion? }

/-- The document of the message. -/
def toToml (message : CurrentPose Float) : String :=
  Toml.writeEntries [
    ("stamp_nanos", Toml.writeNat message.stampNanos.toNat),
    ("position", Toml.writeFloats message.position.toList),
    ("orientation", Toml.writeFloats message.orientation.toList)]

end CurrentPose

namespace Twist

/-- The message of a table of entries. -/
def ofEntries? (entries : Entries) : Option (Twist Float) := do
  return {
    linear := ← entries.required "linear" Value.vector?
    angular := ← entries.required "angular" Value.vector? }

/-- The document of the message. -/
def toToml (twist : Twist Float) : String :=
  Toml.writeEntries [
    ("linear", Toml.writeFloats twist.linear.toList),
    ("angular", Toml.writeFloats twist.angular.toList)]

end Twist

namespace ErrorLimits

/-- The limits of a table of entries. -/
def ofEntries? (entries : Entries) : Option (ErrorLimits Float) := do
  return {
    maxAngle := ← entries.required "max_angle" Value.number?
    maxDistance := ← entries.required "max_distance" Value.number? }

/-- The document of the limits. -/
def toToml (limits : ErrorLimits Float) : String :=
  Toml.writeEntries [
    ("max_angle", Toml.writeFloat limits.maxAngle),
    ("max_distance", Toml.writeFloat limits.maxDistance)]

end ErrorLimits
end MotionControl
