import MotionControl.Decimal.Notation
import MotionControl.Interface
import MotionControl.Geometry.Pose

/-!
# Log entries

What the controller and its target reference report, as data.  Operations return
the entries they emit, in order; wording and fields are added on the way out.
-/

namespace MotionControl

inductive LogLevel where
  | debug
  | info
  | warn
  deriving DecidableEq

namespace LogLevel

def name : LogLevel → String
  | .debug => "DEBUG"
  | .info => "INFO"
  | .warn => "WARN"

end LogLevel

inductive LogEntry (α : Type) where
  | created (base tip : String) (interface : Interface) (substeps : UInt32)
  | started (position : Vec3 α) (interface : Interface)
  | stopped (ticks failed overruns : Nat)
  | paused
  | resumed
  | reconfigured (iterations : UInt32) (errorScale : α) (substeps : UInt32)
  | wrongFrame (expected got : String) (suppressed : Nat)
  | unusablePose (suppressed : Nat)
  | unusableTwist (suppressed : Nat)
  deriving DecidableEq

namespace LogEntry

variable {α : Type}

def level : LogEntry α → LogLevel
  | .created .. => .debug
  | .wrongFrame .. | .unusablePose _ | .unusableTwist _ => .warn
  | _ => .info

/-- The part of the program that reports an entry. -/
def target : LogEntry α → String
  | .wrongFrame .. | .unusablePose _ | .unusableTwist _ => "cartesian_core::reference"
  | _ => "cartesian_core::controller"

/-- Wording of an entry, without its fields. -/
def message : LogEntry α → String
  | .created .. => "Cartesian motion controller created"
  | .started .. => "Cartesian motion controller started"
  | .stopped .. => "Cartesian motion controller stopped"
  | .paused => "Cartesian motion controller paused"
  | .resumed => "Cartesian motion controller resumed"
  | .reconfigured .. => "Cartesian motion controller reconfigured"
  | .wrongFrame .. => "Got target pose in wrong reference frame"
  | .unusablePose _ => "Discarding target pose with non-finite or degenerate values"
  | .unusableTwist _ => "Discarding twist with non-finite or degenerate values"

/-- For a throttled warning, how many were swallowed before it. -/
def suppressed? : LogEntry α → Option Nat
  | .wrongFrame _ _ n | .unusablePose n | .unusableTwist n => some n
  | _ => none

def quoted (name : String) : String :=
  "\"" ++ name ++ "\""

def positionText (v : Vec3 Float) : String :=
  "[" ++ ", ".intercalate ([v.x, v.y, v.z].map Decimal.logText) ++ "]"

def fields : LogEntry Float → List (String × String)
  | .created base tip interface substeps =>
    [("base", base), ("tip", tip), ("interface", quoted interface.name),
      ("substeps", toString substeps.toNat)]
  | .started position interface =>
    [("position", positionText position), ("interface", quoted interface.name)]
  | .stopped ticks failed overruns =>
    [("ticks", toString ticks), ("failed", toString failed), ("overruns", toString overruns)]
  | .paused | .resumed => []
  | .reconfigured iterations errorScale substeps =>
    [("iterations", toString iterations.toNat), ("error_scale", Decimal.logText errorScale),
      ("substeps", toString substeps.toNat)]
  | .wrongFrame expected got suppressed =>
    [("expected", expected), ("got", got), ("suppressed", toString suppressed)]
  | .unusablePose suppressed | .unusableTwist suppressed =>
    [("suppressed", toString suppressed)]

end LogEntry
end MotionControl
