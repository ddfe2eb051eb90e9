/-!
# Hardware interfaces

The kind of joint command the hardware takes.  Position and effort commands are
the outcome of several simulated sub-steps per tick; velocity commands are only
meaningful for a single one.
-/

namespace MotionControl

/-- The hardware interface the joint commands are written to. -/
inductive Interface where
  | position
  | effort
  | velocity
  deriving DecidableEq

namespace Interface

/-- Name in configuration documents and log lines. -/
def name : Interface → String
  | .position => "position"
  | .effort => "effort"
  | .velocity => "velocity"

def ofName? (name : String) : Option Interface :=
  [position, effort, velocity].find? fun interface => interface.name == name

/-- Sub-steps per tick: the velocity interface always runs a single one. -/
def substeps (interface : Interface) (configured : UInt32) : UInt32 :=
  match interface with
  | .velocity => 1
  | .position | .effort => configured

theorem ofName?_name (interface : Interface) : ofName? interface.name = some interface := by
  cases interface <;> decide

end Interface
end MotionControl
