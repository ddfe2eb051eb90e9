import MotionControl.Plant

/-!
# A plant that keeps a record of its calls

Any plant can be wrapped so that every call it receives is remembered, with what
it was given and whether it failed.  The wrapper changes nothing else, so what a
controller does to the record is what it does to the plant.
-/

namespace MotionControl

inductive PlantCall (α : Type) where
  /-- A step from the given pose under the given error. -/
  | synthesize (pose : Pose α) (error : SpatialVector α) (period : Duration)
      (result : Except (Fault α) Unit)
  | write (result : Except (Fault α) Unit)
  | sync (result : Except (Fault α) Unit)

namespace PlantCall

variable {α : Type}

def result : PlantCall α → Except (Fault α) Unit
  | .synthesize _ _ _ result => result
  | .write result => result
  | .sync result => result

def isSynthesize : PlantCall α → Bool
  | .synthesize .. => true
  | .write _ | .sync _ => false

def isWrite : PlantCall α → Bool
  | .write _ => true
  | .synthesize .. | .sync _ => false

end PlantCall

/-- A plant and the calls that it has received, the oldest first. -/
structure Recorded (α σ : Type) where
  plant : σ
  calls : List (PlantCall α) := []

namespace Recorded

variable {α σ : Type}

/-- The record after an attempt, extended by the call it stands for. -/
def afterCall (recorded : Recorded α σ) (attempt : Attempt α σ)
    (call : Except (Fault α) Unit → PlantCall α) : Attempt α (Recorded α σ) :=
  (⟨attempt.1, recorded.calls ++ [call attempt.2]⟩, attempt.2)

instance [Plant α σ] : Plant α (Recorded α σ) where
  pose recorded := Plant.pose recorded.plant
  synthesize recorded error period :=
    recorded.afterCall (Plant.synthesize recorded.plant error period)
      (.synthesize (Plant.pose recorded.plant) error period)
  write recorded := recorded.afterCall (Plant.write recorded.plant) .write
  sync recorded := recorded.afterCall (Plant.sync recorded.plant) .sync

end Recorded
end MotionControl
