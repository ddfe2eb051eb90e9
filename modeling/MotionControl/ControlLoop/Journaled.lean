import MotionControl.ControlLoop
import MotionControl.Plant.Recorded

/-!
# A workcell that keeps a journal

Any workcell can be wrapped so that the actions of the loop are written down in
the order in which they are made: what it records, publishes and looks up, and
what it asks of the plant.  The wrapper changes nothing else, and the loop is the
same, so the journal of an update is the order of its actions.
-/

namespace MotionControl

/-- One action of the control loop. -/
inductive JournalEntry (α : Type) where
  /-- The pose was recorded as the one published last. -/
  | recorded (pose : Pose α)
  | published (pose : Pose α)
  /-- The target was looked up, and found to be this one. -/
  | aimed (target : Pose α)
  | called (call : PlantCall α)

/-- A workcell and what the loop has done to it, the oldest action first. -/
structure Journaled (α ω : Type) where
  cell : ω
  entries : List (JournalEntry α) := []

namespace Journaled

variable {α ω : Type}

/-- The journal after an attempt, extended by the plant call that it stands for. -/
def afterCall (journaled : Journaled α ω) (attempt : Attempt α ω)
    (call : Except (Fault α) Unit → PlantCall α) : Attempt α (Journaled α ω) :=
  (⟨attempt.1, journaled.entries ++ [.called (call attempt.2)]⟩, attempt.2)

instance [Workcell α ω] : Workcell α (Journaled α ω) where
  paused journaled := Workcell.paused journaled.cell
  settings journaled := Workcell.settings journaled.cell
  pose journaled := Workcell.pose journaled.cell
  readTarget journaled :=
    let (cell, target) := Workcell.readTarget journaled.cell
    (⟨cell, journaled.entries ++ [.aimed target]⟩, target)
  record journaled pose :=
    ⟨Workcell.record journaled.cell pose, journaled.entries ++ [.recorded pose]⟩
  publish journaled pose :=
    ⟨Workcell.publish journaled.cell pose, journaled.entries ++ [.published pose]⟩
  synthesize journaled error period :=
    journaled.afterCall (Workcell.synthesize journaled.cell error period)
      (.synthesize (Workcell.pose journaled.cell) error period)
  write journaled := journaled.afterCall (Workcell.write journaled.cell) .write
  countSubstep journaled := { journaled with cell := Workcell.countSubstep journaled.cell }
  countTick journaled failed period elapsed :=
    { journaled with cell := Workcell.countTick journaled.cell failed period elapsed }

end Journaled
end MotionControl
