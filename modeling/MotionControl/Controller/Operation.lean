import MotionControl.Controller

/-!
# Runs of a controller

Everything that can be done to a controller from outside is one operation of a
single type, so that a history is a list and an invariant is a statement about
one step.  A report keeps what the operation returned and what it logged.
-/

namespace MotionControl

/-- One thing done to a controller. -/
inductive Operation (α : Type) where
  /-- Synchronise the plant and start at its pose. -/
  | start
  | stop
  | update (period elapsed : Duration)
  /-- Publish the pose and measure the error, without moving. -/
  | measure
  | pause
  | resume
  | reconfigure (iterations : UInt32) (errorScale : α)
  | event (event : Event α) (now : Nat)

inductive Answer (α : Type) where
  | done
  | fault (fault : Fault α)
  | refused (error : ConfigError α)
  | measured (error : SpatialVector α)
  /-- What became of an event, if it has an outcome. -/
  | handled (outcome : Option Outcome)

structure Report (α : Type) where
  answer : Answer α := .done
  log : List (LogEntry α) := []

namespace Controller

variable {α σ π : Type} [Scalar α] [Plant α σ] [Sink α π]

/-- The answer to an operation of the plant. -/
def plantAnswer : Except (Fault α) Unit → Answer α
  | .ok () => .done
  | .error fault => .fault fault

def perform (c : Controller α σ π) : Operation α → Controller α σ π × Report α
  | .start =>
    let (c, result, log) := c.start
    (c, ⟨plantAnswer result, log⟩)
  | .stop => (c, ⟨.done, c.stop⟩)
  | .update period elapsed =>
    let (c, result) := c.update period elapsed
    (c, ⟨plantAnswer result, []⟩)
  | .measure =>
    let (c, error) := c.measure
    (c, ⟨.measured error, []⟩)
  | .pause =>
    let (c, log) := c.pause
    (c, ⟨.done, log⟩)
  | .resume =>
    let (c, log) := c.resume
    (c, ⟨.done, log⟩)
  | .reconfigure iterations errorScale =>
    let (c, result, log) := c.reconfigure iterations errorScale
    match result with
    | .ok () => (c, ⟨.done, log⟩)
    | .error error => (c, ⟨.refused error, log⟩)
  | .event event now =>
    let (c, outcome, log) := c.handle event now
    (c, ⟨.handled outcome, log⟩)

/-- Carry out a list of operations, with their reports in order. -/
def run (c : Controller α σ π) : List (Operation α) → Controller α σ π × List (Report α)
  | [] => (c, [])
  | operation :: rest =>
    let (next, report) := c.perform operation
    let (last, reports) := run next rest
    (last, report :: reports)

theorem run_append (c : Controller α σ π) (first second : List (Operation α)) :
    c.run (first ++ second) =
      ((c.run first).1.run second |>.1,
        (c.run first).2 ++ ((c.run first).1.run second).2) := by
  induction first generalizing c with
  | nil => simp [run]
  | cons operation rest ih => simp [run, ih]

end Controller
end MotionControl
