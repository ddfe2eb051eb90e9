import MotionControl.Duration

/-!
# Throttled warnings

A throttle lets one warning through and then swallows the following ones for the
length of its window.  The next one let through tells how many were swallowed.
Time is an argument, so the rule can be stated without a clock.
-/

namespace MotionControl

/-- Memory of a rate limiter for repeated warnings. -/
structure Throttle where
  /-- Least distance between two warnings that are let through. -/
  window : Duration
  /-- When the last warning was let through, in nanoseconds of a running clock. -/
  last : Option Nat := none
  /-- Warnings swallowed since then. -/
  suppressed : Nat := 0
  deriving DecidableEq

namespace Throttle

/-- Ask to warn at time `now`.  The answer is the number of warnings swallowed
since the last one let through, or nothing if this one is swallowed too. -/
def check (throttle : Throttle) (now : Nat) : Throttle × Option Nat :=
  let waiting : Bool := match throttle.last with
    | some previous => decide (now - previous < throttle.window.nanoseconds)
    | none => false
  if waiting then ({ throttle with suppressed := throttle.suppressed + 1 }, none)
  else ({ throttle with last := some now, suppressed := 0 }, some throttle.suppressed)

end Throttle
end MotionControl
