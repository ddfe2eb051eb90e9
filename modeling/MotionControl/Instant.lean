import MotionControl.Duration

/-!
# Instants

A reading of the monotonic clock is a number of nanoseconds since the clock's own
zero.  Its whole seconds fit into 63 bits, one less than those of a duration, so
not every duration leads from one instant to another.
-/

namespace MotionControl

/-- The least number of nanoseconds that the clock cannot show. -/
def Instant.limit : Nat :=
  UInt64.size / 2 * Duration.perSecond

/-- A reading of the monotonic clock. -/
structure Instant where
  nanoseconds : Nat
  below : nanoseconds < Instant.limit
  deriving DecidableEq

namespace Instant

instance : LT Instant where
  lt a b := a.nanoseconds < b.nanoseconds

instance : DecidableRel (fun a b : Instant => a < b) :=
  fun a b => inferInstanceAs (Decidable (a.nanoseconds < b.nanoseconds))

def zero : Instant :=
  ⟨0, by decide⟩

/-- The instant at so many nanoseconds, or the last one that the clock can show. -/
def atMost (nanoseconds : Nat) : Instant :=
  ⟨min nanoseconds (limit - 1), Nat.lt_of_le_of_lt (Nat.min_le_right ..) (by decide)⟩

/-- The time since an earlier instant; nothing since a later one. -/
def since (now earlier : Instant) : Duration :=
  ⟨now.nanoseconds - earlier.nanoseconds⟩

/-- The instant after a span of time, if the clock can show it. -/
def after? (now : Instant) (span : Duration) : Option Instant :=
  if below : now.nanoseconds + span.nanoseconds < limit then some ⟨_, below⟩ else none

end Instant
end MotionControl
