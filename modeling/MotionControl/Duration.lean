import MotionControl.Scalar

/-!
# Durations

A span of time is a whole number of nanoseconds.  Seconds given as a number
become the nearest such span, provided that they are not negative and that the
whole seconds of the result fit into 64 bits.
-/

namespace MotionControl

open Scalar

/-- A span of time in whole nanoseconds. -/
structure Duration where
  nanoseconds : Nat
  deriving DecidableEq

/-- Why a number of seconds is not a duration. -/
inductive DurationError where
  | negative
  /-- The number is not a number, infinite, or has too many whole seconds. -/
  | outOfRange
  deriving DecidableEq

namespace DurationError

def message : DurationError → String
  | .negative => "cannot convert float seconds to Duration: value is negative"
  | .outOfRange => "cannot convert float seconds to Duration: value is either too big or NaN"

end DurationError

namespace Duration

instance : Zero Duration where
  zero := ⟨0⟩

instance : LT Duration where
  lt a b := a.nanoseconds < b.nanoseconds

instance : DecidableRel (fun a b : Duration => a < b) :=
  fun a b => inferInstanceAs (Decidable (a.nanoseconds < b.nanoseconds))

instance : Max Duration where
  max a b := ⟨max a.nanoseconds b.nanoseconds⟩

def perSecond : Nat :=
  1000000000

/-- The least number of nanoseconds whose whole seconds do not fit into 64
bits. -/
def limit : Nat :=
  UInt64.size * perSecond

def ofWholeSeconds (n : Nat) : Duration :=
  ⟨n * perSecond⟩

variable {α : Type} [Scalar α]

/-- The span nearest to a number of seconds, a half nanosecond going to the even
neighbour. -/
def ofSeconds (seconds : α) : Except DurationError Duration :=
  if seconds < 0 then .error .negative
  else
    match nearestMultiple seconds perSecond with
    | none => .error .outOfRange
    | some n => if n.toNat < limit then .ok ⟨n.toNat⟩ else .error .outOfRange

/-- Length in seconds: the whole seconds plus the remaining nanoseconds. -/
def seconds (d : Duration) : α :=
  ((d.nanoseconds / perSecond : Nat) : α) + ratio (d.nanoseconds % perSecond) perSecond

end Duration
end MotionControl
