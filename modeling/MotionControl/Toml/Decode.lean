import MotionControl.Decimal
import MotionControl.Geometry.Quat
import MotionControl.Interface
import MotionControl.Toml.Value

/-!
# Values of a document as domain values

Each function takes what a value stands for, or nothing if it is of another
kind.  A number may be written as an integer where a float is asked for, but not
the other way round.
-/

namespace MotionControl
namespace Toml
namespace Value

def string? : Value → Option String
  | .string text => some text
  | _ => none

/-- The number of a float or an integer, rounded to the nearest double. -/
def number? : Value → Option Float
  | .float x => some x
  | .integer n => some (Decimal.toFloat ⟨n.natAbs, 0⟩ (decide (n < 0)))
  | _ => none

/-- A whole number from zero up to below `bound`. -/
def natural? (bound : Nat) : Value → Option Nat
  | .integer n => if 0 ≤ n && n < bound then some n.toNat else none
  | _ => none

/-- The first `count` numbers of an array; there may be more. -/
def numbers? (count : Nat) : Value → Option (List Float)
  | .array items =>
    if items.length < count then none else (items.take count).mapM number?
  | _ => none

def vector? (value : Value) : Option (Vec3 Float) :=
  match value.numbers? 3 with
  | some [x, y, z] => some ⟨x, y, z⟩
  | _ => none

/-- Four numbers of an array, the scalar part last. -/
def quaternion? (value : Value) : Option (Quat Float) :=
  match value.numbers? 4 with
  | some [x, y, z, w] => some ⟨x, y, z, w⟩
  | _ => none

/-- Holds of a table or an array with nothing in it. -/
def isEmptyCollection : Value → Bool
  | .table _ entries => entries.isEmpty
  | .array items => items.isEmpty
  | _ => false

/-- The name of an interface: a string, or the only name in a table whose value
is empty. -/
def interface? : Value → Option Interface
  | .string name => Interface.ofName? name
  | .table _ [(name, payload)] =>
    if payload.isEmptyCollection then Interface.ofName? name else none
  | _ => none

end Value
end Toml
end MotionControl
