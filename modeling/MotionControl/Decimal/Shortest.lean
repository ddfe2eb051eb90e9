import MotionControl.Decimal

/-!
# The shortest decimal that reads back

The text of a double shows the fewest decimal digits from which the same double
is read again.  For one digit, then two, and so on, the two neighbours of the
value on that decimal grid are tried.  The first grid with a neighbour that
reads back wins; of two such neighbours the nearer, and of two equally near the
larger.  Seventeen digits always suffice; the exact expansion stands behind them
so that the search is total.
-/

namespace MotionControl
namespace Decimal

/-- The exponent `k` with `10 ^ k ≤ q < 10 ^ (k + 1)`, for a positive quotient. -/
def order (q : Fraction) : Int :=
  if q.den ≤ q.num then (digitCount q.floor : Int) - 1
  else -(digitCount ((q.den - 1) / q.num) : Int)

/-- On the grid of multiples of `10 ^ exponent`, the neighbour of `q` that reads
back as the double with the given bits; the nearer one, if both do. -/
def onGrid? (bits : Nat) (q : Fraction) (exponent : Int) : Option Decimal :=
  let steps := q.scale 10 (-exponent)
  let below := normalize ⟨steps.floor, exponent⟩
  let above := normalize ⟨steps.floor + 1, exponent⟩
  let belowReads := below.nearestBits == bits
  let aboveReads := above.nearestBits == bits
  if belowReads && (!aboveReads || steps.inLowerHalf) then some below
  else if aboveReads then some above
  else none

/-- The exact decimal expansion of `mantissa · 2 ^ exponent`. -/
def exact (mantissa : Nat) (exponent : Int) : Decimal :=
  if 0 ≤ exponent then normalize ⟨mantissa * Nat.pow 2 exponent.toNat, 0⟩
  else normalize ⟨mantissa * Nat.pow 5 (-exponent).toNat, exponent⟩

/-- Most digits that are tried before the exact expansion. -/
def maxDigits : Nat :=
  17

/-- The shortest decimal that reads back as the double with value
`mantissa · 2 ^ exponent`. -/
def shortest (mantissa : Nat) (exponent : Int) : Decimal :=
  if mantissa = 0 then ⟨0, 0⟩
  else
    let q := Binary64.magnitude mantissa exponent
    let bits := Binary64.nearestBits q
    let found := (List.range maxDigits).findSome? fun (n : Nat) =>
      onGrid? bits q (order q - n)
    found.getD (exact mantissa exponent)

end Decimal
end MotionControl
