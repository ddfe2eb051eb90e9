import MotionControl.Decimal.Notation

/-!
# Doubles rounded to a given number of digits

The exact value of the double is rounded once, a half going to the even last
digit.
-/

namespace MotionControl
namespace Decimal

/-- A whole number of units of `10 ^ -places`, written with that many digits
after the point. -/
def withPlaces (places units : Nat) : List Char :=
  let ds := digits units
  let padded := List.replicate (places + 1 - ds.length) '0' ++ ds
  if places = 0 then padded
  else padded.take (padded.length - places) ++ '.' :: padded.drop (padded.length - places)

/-- Exactly `places` digits after the point; a negative value keeps its sign
even if all digits are zero. -/
def fixed (places : Nat) (x : Float) : List Char :=
  let sign (negative : Bool) : List Char := if negative then ['-'] else []
  match Binary64.ofFloat x with
  | .nan => Style.message.nan.toList
  | .infinite negative => sign negative ++ Style.message.infinity.toList
  | .finite negative mantissa exponent =>
    sign negative ++
      withPlaces places (Binary64.scaleNearest mantissa exponent (Nat.pow 10 places))

/-- The decimal with `count` significant digits nearest to a positive quotient;
`count` is at least one. -/
def significant (count : Nat) (q : Fraction) : Decimal :=
  let exponent : Int := order q - (count : Int) + 1
  let coefficient := (q.scale 10 (-exponent)).nearest
  if digitCount coefficient ≤ count then ⟨coefficient, exponent⟩
  else ⟨coefficient / 10, exponent + 1⟩

end Decimal
end MotionControl
