import MotionControl.Binary64

/-!
# Decimal numbers and the doubles they stand for

A decimal is a whole coefficient times a power of ten.  Reading one into a
double rounds its exact value once, to the nearest double, a half going to the
even mantissa.  Because the exact value alone decides, a decimal may be brought
to its normal form, without trailing zeros, before it is read.
-/

namespace MotionControl

/-- The number `coefficient · 10 ^ exponent`. -/
structure Decimal where
  coefficient : Nat
  exponent : Int
  deriving DecidableEq

namespace Decimal

/-- Decimal digits of a whole number, the most significant first; zero has the
single digit `0`. -/
def digits (n : Nat) : List Char :=
  Nat.toDigits 10 n

/-- How many decimal digits a whole number has; zero counts none. -/
def digitCount (n : Nat) : Nat :=
  if n = 0 then 0 else (digits n).length

/-- Take trailing zeros off a coefficient.  `fuel` bounds the number of zeros. -/
def stripZeros : Nat → Nat → Int → Decimal
  | 0, c, e => ⟨c, e⟩
  | fuel + 1, c, e => if c % 10 = 0 then stripZeros fuel (c / 10) (e + 1) else ⟨c, e⟩

def normalize (d : Decimal) : Decimal :=
  if d.coefficient = 0 then ⟨0, 0⟩
  else stripZeros (digitCount d.coefficient) d.coefficient d.exponent

/-- The number as a quotient of whole numbers. -/
def fraction (d : Decimal) : Fraction :=
  (Fraction.ofNat d.coefficient).scale 10 d.exponent

/-- Every positive decimal from `10 ^ magnitudeBound` on is infinite as a double,
and every one below its reciprocal is zero. -/
def magnitudeBound : Int :=
  400

/-- Bits of the double nearest to a decimal without trailing zeros.  Beyond the
range of doubles the answer is known without computing the power of ten. -/
def nearestBits (d : Decimal) : Nat :=
  let magnitude : Int := d.exponent + digitCount d.coefficient
  if d.coefficient = 0 then 0
  else if magnitudeBound < magnitude then Binary64.infinityBits
  else if magnitude < -magnitudeBound then 0
  else Binary64.nearestBits d.fraction

/-- The double nearest to a decimal, with the given sign. -/
def toFloat (d : Decimal) (negative : Bool) : Float :=
  Binary64.toFloat negative d.normalize.nearestBits

end Decimal
end MotionControl
