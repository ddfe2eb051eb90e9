import MotionControl.Fraction

/-!
# The exact value of a double

A finite double is a whole mantissa times a power of two.  All exact text and
all exact rounding start from that pair; the other way round, a quotient of
natural numbers is rounded once to the nearest double.
-/

namespace MotionControl

/-- What a double stands for. -/
inductive Binary64 where
  | nan
  /-- An infinity, negative if the flag is set. -/
  | infinite (negative : Bool)
  /-- The value `± mantissa · 2 ^ exponent`; a zero keeps its sign. -/
  | finite (negative : Bool) (mantissa : Nat) (exponent : Int)
  deriving DecidableEq

namespace Binary64

def signWeight : Nat :=
  Nat.pow 2 63

/-- Number of fractions that share an exponent; also the weight of the exponent's
lowest bit. -/
def fractionCount : Nat :=
  Nat.pow 2 52

/-- The exponent field of infinities and of values that are not numbers. -/
def specialExponent : Nat :=
  2047

/-- Exponent of the smallest positive double. -/
def minExponent : Int :=
  -1074

/-- Largest exponent of a finite double with a whole mantissa below `2 ^ 53`. -/
def maxExponent : Int :=
  971

/-- Read the three fields of the binary format. -/
def ofBits (bits : Nat) : Binary64 :=
  let negative : Bool := decide (bits / signWeight % 2 = 1)
  let field : Nat := bits / fractionCount % (specialExponent + 1)
  let fraction : Nat := bits % fractionCount
  if field = specialExponent then
    if fraction = 0 then .infinite negative else .nan
  else if field = 0 then .finite negative fraction minExponent
  else .finite negative (fractionCount + fraction) (minExponent + field - 1)

def ofFloat (x : Float) : Binary64 :=
  ofBits x.toBits.toNat

def infinityBits : Nat :=
  specialExponent * fractionCount

/-- The double with the given sign and the given bits of its magnitude. -/
def toFloat (negative : Bool) (magnitude : Nat) : Float :=
  Float.ofBits (UInt64.ofNat ((if negative then signWeight else 0) + magnitude))

def infinity (negative : Bool) : Float :=
  toFloat negative infinityBits

def notANumber : Float :=
  toFloat false (infinityBits + fractionCount / 2)

/-- The exponent `e` with `2 ^ e ≤ q < 2 ^ (e + 1)`, for a positive quotient. -/
def order (q : Fraction) : Int :=
  let estimate : Int := (q.num.log2 : Int) - q.den.log2
  if 1 ≤ (q.scale 2 (-estimate)).floor then estimate else estimate - 1

/-- Bits of the double nearest to a positive quotient, a half going to the even
mantissa.  A mantissa that rounds up to the next power of two carries into the
exponent by itself, and past the largest double the carry gives infinity. -/
def nearestBits (q : Fraction) : Nat :=
  let exponent : Int := max (order q - 52) minExponent
  if maxExponent < exponent then infinityBits
  else (exponent - minExponent).toNat * fractionCount + (q.scale 2 (-exponent)).nearest

/-- The magnitude `mantissa · 2 ^ exponent`. -/
def magnitude (mantissa : Nat) (exponent : Int) : Fraction :=
  (Fraction.ofNat mantissa).scale 2 exponent

/-- The whole number nearest to a magnitude times `factor`, a half going to the
even neighbour. -/
def scaleNearest (mantissa : Nat) (exponent : Int) (factor : Nat) : Nat :=
  (magnitude (mantissa * factor) exponent).nearest

/-- The whole number nearest to a value times `factor`; nothing for a value
that is not finite. -/
def nearestMultiple (value : Binary64) (factor : Nat) : Option Int :=
  match value with
  | .nan | .infinite _ => none
  | .finite negative mantissa exponent =>
    let size : Int := scaleNearest mantissa exponent factor
    some (if negative then -size else size)

end Binary64
end MotionControl
