import MotionControl.Decimal.Shortest

/-!
# Written forms of doubles

Every form shows the shortest decimal that reads back and differs only in
layout: where a number is written positionally, whether a whole number keeps a
fractional digit, and the words for the values that are not finite.
-/

namespace MotionControl
namespace Decimal

/-- Positional notation: zeros fill up to the point on either side, and no point
is written after a whole number. -/
def positional (d : Decimal) : List Char :=
  let ds := digits d.coefficient
  if 0 ≤ d.exponent then ds ++ List.replicate d.exponent.toNat '0'
  else
    let places := (-d.exponent).toNat
    if places < ds.length then
      ds.take (ds.length - places) ++ '.' :: ds.drop (ds.length - places)
    else '0' :: '.' :: List.replicate (places - ds.length) '0' ++ ds

/-- Scientific notation: one digit, the other digits after a point if there are
any, and the exponent of the first digit after an `e`. -/
def scientific (d : Decimal) : List Char :=
  let ds := digits d.coefficient
  let exponent : Int := d.exponent + ds.length - 1
  let written := (if exponent < 0 then ['-'] else []) ++ digits exponent.natAbs
  match ds with
  | [] => []
  | [one] => one :: 'e' :: written
  | first :: rest => first :: '.' :: rest ++ 'e' :: written

def leadingExponent (d : Decimal) : Int :=
  d.exponent + digitCount d.coefficient - 1

/-- The decisions that set one written form of doubles apart from another. -/
structure Style where
  nan : String
  /-- Text for positive infinity; a sign is put before it for the other one. -/
  infinity : String
  /-- A zero with a negative sign shows it. -/
  signedZero : Bool
  /-- Whole numbers in positional notation end in `.0`. -/
  point : Bool
  /-- Leading exponents that are written positionally: at least the first bound
  and below the second.  Without bounds every number is. -/
  positionalRange : Option (Int × Int)

namespace Style

def render (style : Style) (x : Float) : List Char :=
  let sign (negative : Bool) : List Char := if negative then ['-'] else []
  match Binary64.ofFloat x with
  | .nan => style.nan.toList
  | .infinite negative => sign negative ++ style.infinity.toList
  | .finite negative mantissa exponent =>
    let d := shortest mantissa exponent
    let isPositional := match style.positionalRange with
      | none => true
      | some (low, high) =>
        d.coefficient == 0 || (low ≤ d.leadingExponent && d.leadingExponent < high)
    let body :=
      if isPositional then
        d.positional ++ (if style.point && 0 ≤ d.exponent then ['.', '0'] else [])
      else d.scientific
    sign (negative && (style.signedZero || d.coefficient != 0)) ++ body

/-- Messages: positional without an exponent, however long, and no point after
a whole number. -/
def message : Style where
  nan := "NaN"
  infinity := "inf"
  signedZero := true
  point := false
  positionalRange := none

/-- Log fields: positional from `1e-4` up to below `1e16`, where a whole number
keeps one fractional digit, and scientific outside. -/
def logField : Style where
  nan := "NaN"
  infinity := "inf"
  signedZero := true
  point := true
  positionalRange := some (-4, 16)

/-- TOML documents: positional, and a whole number keeps one fractional digit so
that it stays a float. -/
def toml : Style where
  nan := "nan"
  infinity := "inf"
  signedZero := true
  point := true
  positionalRange := none

end Style

/-- Scientific notation throughout, zero of either sign without a sign. -/
def Style.exponential : Style where
  nan := "NaN"
  infinity := "inf"
  signedZero := false
  point := false
  positionalRange := some (0, 0)

def messageText (x : Float) : String :=
  String.ofList (Style.message.render x)

def logText (x : Float) : String :=
  String.ofList (Style.logField.render x)

end Decimal
end MotionControl
