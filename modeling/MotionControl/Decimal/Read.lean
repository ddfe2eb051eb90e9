import MotionControl.Decimal

/-!
# Doubles from free text

A number as a person types it: an optional sign, digits with at most one point
among them, an optional exponent; or a word for infinity or "not a number" in
any case.
-/

namespace MotionControl
namespace Decimal

/-- The number that decimal digits stand for. -/
def ofDigits (digits : List Char) : Nat :=
  digits.foldl (fun n c => n * 10 + (c.toNat - '0'.toNat)) 0

/-- A power of ten after `e` or `E`; no text means zero. -/
def readExponent? : List Char → Option Int
  | [] => some 0
  | c :: rest =>
    if c == 'e' || c == 'E' then
      let (negative, digits) := match rest with
        | '+' :: ds => (false, ds)
        | '-' :: ds => (true, ds)
        | ds => (false, ds)
      if digits.isEmpty || !digits.all Char.isDigit then none
      else
        let n := Int.ofNat (ofDigits digits)
        some (if negative then -n else n)
    else none

/-- An unsigned decimal with at least one digit before or after its point. -/
def readUnsigned? (text : List Char) : Option Decimal :=
  let whole := text.takeWhile Char.isDigit
  let rest := text.dropWhile Char.isDigit
  let (places, rest) := match rest with
    | '.' :: rest => (rest.takeWhile Char.isDigit, rest.dropWhile Char.isDigit)
    | rest => ([], rest)
  if whole.isEmpty && places.isEmpty then none
  else (readExponent? rest).map fun exponent =>
    ⟨ofDigits (whole ++ places), exponent - places.length⟩

/-- The double nearest to the number in a text. -/
def readFloat? (text : String) : Option Float :=
  let (negative, body) := match text.toList with
    | '+' :: rest => (false, rest)
    | '-' :: rest => (true, rest)
    | rest => (false, rest)
  let word := String.ofList (body.map Char.toLower)
  if word = "inf" ∨ word = "infinity" then some (Binary64.infinity negative)
  else if word = "nan" then some Binary64.notANumber
  else (readUnsigned? body).map fun d => d.toFloat negative

end Decimal
end MotionControl
