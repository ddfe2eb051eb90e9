import MotionControl.Decimal
import MotionControl.Toml.Text

/-!
# Numbers of TOML

An integer is decimal with an optional sign, or has one of three prefixes for
another base and no sign; it must fit into 64 bits.  A float has a fraction, an
exponent or both.  Single underscores may stand between digits.  Each reader
takes a whole token.
-/

namespace MotionControl
namespace Toml

/-- The digits of a run with single underscores between them; nothing if the run
is empty or an underscore stands elsewhere. -/
def digitRun? (isDigit : Char → Bool) : List Char → Option (List Char)
  | [] => none
  | [c] => if isDigit c then some [c] else none
  | c :: '_' :: rest => if isDigit c then (digitRun? isDigit rest).map (c :: ·) else none
  | c :: rest => if isDigit c then (digitRun? isDigit rest).map (c :: ·) else none

/-- The digits of a decimal run that does not start with a needless zero. -/
def decimalRun? (run : List Char) : Option (List Char) :=
  match digitRun? Char.isDigit run with
  | some ('0' :: _ :: _) => none
  | digits => digits

/-- The sign before a number, and the rest. -/
def splitSign : List Char → Bool × List Char
  | '+' :: rest => (false, rest)
  | '-' :: rest => (true, rest)
  | text => (false, text)

/-- A whole number with an optional sign, in any of the four bases. -/
def wholeNumber? : List Char → Option Int
  | '0' :: 'x' :: run => (digitRun? isHexDigit run).map fun ds => Int.ofNat (ofDigits 16 ds)
  | '0' :: 'o' :: run =>
    (digitRun? (fun c => '0' ≤ c && c ≤ '7') run).map fun ds => Int.ofNat (ofDigits 8 ds)
  | '0' :: 'b' :: run =>
    (digitRun? (fun c => c == '0' || c == '1') run).map fun ds => Int.ofNat (ofDigits 2 ds)
  | token =>
    let (negative, run) := splitSign token
    (decimalRun? run).map fun ds =>
      let n := Int.ofNat (ofDigits 10 ds)
      if negative then -n else n

/-- Integers lie below this number, and not below its negation. -/
def integerBound : Int :=
  Int.ofNat (Nat.pow 2 63)

/-- An integer that fits into 64 bits. -/
def integer? (token : List Char) : Option Int :=
  (wholeNumber? token).filter fun n => -integerBound ≤ n && n < integerBound

/-- Digits of a number and the underscores between them. -/
def isRunChar (c : Char) : Bool :=
  c.isDigit || c == '_'

/-- The power of ten at the end of a float; no text means zero. -/
def exponent? : List Char → Option Int
  | [] => some 0
  | c :: rest =>
    if c == 'e' || c == 'E' then
      let (negative, run) := splitSign rest
      (digitRun? Char.isDigit run).map fun ds =>
        let n := Int.ofNat (ofDigits 10 ds)
        if negative then -n else n
    else none

/-- The decimal that a float without its sign shows. -/
def decimal? (text : List Char) : Option Decimal := do
  let whole ← decimalRun? (text.takeWhile isRunChar)
  match text.dropWhile isRunChar with
  | '.' :: rest =>
    let places ← digitRun? Char.isDigit (rest.takeWhile isRunChar)
    let exponent ← exponent? (rest.dropWhile isRunChar)
    return ⟨ofDigits 10 (whole ++ places), exponent - places.length⟩
  | rest =>
    if rest.isEmpty then none
    else
      let exponent ← exponent? rest
      return ⟨ofDigits 10 whole, exponent⟩

/-- A float.  A finite number above the range of doubles is no float. -/
def float? (token : List Char) : Option Float :=
  let (negative, text) := splitSign token
  if text = "inf".toList then some (Binary64.infinity negative)
  else if text = "nan".toList then some Binary64.notANumber
  else do
    let value := (← decimal? text).toFloat negative
    if !negative && !value.isFinite then none else some value

end Toml
end MotionControl
