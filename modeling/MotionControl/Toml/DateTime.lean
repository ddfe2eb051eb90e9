import MotionControl.Toml.Number

/-!
# Dates and times of TOML

A date, a time of day, or both with an optional offset.  Only well-formed ones
are values: months have their days, a minute may have a leap second.
-/

namespace MotionControl
namespace Toml

/-- The number that exactly two digits stand for. -/
def twoDigits? : List Char → Option Nat
  | [a, b] => if a.isDigit && b.isDigit then some (ofDigits 10 [a, b]) else none
  | _ => none

/-- Days in a month of the Gregorian calendar. -/
def daysInMonth (year month : Nat) : Nat :=
  if month = 2 then
    if year % 4 = 0 && (year % 100 ≠ 0 || year % 400 = 0) then 29 else 28
  else if month = 4 || month = 6 || month = 9 || month = 11 then 30
  else 31

/-- A date such as `1979-05-27`. -/
def isDate : List Char → Bool
  | [y₁, y₂, y₃, y₄, '-', m₁, m₂, '-', d₁, d₂] =>
    [y₁, y₂, y₃, y₄].all Char.isDigit &&
      match twoDigits? [m₁, m₂], twoDigits? [d₁, d₂] with
      | some month, some day =>
        1 ≤ month && month ≤ 12 && 1 ≤ day &&
          day ≤ daysInMonth (ofDigits 10 [y₁, y₂, y₃, y₄]) month
      | _, _ => false
  | _ => false

/-- An hour and a minute such as `07:32`. -/
def isHourMinute : List Char → Bool
  | [h₁, h₂, ':', m₁, m₂] =>
    match twoDigits? [h₁, h₂], twoDigits? [m₁, m₂] with
    | some hour, some minute => hour ≤ 23 && minute ≤ 59
    | _, _ => false
  | _ => false

/-- What may follow the second of a time: nothing, or a point and digits. -/
def isFraction : List Char → Bool
  | [] => true
  | '.' :: digits => !digits.isEmpty && digits.all Char.isDigit
  | _ => false

/-- A time of day such as `07:32:00.5`. -/
def isTime (text : List Char) : Bool :=
  isHourMinute (text.take 5) &&
    match text.drop 5 with
    | ':' :: s₁ :: s₂ :: fraction =>
      match twoDigits? [s₁, s₂] with
      | some second => second ≤ 60 && isFraction fraction
      | none => false
    | _ => false

/-- An offset from universal time: `Z`, or a sign with hour and minute. -/
def isOffset : List Char → Bool
  | [] => true
  | ['Z'] | ['z'] => true
  | '+' :: rest => isHourMinute rest
  | '-' :: rest => isHourMinute rest
  | _ => false

/-- Holds of the characters that begin an offset. -/
def beginsOffset (c : Char) : Bool :=
  c == 'Z' || c == 'z' || c == '+' || c == '-'

/-- A time of day with an optional offset. -/
def isTimeWithOffset (text : List Char) : Bool :=
  isTime (text.takeWhile fun c => !beginsOffset c) &&
    isOffset (text.dropWhile fun c => !beginsOffset c)

/-- A date, a time of day, or a date and a time with an optional offset, in a
single token. -/
def isDateTime (token : List Char) : Bool :=
  isTime token || isDate token ||
    (isDate (token.take 10) &&
      match token.drop 10 with
      | 'T' :: time => isTimeWithOffset time
      | 't' :: time => isTimeWithOffset time
      | _ => false)

end Toml
end MotionControl
