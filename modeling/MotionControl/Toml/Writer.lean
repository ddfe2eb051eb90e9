import MotionControl.Decimal.Notation
import MotionControl.Toml.Text

/-!
# Writing TOML

A document is written as one entry per line.  A string takes the plainest form
that holds it: a basic string that needs no escapes, a literal string, a basic
string over several lines without escapes, a literal string over several lines,
and failing all these a basic string with escapes.  A string over several lines
begins with a line break if it contains one, because the first break is not part
of the content.
-/

namespace MotionControl
namespace Toml

/-- Control characters that need an escape, tab and line feed aside. -/
def isControl (c : Char) : Bool :=
  c ≠ '\t' && c ≠ '\n' && (c.toNat < 0x20 || c.toNat = 0x7F)

/-- A text holds a run of `count` or more of a character.  `seen` are the ones
right before it. -/
def hasRun (c : Char) (count seen : Nat) : List Char → Bool
  | [] => decide (count ≤ seen)
  | d :: rest => decide (count ≤ seen) || hasRun c count (if d = c then seen + 1 else 0) rest

/-- The written forms of a string. -/
inductive StringForm where
  | basic
  | literal
  | basicLines
  | literalLines
  deriving DecidableEq

/-- The plainest form that holds a text. -/
def StringForm.choose (text : List Char) : StringForm :=
  let control := text.any isControl
  let lines := text.contains '\n'
  let double := text.contains '"'
  let backslash := text.contains '\\'
  if !control && !lines && !double && !backslash then .basic
  else if !control && !lines && !text.contains '\'' then .literal
  else if !control && !backslash && !hasRun '"' 3 0 text then .basicLines
  else if !control && !hasRun '\'' 3 0 text then .literalLines
  else if lines then .basicLines
  else .basic

/-- A number in base sixteen with four upper-case digits. -/
def fourHexDigits (n : Nat) : List Char :=
  [n / 4096 % 16, n / 256 % 16, n / 16 % 16, n % 16].map fun d =>
    if d < 10 then Char.ofNat ('0'.toNat + d) else Char.ofNat ('A'.toNat + (d - 10))

/-- A character of a basic string, quotes and line feeds aside. -/
def writeChar (c : Char) : List Char :=
  if c = '\x08' then ['\\', 'b']
  else if c = '\t' then ['\\', 't']
  else if c = '\x0c' then ['\\', 'f']
  else if c = '\r' then ['\\', 'r']
  else if c = '\\' then ['\\', '\\']
  else if isControl c then '\\' :: 'u' :: fourHexDigits c.toNat
  else [c]

def writeBasic : List Char → List Char
  | [] => []
  | c :: rest =>
    (if c = '"' then ['\\', '"'] else if c = '\n' then ['\\', 'n'] else writeChar c)
      ++ writeBasic rest

/-- The content of a basic string over several lines: the third of three quotes
in a row is escaped.  `run` counts the quotes right before the text. -/
def writeBasicLines (run : Nat) : List Char → List Char
  | [] => []
  | c :: rest =>
    if c = '"' then
      if run = 2 then '\\' :: '"' :: writeBasicLines 0 rest
      else '"' :: writeBasicLines (run + 1) rest
    else (if c = '\n' then ['\n'] else writeChar c) ++ writeBasicLines 0 rest

/-- The line break that a string over several lines begins with. -/
def openingBreak (text : List Char) : List Char :=
  if text.contains '\n' then ['\n'] else []

def writeForm (text : List Char) : StringForm → List Char
  | .basic => '"' :: writeBasic text ++ ['"']
  | .literal => '\'' :: text ++ ['\'']
  | .basicLines =>
    ['"', '"', '"'] ++ openingBreak text ++ writeBasicLines 0 text ++ ['"', '"', '"']
  | .literalLines => ['\'', '\'', '\''] ++ openingBreak text ++ text ++ ['\'', '\'', '\'']

def writeString (text : String) : List Char :=
  writeForm text.toList (.choose text.toList)

/-- A float; a whole number keeps one fractional digit. -/
def writeFloat (x : Float) : List Char :=
  Decimal.Style.toml.render x

def writeNat (n : Nat) : List Char :=
  Decimal.digits n

def writeFloats (xs : List Float) : List Char :=
  '[' :: ((xs.map writeFloat).intersperse [',', ' ']).flatten ++ [']']

def writeEntry (key : String) (value : List Char) : List Char :=
  key.toList ++ [' ', '=', ' '] ++ value ++ ['\n']

def writeEntries (entries : List (String × List Char)) : String :=
  String.ofList (entries.map fun entry => writeEntry entry.1 entry.2).flatten

end Toml
end MotionControl
