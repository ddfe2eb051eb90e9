/-!
# Characters and strings of TOML

There are four written forms of a string.  Basic strings have escapes, literal
strings have none; each may be written on one line or, in tripled quotes, over
several.  Each reader takes the text after the opening quotes and returns the
content together with the text after the closing quotes.
-/

namespace MotionControl
namespace Toml

def isBlank (c : Char) : Bool :=
  c == ' ' || c == '\t'

/-- Characters that may stand in a comment, and unescaped in a string, where quotes
and backslash have their own meaning. -/
def isTextChar (c : Char) : Bool :=
  c == '\t' || (0x20 ≤ c.toNat && c.toNat ≠ 0x7F)

/-- Characters of a key without quotes. -/
def isBareKeyChar (c : Char) : Bool :=
  c.isAlphanum || c == '-' || c == '_'

/-- The value of a digit in a base of up to sixteen. -/
def digitValue (c : Char) : Nat :=
  if c.isDigit then c.toNat - '0'.toNat
  else if c.isLower then c.toNat - 'a'.toNat + 10
  else c.toNat - 'A'.toNat + 10

/-- Digits of base sixteen, in either case. -/
def isHexDigit (c : Char) : Bool :=
  c.isDigit || ('a' ≤ c && c ≤ 'f') || ('A' ≤ c && c ≤ 'F')

/-- The number that digits stand for. -/
def ofDigits (base : Nat) (digits : List Char) : Nat :=
  digits.foldl (fun n c => n * base + digitValue c) 0

/-- The character whose number is written in the given digits of base sixteen;
nothing if one is no digit, or if the number belongs to no character. -/
def codePoint? (digits : List Char) : Option Char :=
  if digits.all isHexDigit then
    let n := ofDigits 16 digits
    if h : n.isValidChar then some (Char.ofNatAux n h) else none
  else none

/-- The character that a backslash and a letter stand for. -/
def escaped? : Char → Option Char
  | 'b' => some '\x08'
  | 't' => some '\t'
  | 'n' => some '\n'
  | 'f' => some '\x0c'
  | 'r' => some '\r'
  | '"' => some '"'
  | '\\' => some '\\'
  | _ => none

/-- Put a character before the content that a reader returned. -/
def consText (c : Char) (result : Option (List Char × List Char)) :
    Option (List Char × List Char) :=
  result.map fun (text, rest) => (c :: text, rest)

def readBasic : List Char → Option (List Char × List Char)
  | [] => none
  | '"' :: rest => some ([], rest)
  | '\\' :: 'u' :: a :: b :: c :: d :: rest => do
    consText (← codePoint? [a, b, c, d]) (readBasic rest)
  | '\\' :: 'U' :: a :: b :: c :: d :: e :: f :: g :: h :: rest => do
    consText (← codePoint? [a, b, c, d, e, f, g, h]) (readBasic rest)
  | '\\' :: c :: rest => do consText (← escaped? c) (readBasic rest)
  | c :: rest => if c ≠ '\\' && isTextChar c then consText c (readBasic rest) else none

def readLiteral : List Char → Option (List Char × List Char)
  | [] => none
  | '\'' :: rest => some ([], rest)
  | c :: rest => if isTextChar c then consText c (readLiteral rest) else none

/-- The text after a line break, which is a line feed with or without a carriage
return. -/
def afterLineBreak? : List Char → Option (List Char)
  | '\n' :: rest => some rest
  | '\r' :: '\n' :: rest => some rest
  | _ => none

/-- A backslash in front of this text ends its line. -/
def endsLine (text : List Char) : Bool :=
  (afterLineBreak? (text.dropWhile isBlank)).isSome

/-- The text between tripled quotes begins after a line break that follows them
at once. -/
def trimFirstBreak (text : List Char) : List Char :=
  (afterLineBreak? text).getD text

/-- What tripled closing quotes leave: up to two further quotes belong to the
content. -/
def closing (quote : Char) : List Char → List Char × List Char
  | a :: b :: rest =>
    if a = quote then
      if b = quote then ([quote, quote], rest) else ([quote], b :: rest)
    else ([], a :: b :: rest)
  | [a] => if a = quote then ([quote], []) else ([], [a])
  | [] => ([], [])

/-- The rest of a basic string over several lines.  While `skipping`, after a
backslash at the end of a line, blanks and line breaks are left out. -/
def readBasicLines (skipping : Bool) : List Char → Option (List Char × List Char)
  | [] => none
  | '"' :: '"' :: '"' :: rest => some (closing '"' rest)
  | '\r' :: '\n' :: rest =>
    if skipping then readBasicLines true rest else consText '\n' (readBasicLines false rest)
  | '\n' :: rest =>
    if skipping then readBasicLines true rest else consText '\n' (readBasicLines false rest)
  | '\\' :: 'u' :: a :: b :: c :: d :: rest => do
    consText (← codePoint? [a, b, c, d]) (readBasicLines false rest)
  | '\\' :: 'U' :: a :: b :: c :: d :: e :: f :: g :: h :: rest => do
    consText (← codePoint? [a, b, c, d, e, f, g, h]) (readBasicLines false rest)
  | '\\' :: c :: rest =>
    if endsLine (c :: rest) then readBasicLines true (c :: rest)
    else do consText (← escaped? c) (readBasicLines false rest)
  | c :: rest =>
    if skipping && isBlank c then readBasicLines true rest
    else if c ≠ '\\' && isTextChar c then consText c (readBasicLines false rest)
    else none

/-- The rest of a literal string over several lines. -/
def readLiteralLines : List Char → Option (List Char × List Char)
  | [] => none
  | '\'' :: '\'' :: '\'' :: rest => some (closing '\'' rest)
  | '\r' :: '\n' :: rest => consText '\n' (readLiteralLines rest)
  | '\n' :: rest => consText '\n' (readLiteralLines rest)
  | c :: rest => if isTextChar c then consText c (readLiteralLines rest) else none

/-- A string in any of the four forms, from its opening quotes on. -/
def readString? : List Char → Option (List Char × List Char)
  | '"' :: '"' :: '"' :: rest => readBasicLines false (trimFirstBreak rest)
  | '"' :: rest => readBasic rest
  | '\'' :: '\'' :: '\'' :: rest => readLiteralLines (trimFirstBreak rest)
  | '\'' :: rest => readLiteral rest
  | _ => none

end Toml
end MotionControl
