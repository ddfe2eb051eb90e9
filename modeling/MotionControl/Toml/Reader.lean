import MotionControl.Toml.DateTime
import MotionControl.Toml.Table

/-!
# Reading values and lines

Values that are neither strings nor in brackets are single tokens, cut off where
the first character stands that no such value has.  Arrays and inline tables
nest to a bounded depth, which also bounds the recursion; the length of a key
path is bounded likewise.  Each reader takes the text from its first character
on and returns what it read with the text that follows.

A line holds at most one expression: an entry, the header of a table, or the
header of an element of an array of tables.
-/

namespace MotionControl
namespace Toml

/-- Arrays and inline tables, and the names of a key, stay below this number. -/
def depthLimit : Nat :=
  80

/-- Characters of values that are not in quotes or brackets. -/
def isTokenChar (c : Char) : Bool :=
  c.isAlphanum || c == '+' || c == '-' || c == '_' || c == '.' || c == ':'

def tokenValue? (token : List Char) : Option Value :=
  if token = "true".toList then some (.boolean true)
  else if token = "false".toList then some (.boolean false)
  else if isDateTime token then some (.dateTime (String.ofList token))
  else
    match integer? token with
    | some n => some (.integer n)
    | none => (float? token).map .float

/-- A value without quotes or brackets.  A date may be followed by a time after a
single space. -/
def readToken (text : List Char) : Option (Value × List Char) :=
  let token := text.takeWhile isTokenChar
  let rest := text.dropWhile isTokenChar
  let joined : Option (Value × List Char) :=
    match rest with
    | ' ' :: later =>
      let time := later.takeWhile isTokenChar
      if isDate token && isTimeWithOffset time then
        some (.dateTime (String.ofList (token ++ ' ' :: time)), later.dropWhile isTokenChar)
      else none
    | _ => none
  match joined with
  | some result => some result
  | none => (tokenValue? token).map fun value => (value, rest)

/-- Leave out blanks, line breaks and comments, as between the items of an array.
A character that may not stand in a comment ends it. -/
def skipSpace (inComment : Bool) : List Char → List Char
  | [] => []
  | '\r' :: '\n' :: rest => skipSpace false rest
  | '\n' :: rest => skipSpace false rest
  | c :: rest =>
    if inComment then
      if isTextChar c then skipSpace true rest else c :: rest
    else if c = '#' then skipSpace true rest
    else if isBlank c then skipSpace false rest
    else c :: rest

def skipBlanks (text : List Char) : List Char :=
  text.dropWhile isBlank

/-- One name of a key: bare, or a string on one line. -/
def readName : List Char → Option (String × List Char)
  | '"' :: rest => (readBasic rest).map fun (name, rest) => (String.ofList name, rest)
  | '\'' :: rest => (readLiteral rest).map fun (name, rest) => (String.ofList name, rest)
  | text =>
    let name := text.takeWhile isBareKeyChar
    if name.isEmpty then none else some (String.ofList name, text.dropWhile isBareKeyChar)

/-- Names separated by points, with blanks around each.  `fuel` bounds their
number. -/
def readNames : Nat → List Char → Option (List String × List Char)
  | 0, _ => none
  | fuel + 1, text => do
    let (name, rest) ← readName (skipBlanks text)
    match skipBlanks rest with
    | '.' :: rest =>
      let (names, rest) ← readNames fuel rest
      return (name :: names, rest)
    | rest => return ([name], rest)

def readKey (text : List Char) : Option (KeyPath × List Char) := do
  let (names, rest) ← readNames (depthLimit - 1) text
  let path ← KeyPath.ofNames? names
  return (path, rest)

/-- The items of an array after its opening bracket, given a reader of items.
`fuel` bounds their number. -/
def readItems (item : List Char → Option (Value × List Char)) :
    Nat → List Char → Option (List Value × List Char)
  | 0, _ => none
  | fuel + 1, text =>
    match skipSpace false text with
    | ']' :: rest => some ([], rest)
    | text => do
      let (value, rest) ← item text
      match skipSpace false rest with
      | ',' :: rest =>
        let (values, rest) ← readItems item fuel rest
        return (value :: values, rest)
      | ']' :: rest => return ([value], rest)
      | _ => none

/-- A key, an equals sign and a value, given a reader of values. -/
def readEntry (item : List Char → Option (Value × List Char)) (text : List Char) :
    Option ((KeyPath × Value) × List Char) := do
  let (path, rest) ← readKey text
  match rest with
  | '=' :: rest =>
    let (value, rest) ← item (skipBlanks rest)
    return ((path, value), rest)
  | _ => none

/-- One or more entries of an inline table up to its closing brace, given a
reader of values.  `fuel` bounds their number. -/
def readInlineEntries (item : List Char → Option (Value × List Char)) :
    Nat → List Char → Option (List (KeyPath × Value) × List Char)
  | 0, _ => none
  | fuel + 1, text => do
    let (entry, rest) ← readEntry item text
    match skipBlanks rest with
    | ',' :: rest =>
      let (entries, rest) ← readInlineEntries item fuel rest
      return (entry :: entries, rest)
    | '}' :: rest => return ([entry], rest)
    | _ => none

/-- A value in which arrays and inline tables nest at most `depth` deep. -/
def readValue : Nat → List Char → Option (Value × List Char)
  | depth, '[' :: rest =>
    match depth with
    | 0 => none
    | depth + 1 => (readItems (readValue depth) (rest.length + 1) rest).map fun (items, rest) =>
      (.array items, rest)
  | depth, '{' :: rest =>
    match depth with
    | 0 => none
    | depth + 1 =>
      match skipBlanks rest with
      | '}' :: rest => some (.table .inline [], rest)
      | rest => do
        let (entries, rest) ← readInlineEntries (readValue depth) (rest.length + 1) rest
        let value ← Value.inlineTable? entries
        return (value, rest)
  | _, '"' :: rest =>
    (readString? ('"' :: rest)).map fun (text, rest) => (.string (String.ofList text), rest)
  | _, '\'' :: rest =>
    (readString? ('\'' :: rest)).map fun (text, rest) => (.string (String.ofList text), rest)
  | _, text => readToken text

/-- What a line says. -/
inductive Expression where
  /-- An entry of the current table. -/
  | entry (path : KeyPath) (value : Value)
  /-- The header of a table, which becomes the current one. -/
  | table (path : KeyPath)
  /-- The header of a further element of an array of tables. -/
  | element (path : KeyPath)

/-- The expression at the start of a line, if there is one. -/
def readExpression : List Char → Option (Option Expression × List Char)
  | [] => some (none, [])
  | '#' :: rest => some (none, '#' :: rest)
  | '\n' :: rest => some (none, '\n' :: rest)
  | '\r' :: rest => some (none, '\r' :: rest)
  | '[' :: '[' :: rest => do
    let (path, rest) ← readKey rest
    match rest with
    | ']' :: ']' :: rest => return (some (.element path), rest)
    | _ => none
  | '[' :: rest => do
    let (path, rest) ← readKey rest
    match rest with
    | ']' :: rest => return (some (.table path), rest)
    | _ => none
  | text => do
    let ((path, value), rest) ← readEntry (readValue (depthLimit - 1)) text
    return (some (.entry path value), rest)

/-- The text after the end of a line: blanks, a comment, and a line break unless
the text is over. -/
def afterLine? (text : List Char) : Option (List Char) :=
  let rest := match skipBlanks text with
    | '#' :: comment => comment.dropWhile isTextChar
    | rest => rest
  if rest.isEmpty then some [] else afterLineBreak? rest

/-- All expressions of a text, line by line.  `fuel` bounds the number of
lines. -/
def readLines : Nat → List Char → Option (List Expression)
  | 0, text => if text.isEmpty then some [] else none
  | fuel + 1, text =>
    if text.isEmpty then some []
    else do
      let (expression, rest) ← readExpression (skipBlanks text)
      let rest ← afterLine? rest
      let expressions ← readLines fuel rest
      return expression.toList ++ expressions

end Toml
end MotionControl
