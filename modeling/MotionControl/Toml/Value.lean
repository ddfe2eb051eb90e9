/-!
# TOML values and tables

A document is a table: names with values, each name once.  Tables differ in how
they came about, and that decides what may still be added to them.  A table under
its own header is complete except for subtables; a table that a header or a
dotted key only passed through may still be filled in its own manner; an inline
table is closed.

Entries are found by name, so their order carries no meaning.
-/

namespace MotionControl
namespace Toml

/-- How a table came about. -/
inductive TableKind where
  /-- The document itself, a table under its own header, or an element of an
  array of tables. -/
  | explicit
  /-- Passed through by the header of a table below it. -/
  | implied
  /-- Passed through by a dotted key. -/
  | dotted
  /-- Written in braces. -/
  | inline
  /-- Passed through by a dotted key inside braces. -/
  | inlineDotted
  deriving DecidableEq

/-- Holds of the tables that dotted keys fill. -/
def TableKind.isDotted : TableKind → Bool
  | .dotted | .inlineDotted => true
  | .explicit | .implied | .inline => false

inductive Value where
  | string (text : String)
  | integer (number : Int)
  | float (number : Float)
  | boolean (truth : Bool)
  /-- A date, a time or both, as it is written. -/
  | dateTime (text : String)
  | array (items : List Value)
  | table (kind : TableKind) (entries : List (String × Value))
  /-- An array whose elements are tables with a header each. -/
  | tables (elements : List (List (String × Value)))

abbrev Entries := List (String × Value)

namespace Entries

def find? (entries : Entries) (key : String) : Option Value :=
  entries.lookup key

/-- Put a value under a name, in place of the one that is there. -/
def put (entries : Entries) (key : String) (value : Value) : Entries :=
  entries.filter (fun entry => entry.1 != key) ++ [(key, value)]

def addNew? (entries : Entries) (key : String) (value : Value) : Option Entries :=
  match entries.find? key with
  | none => some (entries ++ [(key, value)])
  | some _ => none

end Entries

/-- A sequence of names that leads from a table to an entry below it. -/
structure KeyPath where
  /-- The tables on the way. -/
  parents : List String
  /-- The name of the entry itself. -/
  key : String
  deriving DecidableEq

namespace KeyPath

def names (path : KeyPath) : List String :=
  path.parents ++ [path.key]

/-- The path with the given names, if there are any. -/
def ofNames? : List String → Option KeyPath
  | [] => none
  | [key] => some ⟨[], key⟩
  | name :: rest => (ofNames? rest).map fun path => { path with parents := name :: path.parents }

end KeyPath
end Toml
end MotionControl
