import MotionControl.Toml.Value

/-!
# Filling tables

Entries and headers name a place by a path.  `alter` follows the path, creating
the tables that are missing on the way, and changes the table at its end.  It
fails where the path runs into something that cannot be extended: a plain value,
an inline table, or a complete table entered by a dotted key.
-/

namespace MotionControl
namespace Toml

/-- May a path that creates tables of kind `fresh` pass through a table of kind
`kind`?  Headers may enter complete tables, dotted keys may not. -/
def TableKind.admits (kind fresh : TableKind) : Bool :=
  match kind with
  | .explicit => fresh == .implied
  | .inline => false
  | .implied | .dotted | .inlineDotted => true

namespace Entries

/-- Change the table at the end of a path.  Missing tables on the way are created
with the kind `fresh`; an array of tables is entered at its last element. -/
def alter (fresh : TableKind) (change : TableKind → Entries → Option Entries) :
    List String → TableKind → Entries → Option Entries
  | [], kind, entries => change kind entries
  | name :: rest, _, entries =>
    match entries.find? name with
    | none =>
      (alter fresh change rest fresh []).map fun inner =>
        entries ++ [(name, .table fresh inner)]
    | some (.table kind inner) =>
      if kind.admits fresh then
        (alter fresh change rest kind inner).map fun inner =>
          entries.put name (.table kind inner)
      else none
    | some (.tables elements) =>
      match elements.getLast? with
      | none => none
      | some last =>
        (alter fresh change rest .explicit last).map fun last =>
          entries.put name (.tables (elements.dropLast ++ [last]))
    | some _ => none

/-- Add an entry to the table that its path leads to.  A dotted key ends in a
table that dotted keys fill, a plain key in one that they do not. -/
def addEntry (fresh : TableKind) (path : KeyPath) (value : Value) :
    TableKind → Entries → Option Entries :=
  alter fresh
    (fun kind entries =>
      if kind.isDotted = path.parents.isEmpty then none else entries.addNew? path.key value)
    path.parents

/-- Open the table with the given name for its header.  A table that headers
below it have passed through keeps its entries; any other value is in the way. -/
def openTable (key : String) (entries : Entries) : Option Entries :=
  match entries.find? key with
  | none => some (entries ++ [(key, .table .explicit [])])
  | some (.table .implied inner) => some (entries.put key (.table .explicit inner))
  | some _ => none

/-- Open a new element of the array of tables with the given name. -/
def openElement (key : String) (entries : Entries) : Option Entries :=
  match entries.find? key with
  | none => some (entries ++ [(key, .tables [[]])])
  | some (.tables elements) => some (entries.put key (.tables (elements ++ [[]])))
  | some _ => none

end Entries

/-- The inline table with the given entries, if they do not collide. -/
def Value.inlineTable? (entries : List (KeyPath × Value)) : Option Value :=
  (entries.foldlM
    (fun table (path, value) => Entries.addEntry .inlineDotted path value .inline table) []).map
    (.table .inline)

end Toml
end MotionControl
