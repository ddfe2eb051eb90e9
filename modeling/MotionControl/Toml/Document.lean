import MotionControl.Toml.Reader

/-!
# Documents

A document is read line by line.  An entry belongs to the table of the last
header, or to the document itself before the first one.
-/

namespace MotionControl
namespace Toml

/-- A document while its lines are taken in: what is there so far, and the path
of the current table. -/
structure Builder where
  entries : Entries := []
  current : List String := []

namespace Builder

/-- Change the table that a header names the parents of. -/
def alterParents (builder : Builder) (path : KeyPath) (change : Entries → Option Entries) :
    Option Entries :=
  builder.entries.alter .implied (fun _ entries => change entries) path.parents .explicit

/-- Take in one expression. -/
def add (builder : Builder) : Expression → Option Builder
  | .entry path value => do
    let entries ← builder.entries.alter .implied (fun kind entries =>
      Entries.addEntry .dotted path value kind entries) builder.current .explicit
    return { builder with entries := entries }
  | .table path => do
    let entries ← builder.alterParents path (Entries.openTable path.key)
    return ⟨entries, path.names⟩
  | .element path => do
    let entries ← builder.alterParents path (Entries.openElement path.key)
    return ⟨entries, path.names⟩

end Builder

/-- The table that a list of expressions describes, if they do not collide. -/
def ofExpressions? (expressions : List Expression) : Option Entries :=
  (expressions.foldlM Builder.add {}).map Builder.entries

/-- A byte order mark at the start of a text is not part of it. -/
def withoutMark : List Char → List Char
  | '\uFEFF' :: rest => rest
  | text => text

/-- The document that a text holds. -/
def read? (text : String) : Option Entries := do
  let text := withoutMark text.toList
  let expressions ← readLines (text.length + 1) text
  ofExpressions? expressions

end Toml
end MotionControl
