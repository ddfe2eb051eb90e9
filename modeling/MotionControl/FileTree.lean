/-!
# Files by path

A file system as a tree of directories, as far as reading a file by its path
goes: which file a path names, and why it names none.  Names may go up with two
points, repeated slashes count once, and a path that ends in a slash names a
directory.
-/

namespace MotionControl

/-- Why a file could not be read as text. -/
inductive ReadFault where
  | missing
  /-- A path goes on below a file. -/
  | notDirectory
  | isDirectory
  | nameTooLong
  /-- The path holds a character that no name may hold. -/
  | nulInName
  | notText
  /-- Another reason, in the words of the system. -/
  | other (text : String)
  deriving DecidableEq

namespace ReadFault

/-- Wording of a fault, with the number of the system error where it has one. -/
def message : ReadFault → String
  | .missing => "No such file or directory (os error 2)"
  | .notDirectory => "Not a directory (os error 20)"
  | .isDirectory => "Is a directory (os error 21)"
  | .nameTooLong => "File name too long (os error 36)"
  | .nulInName => "file name contained an unexpected NUL byte"
  | .notText => "stream did not contain valid UTF-8"
  | .other text => text

end ReadFault

/-- A file with its bytes, or a directory with its entries. -/
inductive FileTree where
  | file (contents : ByteArray)
  | directory (entries : List (String × FileTree))

namespace FileTree

/-- Longest name of an entry, in bytes. -/
def maxNameBytes : Nat :=
  255

/-- Paths of this many bytes are too long. -/
def maxPathBytes : Nat :=
  4096

/-- Follow names from a directory whose ancestors are given, nearest first. -/
def follow : List String → FileTree → List FileTree → Except ReadFault FileTree
  | [], place, _ => .ok place
  | name :: rest, place, ancestors =>
    match place with
    | .file _ => .error .notDirectory
    | .directory entries =>
      if name = "" ∨ name = "." then follow rest place ancestors
      else if name = ".." then
        match ancestors with
        | [] => follow rest place []
        | parent :: above => follow rest parent above
      else if maxNameBytes < name.utf8ByteSize then .error .nameTooLong
      else
        match entries.lookup name with
        | none => .error .missing
        | some next => follow rest next (place :: ancestors)

/-- The bytes of the file that a path names.  A path that does not begin with a
slash starts at the last of the directories given as `working`, the others being
its ancestors, nearest first. -/
def readBytes (working : FileTree × List FileTree) (path : String) :
    Except ReadFault ByteArray := do
  if path.contains '\x00' then throw .nulInName
  if path = "" then throw .missing
  if maxPathBytes ≤ path.utf8ByteSize then throw .nameTooLong
  let (start, ancestors) :=
    if path.startsWith "/" then
      match working.2.getLast? with
      | some root => (root, [])
      | none => (working.1, [])
    else working
  match ← follow (path.splitOn "/") start ancestors with
  | .file contents => return contents
  | .directory _ => throw .isDirectory

end FileTree
end MotionControl
