import MotionControl.Config.Document
import MotionControl.FileTree

/-!
# Configurations from files

A configuration file is a TOML document in UTF-8.  How bytes are obtained for a
path is an argument, so that loading is the same function over a disk and over a
tree of files in memory.
-/

namespace MotionControl

inductive LoadError where
  | unreadable (path : String) (fault : ReadFault)
  | unusable (error : DocumentError)

namespace LoadError

/-- The error and its causes, in words, the outermost first.  The wording of a
document that cannot be parsed ends where its position would be told. -/
def causes : LoadError → List String
  | .unreadable path fault =>
    ["Failed to read config file " ++ path ++ ": " ++ fault.message, fault.message]
  | .unusable .malformed => ["Failed to parse config", "TOML parse error"]
  | .unusable (.invalid error) => [error.message]

end LoadError

/-- The text of a file, given how to obtain its bytes. -/
def readText (files : String → Except ReadFault ByteArray) (path : String) :
    Except ReadFault String := do
  match String.fromUTF8? (← files path) with
  | some text => return text
  | none => throw .notText

def Config.ofFile (files : String → Except ReadFault ByteArray) (path : String) :
    Except LoadError (Config Float) :=
  match readText files path with
  | .error fault => .error (.unreadable path fault)
  | .ok text =>
    match Config.ofToml text with
    | .error error => .error (.unusable error)
    | .ok config => .ok config

end MotionControl
