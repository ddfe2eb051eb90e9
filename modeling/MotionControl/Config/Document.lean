import MotionControl.Config
import MotionControl.Scalar.Double
import MotionControl.Toml.Decode
import MotionControl.Toml.Document
import MotionControl.Toml.Writer

/-!
# Configurations as TOML documents

Every field has a default, so a document need only give the fields that differ,
in any order; names that belong to no field are ignored.  Writing gives every
field on a line of its own, in the order of the fields.
-/

namespace MotionControl
namespace Config

open Toml (Entries Value)

/-- The value of a field: what `decode` makes of the entry under its name, or the
default if there is none. -/
def field {β : Type} (entries : Entries) (name : ConfigField) (default : β)
    (decode : Value → Option β) : Option β :=
  match entries.find? name.name with
  | none => some default
  | some value => decode value

/-- The configuration that a table of entries describes. -/
def ofEntries? (entries : Entries) : Option (Config Float) := do
  let base : Config Float := .standard
  return {
    robotBaseLink := ← field entries .robotBaseLink base.robotBaseLink Value.string?
    endEffectorLink := ← field entries .endEffectorLink base.endEffectorLink Value.string?
    interface := ← field entries .interface base.interface Value.interface?
    iterations := ← field entries .iterations base.iterations fun value =>
      (value.natural? UInt32.size).map UInt32.ofNat
    internalPeriodSecs :=
      ← field entries .internalPeriodSecs base.internalPeriodSecs Value.number?
    maxAngle := ← field entries .maxAngle base.maxAngle Value.number?
    maxDistance := ← field entries .maxDistance base.maxDistance Value.number?
    errorScale := ← field entries .errorScale base.errorScale Value.number?
    warnThrottleSecs := ← field entries .warnThrottleSecs base.warnThrottleSecs Value.number? }

/-- The configuration that a text describes, checked or not. -/
def read? (text : String) : Option (Config Float) :=
  (Toml.read? text).bind ofEntries?

def writtenFields : List ConfigField :=
  [.robotBaseLink, .endEffectorLink, .interface, .iterations, .internalPeriodSecs, .maxAngle,
    .maxDistance, .errorScale, .warnThrottleSecs]

def writtenValue (config : Config Float) : ConfigField → List Char
  | .robotBaseLink => Toml.writeString config.robotBaseLink
  | .endEffectorLink => Toml.writeString config.endEffectorLink
  | .interface => Toml.writeString config.interface.name
  | .iterations => Toml.writeNat config.iterations.toNat
  | .internalPeriodSecs => Toml.writeFloat config.internalPeriodSecs
  | .maxAngle => Toml.writeFloat config.maxAngle
  | .maxDistance => Toml.writeFloat config.maxDistance
  | .errorScale => Toml.writeFloat config.errorScale
  | .warnThrottleSecs => Toml.writeFloat config.warnThrottleSecs

/-- A document with the given fields of a configuration. -/
def writeFields (config : Config Float) (fields : List ConfigField) : String :=
  Toml.writeEntries (fields.map fun name => (name.name, config.writtenValue name))

def toToml (config : Config Float) : String :=
  config.writeFields writtenFields

end Config

/-- Why a document gives no usable configuration. -/
inductive DocumentError where
  | malformed
  | invalid (error : ConfigError Float)

/-- The configuration that a text describes, if it can be used. -/
def Config.ofToml (text : String) : Except DocumentError (Config Float) :=
  match Config.read? text with
  | none => .error .malformed
  | some config =>
    match config.validate with
    | .error error => .error (.invalid error)
    | .ok () => .ok config

end MotionControl
