import MotionControl.Decimal.Notation
import MotionControl.Duration
import MotionControl.Interface
import MotionControl.MotionError

/-!
# Controller configuration

A configuration is what a user writes down; `check` turns it into the settings
that the control loop runs on, or names the first field it cannot use.  The
fields are checked in a fixed order, each for its own kind of value: a name that
is not empty, a count of at least one, a positive number, a number that is not
negative, a number of seconds that makes a duration.
-/

namespace MotionControl

structure Config (α : Type) where
  /-- Frame in which all target poses must be expressed. -/
  robotBaseLink : String
  endEffectorLink : String
  interface : Interface
  /-- Sub-steps per tick; the velocity interface ignores it. -/
  iterations : UInt32
  /-- Length of a sub-step in seconds, independent of the outer period. -/
  internalPeriodSecs : α
  /-- Bound on the angular error of a cycle, in radians. -/
  maxAngle : α
  /-- Bound on the linear error of a cycle, in metres. -/
  maxDistance : α
  errorScale : α
  warnThrottleSecs : α
  deriving BEq

inductive ConfigField where
  | robotBaseLink
  | endEffectorLink
  | interface
  | iterations
  | internalPeriodSecs
  | maxAngle
  | maxDistance
  | errorScale
  | warnThrottleSecs
  deriving DecidableEq

namespace ConfigField

/-- Name of a field in documents and messages. -/
def name : ConfigField → String
  | .robotBaseLink => "robot_base_link"
  | .endEffectorLink => "end_effector_link"
  | .interface => "interface"
  | .iterations => "iterations"
  | .internalPeriodSecs => "internal_period_secs"
  | .maxAngle => "max_angle"
  | .maxDistance => "max_distance"
  | .errorScale => "error_scale"
  | .warnThrottleSecs => "warn_throttle_secs"

end ConfigField

/-- What is wrong with the value of a field. -/
inductive ConfigProblem (α : Type) where
  | empty
  | zero
  | notPositive (value : α)
  | negative (value : α)
  | noDuration (value : α)
  deriving DecidableEq

/-- A field that cannot be used, and why. -/
structure ConfigError (α : Type) where
  field : ConfigField
  problem : ConfigProblem α
  deriving DecidableEq

namespace ConfigProblem

def message : ConfigProblem Float → String
  | .empty => "must not be empty"
  | .zero => "must be at least 1"
  | .notPositive value => "must be finite and positive, got " ++ Decimal.messageText value
  | .negative value => "must be finite and non-negative, got " ++ Decimal.messageText value
  | .noDuration value => "not representable as a duration, got " ++ Decimal.messageText value

end ConfigProblem

namespace ConfigError

def message (error : ConfigError Float) : String :=
  "Invalid configuration for '" ++ error.field.name ++ "': " ++ error.problem.message

end ConfigError

/-- What the control loop runs on. -/
structure Settings (α : Type) where
  limits : ErrorLimits α
  /-- Sub-steps per tick, after the rule of the interface. -/
  substeps : UInt32
  internalPeriod : Duration
  errorScale : α
  warnThrottle : Duration
  deriving DecidableEq

namespace Config

variable {α : Type} [Scalar α]

/-- The configuration of an empty document. -/
def standard : Config α where
  robotBaseLink := "base_link"
  endEffectorLink := "tool0"
  interface := .position
  iterations := 1
  internalPeriodSecs := Scalar.ratio 2 100
  maxAngle := 1
  maxDistance := 1
  errorScale := 1
  warnThrottleSecs := ((3 : Nat) : α)

/-- The position interface with so many sub-steps per tick. -/
def position (iterations : UInt32) : Config α :=
  { standard with interface := .position, iterations := iterations }

/-- The velocity interface, which runs one sub-step per tick. -/
def velocity : Config α :=
  { standard with interface := .velocity }

def withBaseLink (config : Config α) (frame : String) : Config α :=
  { config with robotBaseLink := frame }

def withLimits (config : Config α) (maxAngle maxDistance : α) : Config α :=
  { config with maxAngle := maxAngle, maxDistance := maxDistance }

/-- Sub-steps per tick, after the rule of the interface. -/
def substeps (config : Config α) : UInt32 :=
  config.interface.substeps config.iterations

def limits (config : Config α) : ErrorLimits α :=
  ⟨config.maxAngle, config.maxDistance⟩

/-- Length of a sub-step, if the seconds make a duration. -/
def internalPeriod? (config : Config α) : Option Duration :=
  (Duration.ofSeconds config.internalPeriodSecs).toOption

/-- Window of the warning throttles, if the seconds make a duration. -/
def warnThrottle? (config : Config α) : Option Duration :=
  (Duration.ofSeconds config.warnThrottleSecs).toOption

/-- Accept a finite positive number. -/
def checkPositive (field : ConfigField) (value : α) : Except (ConfigError α) Unit :=
  if !Scalar.isFinite value || value ≤ 0 then .error ⟨field, .notPositive value⟩ else .ok ()

/-- Accept a finite number that is not below zero. -/
def checkNonNegative (field : ConfigField) (value : α) : Except (ConfigError α) Unit :=
  if !Scalar.isFinite value || value < 0 then .error ⟨field, .negative value⟩ else .ok ()

/-- Accept a number of seconds that makes a duration. -/
def checkDuration (field : ConfigField) (secs : α) : Except (ConfigError α) Duration :=
  match Duration.ofSeconds secs with
  | .ok duration => .ok duration
  | .error _ => .error ⟨field, .noDuration secs⟩

/-- The settings of a configuration, or the first field that cannot be used. -/
def check (config : Config α) : Except (ConfigError α) (Settings α) := do
  if config.robotBaseLink.isEmpty then throw ⟨.robotBaseLink, .empty⟩
  if config.iterations = 0 then throw ⟨.iterations, .zero⟩
  checkPositive .internalPeriodSecs config.internalPeriodSecs
  let internalPeriod ← checkDuration .internalPeriodSecs config.internalPeriodSecs
  checkPositive .maxAngle config.maxAngle
  checkPositive .maxDistance config.maxDistance
  checkNonNegative .errorScale config.errorScale
  checkNonNegative .warnThrottleSecs config.warnThrottleSecs
  let warnThrottle ← checkDuration .warnThrottleSecs config.warnThrottleSecs
  return {
    limits := config.limits
    substeps := config.substeps
    internalPeriod := internalPeriod
    errorScale := config.errorScale
    warnThrottle := warnThrottle }

/-- Check that every value can be used by the control loop. -/
def validate (config : Config α) : Except (ConfigError α) Unit :=
  config.check.map fun _ => ()

end Config
end MotionControl
