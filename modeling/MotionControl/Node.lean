import MotionControl.Config.File
import MotionControl.Controller
import MotionControl.Instant
import MotionControl.Node.CommandLine
import MotionControl.PointMass

/-!
# The node

The node runs a controller over a point mass at a fixed rate and logs what
happens.  Its arguments are checked in a fixed order: the rate, the period that
follows from it, the run time, and last the configuration file.  Everything it
does is a function of the command line, the files and the readings of the clock;
only the waiting between ticks is left to the outside.

A deadline is kept as an instant, which not every sum of an instant and a period
is.  Where the sum is none, the loop has no deadline to go on with, and the
program breaks off with a message of its run time.
-/

namespace MotionControl

/-- One line of the log. -/
structure LogLine where
  level : String
  target : String
  message : String
  fields : List (String × String) := []

namespace LogLine

/-- The line as it is printed, without a time. -/
def render (line : LogLine) : String :=
  line.level ++ " " ++ line.target ++ ": " ++ line.message
    ++ String.join (line.fields.map fun (name, value) => " " ++ name ++ "=" ++ value)

/-- The line of an entry of the controller or its reference. -/
def ofEntry (entry : LogEntry Float) : LogLine where
  level := entry.level.name
  target := entry.target
  message := entry.message
  fields := entry.fields

/-- A line of the node itself. -/
def ofNode (level : LogLevel) (message : String) (fields : List (String × String)) : LogLine :=
  ⟨level.name, "cartesian_node", message, fields⟩

end LogLine

/-- Why the node does not start. -/
inductive NodeError where
  | badRate (rate : Float)
  | badPeriod (rate : Float) (cause : DurationError)
  | badDuration (seconds : Float) (cause : DurationError)
  | badConfig (path : String) (cause : LoadError)
  | notCreated (cause : ConfigError Float)
  | notStarted (cause : Fault Float)

namespace NodeError

/-- The error in words. -/
def message : NodeError → String
  | .badRate rate => "rate must be a positive number of Hz, got " ++ Decimal.messageText rate
  | .badPeriod rate _ => "rate " ++ Decimal.messageText rate ++ " Hz gives an unusable period"
  | .badDuration seconds _ =>
    "duration must be a non-negative number of seconds, got " ++ Decimal.messageText seconds
  | .badConfig path _ => "Failed to load config " ++ path
  | .notCreated _ => "Failed to create controller"
  | .notStarted _ => "Failed to start controller"

/-- What lies behind the error, the nearest cause first. -/
def causes : NodeError → List String
  | .badRate _ => []
  | .badPeriod _ cause | .badDuration _ cause => [cause.message]
  | .badConfig _ cause => cause.causes
  | .notCreated cause => [cause.message]
  | .notStarted cause => [cause.controllerMessage, cause.message]

/-- The error as it is printed: causes are numbered if there are several. -/
def report (error : NodeError) : List String :=
  ("Error: " ++ error.message) ::
    match error.causes with
    | [] => []
    | [cause] => ["", "Caused by:", "    " ++ cause]
    | causes => ["", "Caused by:"] ++ causes.zipIdx.map fun (cause, i) =>
        "    " ++ toString i ++ ": " ++ cause

end NodeError

/-- What the command line and the files settle before the node starts. -/
structure NodePlan where
  rate : Float
  period : Duration
  /-- Run time; nothing means without end. -/
  runFor : Option Duration
  config : Config Float

namespace NodePlan

/-- Sub-steps per tick of the configuration that is used when no file is named. -/
def presetIterations : UInt32 :=
  10

/-- The configuration in the named file, or the preset. -/
def loadConfig (files : String → Except ReadFault ByteArray) :
    Option String → Except NodeError (Config Float)
  | none => .ok (.position presetIterations)
  | some path =>
    match Config.ofFile files path with
    | .ok config => .ok config
    | .error cause => .error (.badConfig path cause)

/-- Check the options in order and load the configuration. -/
def ofOptions (files : String → Except ReadFault ByteArray) (options : CommandLine.Options) :
    Except NodeError NodePlan := do
  let rate := options.rateHz
  if !(rate.isFinite && 0 < rate) then throw (.badRate rate)
  let period ← (Duration.ofSeconds (1 / rate)).mapError (NodeError.badPeriod rate)
  let runFor ← match options.duration with
    | none => pure none
    | some seconds =>
      match Duration.ofSeconds seconds with
      | .ok limit => pure (some limit)
      | .error cause => throw (.badDuration seconds cause)
  let config ← loadConfig files options.config
  return ⟨rate, period, runFor, config⟩

/-- How many ticks fit before the run time is over, on a clock that ticks at
whole multiples of the period from zero on.  Nothing means without end; a period
of zero has no multiples, and then one tick is made. -/
def tickCount? (plan : NodePlan) : Option Nat :=
  plan.runFor.map fun limit =>
    if plan.period.nanoseconds = 0 then min limit.nanoseconds 1
    else (limit.nanoseconds + plan.period.nanoseconds - 1) / plan.period.nanoseconds

/-- The line that reports the configuration. -/
def loadedLine (plan : NodePlan) : LogLine :=
  .ofNode .info "Loaded controller configuration" [
    ("base", plan.config.robotBaseLink),
    ("interface", LogEntry.quoted plan.config.interface.name),
    ("substeps", toString plan.config.substeps.toNat),
    ("rate_hz", Decimal.logText plan.rate)]

/-- Has the node run for as long as it is to run? -/
def isOver (plan : NodePlan) (start now : Instant) : Bool :=
  plan.runFor.any fun limit => limit.nanoseconds ≤ (now.since start).nanoseconds

end NodePlan

/-- What the clock shows in one turn of the loop, and how long the update of its tick takes. -/
structure Turn where
  /-- When the run time is checked. -/
  checked : Instant
  /-- When the tick begins. -/
  began : Instant
  elapsed : Duration
  /-- When the tick is over and the wait for the next one begins. -/
  ended : Instant

/-- Where the loop is in time. -/
structure Pace where
  /-- When the latest tick began, or the loop itself. -/
  last : Instant
  /-- How long to wait after the tick that comes. -/
  due : Instant

namespace Pace

/-- The pace of a loop that begins. -/
def start? (start : Instant) (period : Duration) : Option Pace :=
  (start.after? period).map fun due => ⟨start, due⟩

/-- The pace after a turn.  A tick that ends late moves the deadlines; it is not
made up for by a burst. -/
def next? (pace : Pace) (period : Duration) (turn : Turn) : Option Pace :=
  let reached := if turn.ended < pace.due then pace.due else turn.ended
  (reached.after? period).map fun due => ⟨turn.began, due⟩

end Pace

/-- How the loop of a node ends: because it is over or was asked to stop, or for
want of a deadline. -/
inductive Ending where
  | finished
  | aborted
  deriving DecidableEq

/-- A running node. -/
structure Node where
  controller : Controller Float (PointMass Float) (Channel Float)
  received : Nat := 0

namespace Node

/-- Poses that may wait for the observer. -/
def queueCapacity : Nat :=
  256

/-- Create the controller over a point mass and start it. -/
def launch (plan : NodePlan) : Except NodeError (Node × List LogLine) :=
  let plant : PointMass Float := .create plan.config.interface
  match Controller.create plan.config plant { capacity := queueCapacity } with
  | .error cause => .error (.notCreated cause)
  | .ok controller =>
    match controller.start with
    | (_, .error cause, _) => .error (.notStarted cause)
    | (controller, .ok (), log) =>
      .ok ({ controller := controller },
        (Controller.creation plan.config :: log).map LogLine.ofEntry)

/-- Let the observer take what is queued. -/
def observe (node : Node) : Node :=
  let (channel, poses) := node.controller.sink.drain
  { controller := { node.controller with sink := channel }
    received := node.received + poses.length }

/-- The line that reports a failed tick. -/
def failureLine (fault : Fault Float) : LogLine :=
  ⟨"ERROR", "cartesian_node", "Control tick failed: " ++ fault.controllerMessage, []⟩

/-- One tick; the node goes on if it fails. -/
def tick (node : Node) (period elapsed : Duration) : Node × List LogLine :=
  let (controller, result) := node.controller.update period elapsed
  let lines := match result with
    | .ok () => []
    | .error fault => [failureLine fault]
  (observe { node with controller := controller }, lines)

/-- Record the wall time of the latest tick. -/
def timed (node : Node) (period elapsed : Duration) : Node :=
  { node with controller :=
      { node.controller with stats := node.controller.stats.time period elapsed } }

/-- Turn after turn, as long as there is a pace to keep.  The node is asked to
stop at the end of the list. -/
def turns (plan : NodePlan) (start : Instant) :
    Option Pace → List Turn → Node → Node × List LogLine × Ending
  | none, _, node => (node, [], .aborted)
  | some _, [], node => (node, [], .finished)
  | some pace, turn :: rest, node =>
    if plan.isOver start turn.checked then (node, [], .finished)
    else
      let (node, lines) := node.tick (turn.began.since pace.last) turn.elapsed
      let (node, more, ending) := turns plan start (pace.next? plan.period turn) rest node
      (node, lines ++ more, ending)

/-- The lines with which a node ends. -/
def finish (node : Node) : List LogLine :=
  let stats := node.controller.stats
  let plant := node.controller.plant
  node.controller.stop.map LogLine.ofEntry ++ [
    .ofNode .info "Control loop finished" [
      ("ticks", toString stats.ticks),
      ("substeps", toString stats.substeps),
      ("failed", toString stats.failedTicks),
      ("overruns", toString stats.overruns),
      ("max_tick_us", toString (stats.maxTick.nanoseconds / 1000))],
    .ofNode .debug "Observer stopped" [("received", toString node.received)],
    .ofNode .info "Final end-effector pose" [
      ("position", LogEntry.positionText plant.pose.position),
      ("writes", toString plant.writes)]]

/-- The lines after the loop; there are none if it breaks off. -/
def closing (node : Node) : Ending → List LogLine
  | .finished => node.finish
  | .aborted => []

end Node

/-- Lines that are logged unless more is asked for. -/
def LogLine.shown (verbose : Bool) (line : LogLine) : Bool :=
  verbose || line.level != LogLevel.debug.name

/-- Exit code and output of a program. -/
structure ProgramOutput where
  code : Nat
  stdout : List String := []
  stderr : List String := []

/-- What a node leaves when its loop has ended. -/
structure NodeRun where
  node : Node
  ending : Ending
  log : List LogLine

/-- What is printed when there is no instant for a deadline. -/
def NodeRun.abortMessage : String :=
  "overflow when adding duration to instant"

/-- What the program prints of the run, and how it exits. -/
def NodeRun.output (run : NodeRun) (verbose : Bool) : ProgramOutput :=
  let lines := (run.log.filter (LogLine.shown verbose)).map LogLine.render
  match run.ending with
  | .finished => { code := 0, stdout := lines }
  | .aborted => { code := 101, stdout := lines, stderr := [abortMessage] }

namespace Node

/-- Start a node and let its loop make these turns from `start` on. -/
def runPlan (plan : NodePlan) (start : Instant) (turns : List Turn) : Except NodeError NodeRun := do
  let (node, started) ← launch plan
  let (node, lines, ending) := node.turns plan start (Pace.start? start plan.period) turns
  return ⟨node, ending, plan.loadedLine :: started ++ lines ++ node.closing ending⟩

/-- So many turns that take no time, each of them on time. -/
def onTime (period : Duration) : Nat → Instant → List Turn
  | 0, _ => []
  | count + 1, now =>
    ⟨now, now, 0, now⟩ :: match now.after? period with
      | none => []
      | some later => onTime period count later

/-- Run the program with the given arguments after its name, on a clock that
starts at zero and is always on time.  A run without end is cut before its first
tick. -/
def run (files : String → Except ReadFault ByteArray) (arguments : List String) :
    ProgramOutput :=
  match CommandLine.read arguments with
  | .error error => { code := 2, stderr := [error.message] }
  | .ok .help => { code := 0, stdout := CommandLine.helpLines }
  | .ok (.run options) =>
    let outcome := do
      let plan ← NodePlan.ofOptions files options
      runPlan plan .zero (onTime plan.period (plan.tickCount?.getD 0) .zero)
    match outcome with
    | .error error => { code := 1, stderr := error.report }
    | .ok run => run.output options.verbose

end Node
end MotionControl
