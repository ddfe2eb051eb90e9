import MotionControl.ControlLoop
import MotionControl.Reference
import MotionControl.Sink

/-!
# Controllers

A controller runs the control loop over a plant, a sink and the reference that it
shares with the event sources, and starts, pauses and tunes it.  The wall time
that a tick took is an argument: it enters the statistics and nothing else.
-/

namespace MotionControl

/-- Counters of the control loop. -/
structure Stats where
  /-- Updates while not paused, whether they succeeded or not. -/
  ticks : Nat := 0
  /-- Steps of the plant that succeeded. -/
  substeps : Nat := 0
  failedTicks : Nat := 0
  /-- Updates that took longer than their period; a period of zero never
  counts. -/
  overruns : Nat := 0
  lastTick : Duration := 0
  maxTick : Duration := 0
  deriving DecidableEq

namespace Stats

def count (stats : Stats) (failed : Bool) : Stats :=
  { stats with
    ticks := stats.ticks + 1
    failedTicks := if failed then stats.failedTicks + 1 else stats.failedTicks }

/-- Record the wall time of the latest tick, made for the given period. -/
def time (stats : Stats) (period elapsed : Duration) : Stats :=
  { stats with
    overruns := if 0 < period ∧ period < elapsed then stats.overruns + 1 else stats.overruns
    lastTick := elapsed
    maxTick := max stats.maxTick elapsed }

end Stats

/-- A controller over a plant with states `σ` and a sink with states `π`. -/
structure Controller (α σ π : Type) where
  config : Config α
  /-- The settings that `config` checks to. -/
  settings : Settings α
  plant : σ
  sink : π
  reference : Reference α
  paused : Bool := false
  stats : Stats := {}

namespace Controller

variable {α σ π : Type} [Scalar α] [Plant α σ] [Sink α π]

/-- The entry that reports a new controller. -/
def creation (config : Config α) : LogEntry α :=
  .created config.robotBaseLink config.endEffectorLink config.interface config.substeps

/-- A controller whose target starts at the plant's current pose. -/
def create (config : Config α) (plant : σ) (sink : π) :
    Except (ConfigError α) (Controller α σ π) := do
  let settings ← config.check
  return {
    config := config
    settings := settings
    plant := plant
    sink := sink
    reference :=
      .create config.robotBaseLink (Plant.pose plant) settings.warnThrottle }

/-- Take over the real joint state and start where we are: target and last
published pose become the pose of the plant.  If the plant fails to
synchronise, nothing else changes. -/
def start (c : Controller α σ π) :
    Controller α σ π × Except (Fault α) Unit × List (LogEntry α) :=
  match Plant.sync c.plant with
  | (plant, .error fault) => ({ c with plant := plant }, .error fault, [])
  | (plant, .ok ()) =>
    let pose := Plant.pose plant
    ({ c with plant := plant, reference := c.reference.resync pose }, .ok (),
      [.started pose.position c.config.interface])

def stop (c : Controller α σ π) : List (LogEntry α) :=
  [.stopped c.stats.ticks c.stats.failedTicks c.stats.overruns]

instance : Workcell α (Controller α σ π) where
  paused := Controller.paused
  settings := Controller.settings
  pose c := Plant.pose c.plant
  readTarget c := (c, c.reference.target)
  record c pose := { c with reference := c.reference.recordPublished pose }
  publish c pose := { c with sink := Sink.publish c.sink pose }
  synthesize c error period :=
    let (plant, result) := Plant.synthesize c.plant error period
    ({ c with plant := plant }, result)
  write c :=
    let (plant, result) := Plant.write c.plant
    ({ c with plant := plant }, result)
  countSubstep c := { c with stats := { c.stats with substeps := c.stats.substeps + 1 } }
  countTick c failed period elapsed :=
    { c with stats := (c.stats.count failed).time period elapsed }

/-- Record and publish the current pose, and measure the bounded error toward
the target.  The sink gets the pose itself: the message `CurrentPose.ofPose` adds
nothing but the time stamp. -/
def measure (c : Controller α σ π) : Controller α σ π × SpatialVector α :=
  Workcell.measure c

def substep (c : Controller α σ π) : Controller α σ π × Except (Fault α) Unit :=
  Workcell.substep c

def runSubsteps (n : Nat) (c : Controller α σ π) : Controller α σ π × Except (Fault α) Unit :=
  Workcell.runSubsteps n c

def writeCommands (c : Controller α σ π) : Controller α σ π × Except (Fault α) Unit :=
  Workcell.write c

def tick (c : Controller α σ π) : Controller α σ π × Except (Fault α) Unit :=
  Workcell.tick c

/-- Advance one outer cycle of length `period`, which takes `elapsed` of wall
time. -/
def update (c : Controller α σ π) (period elapsed : Duration) :
    Controller α σ π × Except (Fault α) Unit :=
  Workcell.update c period elapsed

/-- Stop synthesising and writing commands. -/
def pause (c : Controller α σ π) : Controller α σ π × List (LogEntry α) :=
  ({ c with paused := true }, if c.paused then [] else [.paused])

def resume (c : Controller α σ π) : Controller α σ π × List (LogEntry α) :=
  ({ c with paused := false }, if c.paused then [.resumed] else [])

/-- Change sub-step count and gain; a change that does not check changes
nothing.  The check makes all settings anew, and all but these two come out as
they were: `Config.Checks.check_retuned`. -/
def reconfigure (c : Controller α σ π) (iterations : UInt32) (errorScale : α) :
    Controller α σ π × Except (ConfigError α) Unit × List (LogEntry α) :=
  let config := { c.config with iterations := iterations, errorScale := errorScale }
  match config.check with
  | .error problem => (c, .error problem, [])
  | .ok settings =>
    ({ c with config := config, settings := settings }, .ok (),
      [.reconfigured iterations errorScale settings.substeps])

def handle (c : Controller α σ π) (event : Event α) (now : Nat) :
    Controller α σ π × Option Outcome × List (LogEntry α) :=
  let (reference, outcome, log) := c.reference.handle event now
  ({ c with reference := reference }, outcome, log)

end Controller
end MotionControl
