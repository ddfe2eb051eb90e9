import MotionControl.Node

/-!
# The program

Reads arguments and files, keeps the time between ticks and prints the log.
-/

namespace MotionControl

/-- The bytes of a file on disk. -/
def readDisk (path : String) : IO (Except ReadFault ByteArray) := do
  if path.contains '\x00' then return .error .nulInName
  try
    return .ok (← IO.FS.readBinFile path)
  catch error =>
    return .error <| match error with
      | .noFileOrDirectory .. => .missing
      | .inappropriateType _ code _ => if code = 21 then .isDirectory else .notDirectory
      | error => .other (toString error)

/-- Print the lines that are shown. -/
def printLog (verbose : Bool) (lines : List LogLine) : IO Unit :=
  for line in lines.filter (LogLine.shown verbose) do
    IO.println line.render

/-- The monotonic clock of the host, whose readings stay far from the last instant. -/
def clock : IO Instant :=
  return .atMost (← IO.monoNanosNow)

/-- The longest sleep that is asked for at once, in milliseconds: a day. -/
def longestSleep : Nat :=
  86400000

/-- Sleep until the clock shows the instant, however far it is. -/
partial def sleepUntil (due : Instant) : IO Unit := do
  let now ← clock
  if now < due then
    let milliseconds := ((due.since now).nanoseconds + 999999) / 1000000
    IO.sleep (UInt32.ofNat (min milliseconds longestSleep))
    sleepUntil due

/-- Tick at the planned rate until the run time is over, or until there is no
instant for the next deadline. -/
partial def loop (plan : NodePlan) (verbose : Bool) (start : Instant) (node : Node) :
    Option Pace → IO (Node × Ending)
  | none => return (node, .aborted)
  | some pace => do
    let checked ← clock
    if plan.isOver start checked then return (node, .finished)
    let began ← clock
    let (node, lines) := node.tick (began.since pace.last) 0
    printLog verbose lines
    let elapsed := (← clock).since began
    let node := node.timed (began.since pace.last) elapsed
    let ended ← clock
    sleepUntil pace.due
    loop plan verbose start node (pace.next? plan.period ⟨checked, began, elapsed, ended⟩)

/-- Start a node from its options and run it to its end. -/
def runNode (options : CommandLine.Options) : IO (Except NodeError Ending) := do
  let contents ← match options.config with
    | some path => readDisk path
    | none => pure (.error .missing)
  match NodePlan.ofOptions (fun _ => contents) options with
  | .error error => return .error error
  | .ok plan =>
    match Node.launch plan with
    | .error error => return .error error
    | .ok (node, started) =>
      printLog options.verbose (plan.loadedLine :: started)
      let start ← clock
      let (node, ending) ← loop plan options.verbose start node (Pace.start? start plan.period)
      if ending = .finished then printLog options.verbose node.finish
      return .ok ending

end MotionControl

open MotionControl in
def main (arguments : List String) : IO UInt32 := do
  match CommandLine.read arguments with
  | .error error =>
    IO.eprintln error.message
    return 2
  | .ok .help =>
    for line in CommandLine.helpLines do IO.println line
    return 0
  | .ok (.run options) =>
    match ← runNode options with
    | .error error =>
      for line in error.report do IO.eprintln line
      return 1
    | .ok .finished => return 0
    | .ok .aborted =>
      IO.eprintln NodeRun.abortMessage
      return 101
