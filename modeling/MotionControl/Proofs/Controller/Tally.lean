import Mathlib.Data.List.Induction
import MotionControl.Proofs.Controller.Lifecycle
import MotionControl.Proofs.Controller.Tick

/-!
# Counters and calls

The counters of a controller, the calls that its plant received and the poses that
its sink was given are three records of one run.  `IsTally` balances them: every
tick makes one write unless a step ended it before, every step that was carried
out is counted once, and a pose is published for each step, for each update while
paused and for each error that was asked for.

The balance is kept by one operation at a time.  `IsAccounted` says what a single
operation adds to each side; only a tick adds to the counters at all.
-/

namespace MotionControl

namespace PlantCall

variable {α : Type}

/-- The answer is a fault. -/
def isFault : Except (Fault α) Unit → Bool
  | .ok () => false
  | .error _ => true

def succeeded (call : PlantCall α) : Bool :=
  !isFault call.result

/-- A step that was carried out. -/
def isDone (call : PlantCall α) : Bool :=
  call.isSynthesize && call.succeeded

/-- A step that failed. -/
def isRefused (call : PlantCall α) : Bool :=
  call.isSynthesize && !call.succeeded

/-- A write that was carried out. -/
def isWritten (call : PlantCall α) : Bool :=
  call.isWrite && call.succeeded

theorem countP_isSynthesize (calls : List (PlantCall α)) :
    calls.countP isSynthesize = calls.countP isDone + calls.countP isRefused := by
  rw [List.countP_eq_countP_filter_add calls isSynthesize succeeded, List.countP_filter,
    List.countP_filter]
  congr 2

end PlantCall

namespace Controller

variable {α σ π : Type}

/-- One operation of a run, with the controllers before and after it. -/
structure Stage (α σ π : Type) where
  before : Controller α σ π
  operation : Operation α
  after : Controller α σ π
  report : Report α

namespace Stage

/-- An update made while not paused. -/
def isTick (stage : Stage α σ π) : Bool :=
  match stage.operation with
  | .update _ _ => !stage.before.paused
  | _ => false

/-- An update made while paused. -/
def isPausedUpdate (stage : Stage α σ π) : Bool :=
  match stage.operation with
  | .update _ _ => stage.before.paused
  | _ => false

/-- An error was asked for. -/
def isMeasurement (stage : Stage α σ π) : Bool :=
  match stage.operation with
  | .measure => true
  | _ => false

/-- A tick that returned a fault. -/
def isFailedTick (stage : Stage α σ π) : Bool :=
  stage.isTick && match stage.report.answer with
    | .fault _ => true
    | _ => false

/-- The calls that the plant received during the operation. -/
def calls (stage : Stage α (Recorded α σ) π) : List (PlantCall α) :=
  stage.after.plant.calls.drop stage.before.plant.calls.length

/-- A tick that a failing step ended. -/
def isAborted (stage : Stage α (Recorded α σ) π) : Bool :=
  stage.isTick && stage.calls.any PlantCall.isRefused

end Stage

/-- The balance of a run: counters, calls and published poses against its
operations. -/
structure IsTally (last : Controller α (Recorded α σ) (PoseHistory α))
    (stages : List (Stage α (Recorded α σ) (PoseHistory α))) : Prop where
  ticks_eq : last.stats.ticks = stages.countP Stage.isTick
  failedTicks_eq : last.stats.failedTicks = stages.countP Stage.isFailedTick
  substeps_eq : last.stats.substeps = last.plant.calls.countP PlantCall.isDone
  steps_eq : last.plant.calls.countP PlantCall.isSynthesize =
    last.stats.substeps + stages.countP Stage.isAborted
  writes_eq : last.plant.calls.countP PlantCall.isWrite + stages.countP Stage.isAborted =
    last.stats.ticks
  written_eq : last.plant.calls.countP PlantCall.isWritten + last.stats.failedTicks =
    last.stats.ticks
  published_eq : last.sink.poses.length = last.plant.calls.countP PlantCall.isSynthesize +
    stages.countP Stage.isPausedUpdate + stages.countP Stage.isMeasurement
  still : ∀ stage ∈ stages, stage.isTick = false → stage.after.stats = stage.before.stats

/-- What one operation adds to the balance. -/
structure IsAccounted (stage : Stage α (Recorded α σ) (PoseHistory α)) : Prop where
  calls_eq : stage.after.plant.calls = stage.before.plant.calls ++ stage.calls
  ticks_eq : stage.after.stats.ticks = stage.before.stats.ticks + stage.isTick.toNat
  failedTicks_eq : stage.after.stats.failedTicks =
    stage.before.stats.failedTicks + stage.isFailedTick.toNat
  substeps_eq : stage.after.stats.substeps =
    stage.before.stats.substeps + stage.calls.countP PlantCall.isDone
  steps_eq : stage.calls.countP PlantCall.isSynthesize =
    stage.calls.countP PlantCall.isDone + stage.isAborted.toNat
  writes_eq : stage.calls.countP PlantCall.isWrite + stage.isAborted.toNat = stage.isTick.toNat
  written_eq : stage.calls.countP PlantCall.isWritten + stage.isFailedTick.toNat =
    stage.isTick.toNat
  published_eq : stage.after.sink.poses.length = stage.before.sink.poses.length +
    stage.calls.countP PlantCall.isSynthesize + stage.isPausedUpdate.toNat +
      stage.isMeasurement.toNat
  still : stage.isTick = false → stage.after.stats = stage.before.stats

theorem countP_snoc {β : Type} (p : β → Bool) (front : List β) (last : β) :
    (front ++ [last]).countP p = front.countP p + (p last).toNat := by
  rw [List.countP_append, List.countP_singleton]
  cases p last <;> rfl

/-- An operation that is accounted for keeps the balance. -/
theorem IsTally.snoc {stages : List (Stage α (Recorded α σ) (PoseHistory α))}
    {stage : Stage α (Recorded α σ) (PoseHistory α)} (tally : IsTally stage.before stages)
    (accounted : IsAccounted stage) : IsTally stage.after (stages ++ [stage]) where
  ticks_eq := by
    rw [accounted.ticks_eq, tally.ticks_eq, countP_snoc]
  failedTicks_eq := by
    rw [accounted.failedTicks_eq, tally.failedTicks_eq, countP_snoc]
  substeps_eq := by
    rw [accounted.substeps_eq, tally.substeps_eq, accounted.calls_eq, List.countP_append]
  steps_eq := by
    have early := tally.steps_eq
    have here := accounted.steps_eq
    have counted := accounted.substeps_eq
    rw [accounted.calls_eq, List.countP_append, countP_snoc]
    omega
  writes_eq := by
    have early := tally.writes_eq
    have here := accounted.writes_eq
    have counted := accounted.ticks_eq
    rw [accounted.calls_eq, List.countP_append, countP_snoc]
    omega
  written_eq := by
    have early := tally.written_eq
    have here := accounted.written_eq
    have counted := accounted.ticks_eq
    have failed := accounted.failedTicks_eq
    rw [accounted.calls_eq, List.countP_append]
    omega
  published_eq := by
    have early := tally.published_eq
    have here := accounted.published_eq
    rw [accounted.calls_eq, List.countP_append, countP_snoc, countP_snoc]
    omega
  still := by
    intro other member idle
    rcases List.mem_append.mp member with inside | inside
    · exact tally.still other inside idle
    · rw [List.mem_singleton.mp inside] at idle ⊢
      exact accounted.still idle

/-! ## The steps of a tick -/

section Steps

variable [Scalar α] [Plant α σ]

theorem countP_isSynthesize_stepCalls (c : Controller α (Recorded α σ) π) (k : Nat) :
    (c.stepCalls k).countP PlantCall.isSynthesize = k := by
  induction k with
  | zero => rfl
  | succ k inductionHypothesis =>
      rw [stepCalls_succ, countP_snoc, inductionHypothesis]
      rfl

/-- A tick has one failing step if it returns the fault of a step, and else none. -/
theorem Halts.countP_isRefused {c : Controller α (Recorded α σ) π} {n k : Nat}
    (halts : c.Halts n k) :
    (c.stepCalls k).countP PlantCall.isRefused =
      (PlantCall.isFault (PlantCall.firstFault (c.stepCalls k))).toNat := by
  have kept {i : Nat} (succeeded : (c.stepCall i).result = .ok ()) :
      ¬ (c.stepCall i).isRefused = true := by
    simp [PlantCall.isRefused, PlantCall.succeeded, succeeded, PlantCall.isFault]
  by_cases succeeded : ∀ i < k, (c.stepCall i).result = .ok ()
  · have ended := (PlantCall.firstFault_eq_ok_iff (c.stepCalls k)).mpr
      ((forall_mem_stepCalls c k fun call => call.result = .ok ()).mpr succeeded)
    rw [ended, List.countP_eq_zero.mpr]
    · rfl
    · exact (forall_mem_stepCalls c k _).mpr fun i inside => kept (succeeded i inside)
  · push Not at succeeded
    rcases succeeded with ⟨last, inside, failed⟩
    have count := halts.failure_last last inside failed
    -- every step before the failing one has succeeded, or it would have been the last
    have early : ∀ i < last, (c.stepCall i).result = .ok () := by
      intro i before
      by_contra failedBefore
      have countBefore := halts.failure_last i (by omega) failedBefore
      omega
    have front := (forall_mem_stepCalls c last fun call => call.result = .ok ()).mpr early
    have none : (c.stepCalls last).countP PlantCall.isRefused = 0 :=
      List.countP_eq_zero.mpr
        ((forall_mem_stepCalls c last _).mpr fun i before => kept (early i before))
    have step : (c.stepCall last).isSynthesize = true := rfl
    rw [← count, stepCalls_succ, countP_snoc, none, PlantCall.firstFault_append _ front]
    cases answer : (c.stepCall last).result with
    | ok done => exact absurd answer failed
    | error problem =>
        simp [PlantCall.firstFault, answer, step, PlantCall.isRefused, PlantCall.succeeded,
          PlantCall.isFault]

theorem any_of_countP {β : Type} {p : β → Bool} {list : List β} {any : Bool}
    (count : list.countP p = any.toNat) : list.any p = any := by
  cases any with
  | false => simpa using count
  | true =>
      have some : 0 < list.countP p := by rw [count]; exact Nat.one_pos
      simpa using List.countP_pos_iff.mp some

/-- What follows the steps of a tick asks for no further step. -/
theorem countP_isSynthesize_writesAfter (c : Controller α (Recorded α σ) π) (k : Nat) :
    (c.writesAfter k).countP PlantCall.isSynthesize = 0 := by
  rw [writesAfter]
  cases PlantCall.firstFault (c.stepCalls k) <;> rfl

theorem countP_isSynthesize_tick (c : Controller α (Recorded α σ) π) (k : Nat) :
    (c.stepCalls k ++ c.writesAfter k).countP PlantCall.isSynthesize = k := by
  rw [List.countP_append, countP_isSynthesize_stepCalls, countP_isSynthesize_writesAfter,
    Nat.add_zero]

theorem Halts.countP_isRefused_tick {c : Controller α (Recorded α σ) π} {n k : Nat}
    (halts : c.Halts n k) :
    (c.stepCalls k ++ c.writesAfter k).countP PlantCall.isRefused =
      (PlantCall.isFault (PlantCall.firstFault (c.stepCalls k))).toNat := by
  have none := countP_isSynthesize_writesAfter c k
  have split := PlantCall.countP_isSynthesize (c.writesAfter k)
  rw [List.countP_append, halts.countP_isRefused]
  omega

theorem countP_isDone_tick (c : Controller α (Recorded α σ) π) (k : Nat) :
    (c.stepCalls k ++ c.writesAfter k).countP PlantCall.isDone =
      (c.stepCalls k).countP PlantCall.isDone := by
  have none := countP_isSynthesize_writesAfter c k
  have split := PlantCall.countP_isSynthesize (c.writesAfter k)
  rw [List.countP_append]
  omega

/-- A tick writes once unless a step ends it before. -/
theorem countP_isWrite_tick (c : Controller α (Recorded α σ) π) (k : Nat) :
    (c.stepCalls k ++ c.writesAfter k).countP PlantCall.isWrite =
      (!PlantCall.isFault (PlantCall.firstFault (c.stepCalls k))).toNat := by
  have none : (c.stepCalls k).countP PlantCall.isWrite = 0 :=
    List.countP_eq_zero.mpr
      ((forall_mem_stepCalls c k _).mpr fun i _ => Bool.false_ne_true)
  rw [List.countP_append, none, Nat.zero_add, writesAfter]
  cases PlantCall.firstFault (c.stepCalls k) <;> rfl

/-- A tick either has a successful write or returns a fault. -/
theorem countP_isWritten_tick (c : Controller α (Recorded α σ) π) (k : Nat) :
    (c.stepCalls k ++ c.writesAfter k).countP PlantCall.isWritten +
      (PlantCall.isFault
        (PlantCall.firstFault (c.stepCalls k ++ c.writesAfter k))).toNat = 1 := by
  have none : (c.stepCalls k).countP PlantCall.isWritten = 0 :=
    List.countP_eq_zero.mpr
      ((forall_mem_stepCalls c k _).mpr fun i _ => Bool.false_ne_true)
  rw [List.countP_append, none, Nat.zero_add]
  cases ended : PlantCall.firstFault (c.stepCalls k) with
  | ok done =>
      rw [PlantCall.firstFault_append _ ((PlantCall.firstFault_eq_ok_iff _).mp ended), writesAfter,
        ended]
      cases answer : (Plant.write (c.plantBefore k)).2 with
      | ok done => rfl
      | error fault => rfl
  | error fault =>
      rw [writesAfter, ended, List.append_nil, ended]
      rfl

variable [Sink α π]

theorem substep_substeps (c : Controller α σ π) :
    c.substep.1.stats.substeps =
      c.stats.substeps + (!PlantCall.isFault c.substep.2).toNat := by
  rw [substep_eq]
  split <;> rfl

theorem afterSubsteps_substeps (c : Controller α (Recorded α σ) π) (k : Nat) :
    (c.afterSubsteps k).stats.substeps =
      c.stats.substeps + (c.stepCalls k).countP PlantCall.isDone := by
  induction k with
  | zero => rfl
  | succ k inductionHypothesis =>
      rw [afterSubsteps_succ, substep_substeps, inductionHypothesis, afterSubsteps_result,
        stepCalls_succ, countP_snoc, Nat.add_assoc]
      rfl

/-- The write changes no counter. -/
theorem tick_stats {c : Controller α (Recorded α σ) π} {k : Nat}
    (halts : c.Halts c.settings.substeps.toNat k) :
    c.tick.1.stats = (c.afterSubsteps k).stats := by
  cases ended : PlantCall.firstFault (c.stepCalls k) with
  | ok done =>
      rw [tick_of_succeeded halts ended]
      rfl
  | error fault => rw [tick_of_failed halts ended]

end Steps

/-! ## One operation -/

section Operations

variable [Scalar α] [Plant α σ] [Sink α π]

/-- The stage of one operation. -/
def stage (c : Controller α σ π) (operation : Operation α) : Stage α σ π :=
  ⟨c, operation, (c.perform operation).1, (c.perform operation).2⟩

/-- The stages of a run, in order. -/
def stages (c : Controller α σ π) : List (Operation α) → List (Stage α σ π)
  | [] => []
  | operation :: rest => c.stage operation :: (c.perform operation).1.stages rest

theorem stages_snoc (c : Controller α σ π) (front : List (Operation α))
    (operation : Operation α) :
    c.stages (front ++ [operation]) = c.stages front ++ [(c.run front).1.stage operation] := by
  induction front generalizing c with
  | nil => rfl
  | cons first rest inductionHypothesis =>
      exact congrArg (c.stage first :: ·) (inductionHypothesis (c.perform first).1)

end Operations

theorem Stage.calls_of_append {stage : Stage α (Recorded α σ) π} {calls : List (PlantCall α)}
    (appended : stage.after.plant.calls = stage.before.plant.calls ++ calls) :
    stage.calls = calls := by
  rw [Stage.calls, appended, List.drop_left]

theorem foldl_publish (poses : List (Pose α)) (history : PoseHistory α) :
    (poses.foldl Sink.publish history).poses = history.poses ++ poses := by
  induction poses generalizing history with
  | nil => exact (List.append_nil _).symm
  | cons pose rest inductionHypothesis =>
      rw [List.foldl_cons, inductionHypothesis]
      exact List.append_assoc _ _ _

variable [Scalar α] [Plant α σ]

/-- An operation that is no tick is accounted for if it leaves the counters alone,
asks nothing of the plant but to synchronise, and publishes once where it has to. -/
theorem isAccounted_of_still {c next : Controller α (Recorded α σ) (PoseHistory α)}
    {operation : Operation α} (performed : (c.perform operation).1 = next)
    (calls : List (PlantCall α)) (idle : (c.stage operation).isTick = false)
    (stats : next.stats = c.stats) (appended : next.plant.calls = c.plant.calls ++ calls)
    (others : ∀ call ∈ calls, call.isSynthesize = false ∧ call.isWrite = false)
    (published : next.sink.poses.length = c.sink.poses.length +
      (c.stage operation).isPausedUpdate.toNat + (c.stage operation).isMeasurement.toNat) :
    IsAccounted (c.stage operation) := by
  have noSteps : calls.countP PlantCall.isSynthesize = 0 :=
    List.countP_eq_zero.mpr fun call member => by simp [(others call member).1]
  have noWrites : calls.countP PlantCall.isWrite = 0 :=
    List.countP_eq_zero.mpr fun call member => by simp [(others call member).2]
  have noneDone : calls.countP PlantCall.isDone = 0 :=
    List.countP_eq_zero.mpr fun call member => by simp [PlantCall.isDone, (others call member).1]
  have noneWritten : calls.countP PlantCall.isWritten = 0 :=
    List.countP_eq_zero.mpr fun call member => by
      simp [PlantCall.isWritten, (others call member).2]
  have unfailed : (c.stage operation).isFailedTick = false := by
    rw [Stage.isFailedTick, idle, Bool.false_and]
  have unaborted : (c.stage operation).isAborted = false := by
    rw [Stage.isAborted, idle, Bool.false_and]
  have reached : (c.stage operation).after = next := performed
  have made : (c.stage operation).calls = calls :=
    Stage.calls_of_append (by rw [reached]; exact appended)
  have before : (c.stage operation).before = c := rfl
  exact {
    calls_eq := by rw [made, reached, appended, before]
    ticks_eq := by rw [reached, stats, idle, before]; rfl
    failedTicks_eq := by rw [reached, stats, unfailed, before]; rfl
    substeps_eq := by rw [reached, stats, made, noneDone, Nat.add_zero, before]
    steps_eq := by rw [made, noSteps, noneDone, unaborted]; rfl
    writes_eq := by rw [made, noWrites, unaborted, idle]; rfl
    written_eq := by rw [made, noneWritten, unfailed, idle]; rfl
    published_eq := by rw [reached, made, noSteps, published, Nat.add_zero, before]
    still := fun _ => by rw [reached, stats, before] }

theorem tick_isAccounted {c : Controller α (Recorded α σ) (PoseHistory α)}
    (running : c.paused = false) (period elapsed : Duration) :
    IsAccounted (c.stage (.update period elapsed)) := by
  rcases exists_halts c c.settings.substeps.toNat with ⟨k, halts, -, -⟩
  have updated := update_of_running running period elapsed
  have ticks : (c.stage (.update period elapsed)).isTick = true := by
    simp [Stage.isTick, stage, running]
  have unpaused : (c.stage (.update period elapsed)).isPausedUpdate = false := by
    simp [Stage.isPausedUpdate, stage, running]
  have appended : (c.stage (.update period elapsed)).after.plant.calls =
      c.plant.calls ++ (c.stepCalls k ++ c.writesAfter k) := by
    change (c.update period elapsed).1.plant.calls = _
    rw [updated]
    exact tick_calls halts
  have made := Stage.calls_of_append appended
  have stats : (c.stage (.update period elapsed)).after.stats =
      ((c.afterSubsteps k).stats.count (PlantCall.isFault c.tick.2)).time period elapsed := by
    change (c.update period elapsed).1.stats = _
    rw [updated, ← tick_stats halts]
    cases c.tick.2 <;> rfl
  -- the steps leave the counters of ticks to the end of the update
  have unchanged := (afterSubsteps_advances c k).stats_eq
  have failed : (c.stage (.update period elapsed)).isFailedTick =
      PlantCall.isFault (PlantCall.firstFault (c.stepCalls k ++ c.writesAfter k)) := by
    have answer : (c.stage (.update period elapsed)).report.answer =
        plantAnswer c.tick.2 := by
      change plantAnswer (c.update period elapsed).2 = _
      rw [updated]
    rw [Stage.isFailedTick, ticks, answer, ← tick_result halts]
    cases c.tick.2 <;> rfl
  have aborted : (c.stage (.update period elapsed)).isAborted =
      PlantCall.isFault (PlantCall.firstFault (c.stepCalls k)) := by
    rw [Stage.isAborted, ticks, Bool.true_and, made]
    exact any_of_countP halts.countP_isRefused_tick
  have published : (c.stage (.update period elapsed)).after.sink.poses.length =
      c.sink.poses.length + k := by
    change (c.update period elapsed).1.sink.poses.length = _
    rw [updated]
    change c.tick.1.sink.poses.length = _
    rw [(tick_outside halts).1, afterSubsteps_sink, foldl_publish, List.length_append, posesBefore,
      List.length_map, List.length_range]
  have steps := countP_isSynthesize_tick c k
  have split := PlantCall.countP_isSynthesize (c.stepCalls k ++ c.writesAfter k)
  exact {
    calls_eq := by rw [made, appended]; rfl
    ticks_eq := by
      rw [stats, ticks, unchanged]
      rfl
    failedTicks_eq := by
      rw [stats, failed, ← tick_result halts, unchanged]
      cases c.tick.2 <;> rfl
    substeps_eq := by
      rw [stats, made, countP_isDone_tick]
      exact afterSubsteps_substeps c k
    steps_eq := by rw [made, aborted, split, halts.countP_isRefused_tick]
    writes_eq := by
      rw [made, aborted, ticks, countP_isWrite_tick]
      cases PlantCall.isFault (PlantCall.firstFault (c.stepCalls k)) <;> rfl
    written_eq := by
      rw [made, failed, ticks, countP_isWritten_tick]
      rfl
    published_eq := by
      rw [published, made, steps, unpaused]
      rfl
    still := by
      intro idle
      rw [ticks] at idle
      cases idle }

theorem perform_isAccounted (c : Controller α (Recorded α σ) (PoseHistory α))
    (operation : Operation α) : IsAccounted (c.stage operation) := by
  have uncalled : ∀ call ∈ ([] : List (PlantCall α)),
      call.isSynthesize = false ∧ call.isWrite = false :=
    fun call member => absurd member List.not_mem_nil
  have unextended : c.plant.calls = c.plant.calls ++ [] := (List.append_nil _).symm
  cases operation with
  | start =>
      cases synced : Plant.sync c.plant with
      | mk plant result =>
          have appended : plant.calls = c.plant.calls ++ [.sync result] := by
            have answered : Plant.sync c.plant =
                c.plant.afterCall (Plant.sync c.plant.plant) .sync := rfl
            rw [answered, Recorded.afterCall, Prod.mk.injEq] at synced
            rw [← synced.1, ← synced.2]
          have others : ∀ call ∈ [(.sync result : PlantCall α)],
              call.isSynthesize = false ∧ call.isWrite = false :=
            List.forall_mem_singleton.mpr ⟨rfl, rfl⟩
          cases result with
          | ok done =>
              exact isAccounted_of_still (congrArg Prod.fst (perform_start_of_synced synced))
                [.sync (.ok done)] rfl rfl appended others rfl
          | error fault =>
              exact isAccounted_of_still (congrArg Prod.fst (perform_start_of_fault synced))
                [.sync (.error fault)] rfl rfl appended others rfl
  | update period elapsed =>
      cases switch : c.paused with
      | false => exact tick_isAccounted switch period elapsed
      | true =>
          have idle : (c.stage (.update period elapsed)).isTick = false := by
            simp [Stage.isTick, stage, switch]
          have paused : (c.stage (.update period elapsed)).isPausedUpdate = true := by
            simp [Stage.isPausedUpdate, stage, switch]
          have updated := congrArg Prod.fst (update_of_paused switch period elapsed)
          refine isAccounted_of_still updated [] idle rfl unextended uncalled ?_
          rw [paused]
          exact List.length_append
  | measure => exact isAccounted_of_still rfl [] rfl rfl unextended uncalled List.length_append
  | reconfigure iterations errorScale =>
      cases checked : (c.retuned iterations errorScale).check with
      | ok settings =>
          exact isAccounted_of_still (congrArg Prod.fst (perform_reconfigure_of_ok checked)) []
            rfl rfl unextended uncalled rfl
      | error problem =>
          exact isAccounted_of_still (congrArg Prod.fst (perform_reconfigure_of_error checked)) []
            rfl rfl unextended uncalled rfl
  | stop | pause | resume | event =>
      exact isAccounted_of_still rfl [] rfl rfl unextended uncalled rfl

theorem create_isTally {config : Config α} {plant : σ}
    {c : Controller α (Recorded α σ) (PoseHistory α)}
    (created : create config ⟨plant, []⟩ ⟨[]⟩ = .ok c) : IsTally c [] := by
  rcases exists_settings_of_create created with ⟨settings, -, made⟩
  rw [made]
  exact ⟨rfl, rfl, rfl, rfl, rfl, rfl, rfl, fun stage member => absurd member List.not_mem_nil⟩

/-- The records of a whole run balance, whichever calls of the plant fail. -/
theorem run_isTally {config : Config α} {plant : σ}
    {c : Controller α (Recorded α σ) (PoseHistory α)}
    (created : create config ⟨plant, []⟩ ⟨[]⟩ = .ok c) (operations : List (Operation α)) :
    IsTally (c.run operations).1 (c.stages operations) := by
  induction operations using List.reverseRec with
  | nil => exact create_isTally created
  | append_singleton front operation inductionHypothesis =>
      rw [stages_snoc, run_append]
      exact inductionHypothesis.snoc (perform_isAccounted (c.run front).1 operation)

/-- A tick that a failing step ends, an update while paused, a measurement, and a
tick that is carried out. -/
def pausedBetween : List (Operation Float) :=
  [.start, .update ⟨20000000⟩ 0, .pause, .update ⟨20000000⟩ 0, .resume, .measure,
    .update ⟨20000000⟩ 0]

theorem run_isTally_overFailingPlant :
    create (.position 3) overFailingPlant.plant overFailingPlant.sink = .ok overFailingPlant ∧
      IsTally (overFailingPlant.run pausedBetween).1 (overFailingPlant.stages pausedBetween) ∧
      (overFailingPlant.run pausedBetween).1.stats.ticks = 2 ∧
      (overFailingPlant.run pausedBetween).1.stats.failedTicks = 1 ∧
      (overFailingPlant.run pausedBetween).1.stats.substeps = 4 := by
  have created : create (.position 3) overFailingPlant.plant overFailingPlant.sink =
      .ok overFailingPlant := by
    rw [create, position_checks]
    rfl
  exact ⟨created, run_isTally created pausedBetween, by decide +kernel⟩

end Controller
end MotionControl
