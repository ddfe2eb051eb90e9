import Mathlib.Data.List.Chain
import MotionControl.Proofs.Controller.Tally
import MotionControl.Proofs.Controller.Writers

/-!
# Paused controllers

A paused controller goes on to publish the pose of its plant and to take events, but
nothing reaches the plant and nothing is counted.  `Stage.IsSuspended` says so of one
operation; only a start and a resumption are excepted, so it holds of each operation of
every run without these.

The log reports the switch.  An operation logs the position of the switch exactly if it
changes it (`perform_log`), so in the log of a run pauses and resumptions alternate, and
the last of them is the position that the switch has.
-/

namespace MotionControl

/-- The operations that can be carried out on a paused controller without touching its
plant: all but a start, which synchronises it, and a resumption. -/
def Operation.keepsPause {α : Type} : Operation α → Bool
  | .start | .resume => false
  | .stop | .update _ _ | .measure | .pause | .reconfigure _ _ | .event _ _ => true

/-- The operations that work the switch. -/
def Operation.isSwitching {α : Type} : Operation α → Bool
  | .pause | .resume => true
  | .start | .stop | .update _ _ | .measure | .reconfigure _ _ | .event _ _ => false

namespace LogEntry

variable {α : Type}

/-- The entry reports the switch. -/
def isSwitch : LogEntry α → Bool
  | .paused | .resumed => true
  | .created .. | .started .. | .stopped .. | .reconfigured .. | .wrongFrame ..
  | .unusablePose _ | .unusableTwist _ => false

/-- The entry that reports a position of the switch. -/
def ofSwitch (paused : Bool) : LogEntry α :=
  if paused then .paused else .resumed

theorem ofSwitch_injective : Function.Injective (ofSwitch : Bool → LogEntry α) := by
  intro first second same
  cases first <;> cases second <;> first | rfl | cases same

end LogEntry

namespace Controller

variable {α σ π : Type}

section Statements

variable [Scalar α] [Plant α σ] [Sink α π]

/-- What one operation of a paused controller does.  The plant keeps its state, and a
plant that records its calls shows no new one; the counters stand still; the target
changes by events that take effect and by nothing else; and an update succeeds, publishes
the pose of the plant once and records it. -/
structure Stage.IsSuspended (stage : Stage α σ π) : Prop where
  paused_eq : stage.after.paused = true
  plant_eq : stage.after.plant = stage.before.plant
  stats_eq : stage.after.stats = stage.before.stats
  targeted : stage.after.reference.target ≠ stage.before.reference.target →
    ∃ event now, stage.operation = .event event now ∧
      event.TakesEffect stage.before.reference.baseLink
  updated : ∀ period elapsed, stage.operation = .update period elapsed →
    stage.report.answer = .done ∧
      stage.after.sink = Sink.publish stage.before.sink (Plant.pose stage.before.plant) ∧
      stage.after.reference.lastPublished = Plant.pose stage.before.plant

/-- A run that does nothing to the plant and the counters, operation by operation. -/
structure IsSuspended (c : Controller α σ π) (operations : List (Operation α)) : Prop where
  paused_eq : (c.run operations).1.paused = true
  plant_eq : (c.run operations).1.plant = c.plant
  stats_eq : (c.run operations).1.stats = c.stats
  stages : ∀ stage ∈ c.stages operations, stage.IsSuspended

/-- Updates between a pause and a resumption. -/
def interlude (updates : List (Duration × Duration)) : List (Operation α) :=
  .pause :: (updates.map (fun update => .update update.1 update.2) ++ [.resume])

/-- The pauses and resumptions that a run logs, in order. -/
def switchLog (c : Controller α σ π) (operations : List (Operation α)) : List (LogEntry α) :=
  ((c.run operations).2.flatMap Report.log).filter LogEntry.isSwitch

/-- The log of a run against the switch.  Pauses and resumptions alternate; if the
controller was running before, the first of them is a pause, and it is paused in the end
exactly if the last of them is one.  No other operation moves the switch. -/
structure IsSwitched (c : Controller α σ π) (operations : List (Operation α)) : Prop where
  alternate : (c.switchLog operations).IsChain (· ≠ ·)
  first : c.paused = false → ∀ entry ∈ (c.switchLog operations).head?, entry = .paused
  paused_iff : c.paused = false →
    ((c.run operations).1.paused = true ↔ (c.switchLog operations).getLast? = some .paused)
  unmoved : ∀ stage ∈ c.stages operations, stage.operation.isSwitching = false →
    stage.after.paused = stage.before.paused

end Statements

variable [Scalar α] [Plant α σ] [Sink α π]

/-! ## Operations of a paused controller -/

theorem exists_event_of_target_ne {c : Controller α σ π} {operation : Operation α}
    (keeps : operation.keepsPause = true)
    (changed : (c.perform operation).1.reference.target ≠ c.reference.target) :
    ∃ event now, operation = .event event now ∧ event.TakesEffect c.reference.baseLink := by
  by_contra none
  refine changed (perform_target_of_not fun pose retargets => none ?_)
  cases retargets with
  | start synced => cases keeps
  | event sets => exact ⟨_, _, rfl, sets.takesEffect⟩

theorem perform_isSuspended {c : Controller α σ π} (paused : c.paused = true)
    {operation : Operation α} (keeps : operation.keepsPause = true) :
    (c.stage operation).IsSuspended := by
  have still {next : Controller α σ π} (reached : (c.perform operation).1 = next)
      (other : ∀ period elapsed, operation ≠ .update period elapsed)
      (flag : next.paused = true) (plant : next.plant = c.plant)
      (stats : next.stats = c.stats) : (c.stage operation).IsSuspended := by
    have after : (c.stage operation).after = next := reached
    exact {
      paused_eq := by rw [after, flag]
      plant_eq := by rw [after, plant]; rfl
      stats_eq := by rw [after, stats]; rfl
      targeted := exists_event_of_target_ne keeps
      updated := fun period elapsed same => absurd same (other period elapsed) }
  cases operation with
  | start | resume => cases keeps
  | update period elapsed =>
      have updated := update_of_paused paused period elapsed
      have after : (c.stage (.update period elapsed)).after = c.measure.1 :=
        congrArg Prod.fst updated
      have answer : (c.stage (.update period elapsed)).report.answer = .done := by
        change plantAnswer (c.update period elapsed).2 = .done
        rw [updated]
        rfl
      exact {
        paused_eq := by rw [after]; exact paused
        plant_eq := by rw [after]; rfl
        stats_eq := by rw [after]; rfl
        targeted := exists_event_of_target_ne keeps
        updated := fun _ _ _ => ⟨answer, by rw [after]; rfl, by rw [after]; rfl⟩ }
  | reconfigure iterations errorScale =>
      cases checked : (c.retuned iterations errorScale).check with
      | ok settings =>
          exact still (congrArg Prod.fst (perform_reconfigure_of_ok checked)) (by simp) paused
            rfl rfl
      | error problem =>
          exact still (congrArg Prod.fst (perform_reconfigure_of_error checked)) (by simp) paused
            rfl rfl
  | pause => exact still rfl (by simp) rfl rfl rfl
  | stop | measure | event => exact still rfl (by simp) paused rfl rfl

theorem run_isSuspended {c : Controller α σ π} (paused : c.paused = true)
    {operations : List (Operation α)}
    (keep : ∀ operation ∈ operations, operation.keepsPause = true) : c.IsSuspended operations := by
  induction operations generalizing c with
  | nil => exact ⟨paused, rfl, rfl, fun stage member => absurd member List.not_mem_nil⟩
  | cons operation rest inductionHypothesis =>
      have first := perform_isSuspended paused (keep operation List.mem_cons_self)
      have others := inductionHypothesis first.paused_eq fun later member =>
        keep later (List.mem_cons_of_mem operation member)
      exact {
        paused_eq := others.paused_eq
        plant_eq := others.plant_eq.trans first.plant_eq
        stats_eq := others.stats_eq.trans first.stats_eq
        stages := List.forall_mem_cons.mpr ⟨first, others.stages⟩ }

/-! ## Updates between a pause and a resumption -/

theorem run_updates_of_paused {c : Controller α σ π} (paused : c.paused = true)
    (update : Duration × Duration) (rest : List (Duration × Duration)) :
    (c.run ((update :: rest).map fun update => .update update.1 update.2)).1 =
      { c with
        reference := { c.reference with lastPublished := Plant.pose c.plant }
        sink := (List.replicate (rest.length + 1) (Plant.pose c.plant)).foldl Sink.publish
          c.sink } := by
  induction rest generalizing c update with
  | nil => exact congrArg Prod.fst (update_of_paused paused update.1 update.2)
  | cons next rest inductionHypothesis =>
      have first : (c.perform (.update update.1 update.2)).1 = c.measure.1 :=
        congrArg Prod.fst (update_of_paused paused update.1 update.2)
      have measured : c.measure.1.paused = true := paused
      rw [List.map_cons, run_cons, first, inductionHypothesis measured next]
      rfl

/-- An interlude leaves nothing behind but publications; the controller is running then,
whether it was before or not. -/
theorem run_interlude (c : Controller α σ π) {updates : List (Duration × Duration)}
    (several : updates ≠ []) :
    (c.run (interlude updates)).1 =
      { c with
        paused := false
        reference := { c.reference with lastPublished := Plant.pose c.plant }
        sink := (List.replicate updates.length (Plant.pose c.plant)).foldl Sink.publish
          c.sink } := by
  cases updates with
  | nil => exact absurd rfl several
  | cons update rest =>
      have halted : c.pause.1.paused = true := rfl
      have updated := run_updates_of_paused halted update rest
      rw [interlude, run_cons, run_append]
      change ((c.pause.1.run _).1.resume).1 = _
      rw [updated]
      rfl

/-! ## The log of the switch -/

/-- Handling an event reports no switch. -/
theorem handle_log (reference : Reference α) (event : Event α) (now : ℕ) :
    (reference.handle event now).2.2.filter LogEntry.isSwitch = [] := by
  have warned {entry : ℕ → LogEntry α} (warning : ∀ n, (entry n).isSwitch = false)
      (admitted : Option ℕ) : (admitted.toList.map entry).filter LogEntry.isSwitch = [] := by
    cases admitted with
    | none => rfl
    | some n => exact List.filter_cons_of_neg (by rw [warning]; exact Bool.false_ne_true)
  cases event with
  | targetPose message =>
      simp only [Reference.handle, Reference.onTargetPose]
      split
      · exact warned (fun _ => rfl) _
      · split
        · rfl
        · exact warned (fun _ => rfl) _
  | twist command =>
      simp only [Reference.handle, Reference.onTwist]
      split
      · rfl
      · exact warned (fun _ => rfl) _
  | setTarget pose => rfl

theorem perform_paused {c : Controller α σ π} {operation : Operation α}
    (other : operation.isSwitching = false) : (c.perform operation).1.paused = c.paused := by
  cases operation with
  | pause | resume => cases other
  | start =>
      cases synced : Plant.sync c.plant with
      | mk plant result =>
          cases result with
          | ok done => rw [perform_start_of_synced synced]
          | error fault => rw [perform_start_of_fault synced]
  | update period elapsed => exact update_paused c period elapsed
  | reconfigure iterations errorScale =>
      cases checked : (c.retuned iterations errorScale).check with
      | ok settings => rw [perform_reconfigure_of_ok checked]
      | error problem => rw [perform_reconfigure_of_error checked]
  | stop | measure | event => rfl

theorem perform_log_of_not {c : Controller α σ π} {operation : Operation α}
    (other : operation.isSwitching = false) :
    (c.perform operation).2.log.filter LogEntry.isSwitch = [] := by
  cases operation with
  | pause | resume => cases other
  | start =>
      cases synced : Plant.sync c.plant with
      | mk plant result =>
          cases result with
          | ok done => rw [perform_start_of_synced synced]; rfl
          | error fault => rw [perform_start_of_fault synced]; rfl
  | reconfigure iterations errorScale =>
      cases checked : (c.retuned iterations errorScale).check with
      | ok settings => rw [perform_reconfigure_of_ok checked]; rfl
      | error problem => rw [perform_reconfigure_of_error checked]; rfl
  | event event now => exact handle_log c.reference event now
  | stop | update | measure => rfl

/-- An operation reports the position of the switch exactly if it changes it. -/
theorem perform_log (c : Controller α σ π) (operation : Operation α) :
    (c.perform operation).2.log.filter LogEntry.isSwitch =
      if (c.perform operation).1.paused = c.paused then []
      else [.ofSwitch (c.perform operation).1.paused] := by
  cases switching : operation.isSwitching with
  | false => rw [perform_log_of_not switching, if_pos (perform_paused switching)]
  | true =>
      cases operation with
      | pause => cases switch : c.paused <;> simp [perform, pause, switch, LogEntry.isSwitch,
          LogEntry.ofSwitch]
      | resume => cases switch : c.paused <;> simp [perform, resume, switch, LogEntry.isSwitch,
          LogEntry.ofSwitch]
      | start | stop | update | measure | reconfigure | event => cases switching

theorem switchLog_cons (c : Controller α σ π) (operation : Operation α)
    (rest : List (Operation α)) :
    c.switchLog (operation :: rest) =
      (c.perform operation).2.log.filter LogEntry.isSwitch ++
        (c.perform operation).1.switchLog rest := by
  rw [switchLog, switchLog, ← List.filter_append]
  rfl

/-- With the first position of the switch in front, the log of a run is the course of the
switch: it never repeats a position, and it ends with the last one. -/
theorem course_of_switch (c : Controller α σ π) (operations : List (Operation α)) :
    (.ofSwitch c.paused :: c.switchLog operations).IsChain (· ≠ ·) ∧
      (.ofSwitch c.paused :: c.switchLog operations).getLast? =
        some (.ofSwitch (c.run operations).1.paused) := by
  induction operations generalizing c with
  | nil => exact ⟨.singleton _, rfl⟩
  | cons operation rest inductionHypothesis =>
      have others := inductionHypothesis (c.perform operation).1
      rw [switchLog_cons, perform_log, run_cons]
      by_cases same : (c.perform operation).1.paused = c.paused
      · rw [if_pos same, List.nil_append, ← same]
        exact others
      · have moved : (.ofSwitch c.paused : LogEntry α) ≠ .ofSwitch (c.perform operation).1.paused :=
          fun equal => same (LogEntry.ofSwitch_injective equal).symm
        rw [if_neg same, List.singleton_append, List.getLast?_cons_cons]
        exact ⟨.cons_cons moved others.1, others.2⟩

theorem stages_unmoved (c : Controller α σ π) (operations : List (Operation α)) :
    ∀ stage ∈ c.stages operations, stage.operation.isSwitching = false →
      stage.after.paused = stage.before.paused := by
  induction operations generalizing c with
  | nil => exact fun stage member => absurd member List.not_mem_nil
  | cons operation rest inductionHypothesis =>
      exact List.forall_mem_cons.mpr
        ⟨fun other => perform_paused other, inductionHypothesis (c.perform operation).1⟩

theorem run_isSwitched (c : Controller α σ π) (operations : List (Operation α)) :
    c.IsSwitched operations := by
  rcases course_of_switch c operations with ⟨chain, last⟩
  rw [List.getLast?_cons, Option.some.injEq] at last
  have resumed : c.paused = false → (.ofSwitch c.paused : LogEntry α) = .resumed := fun running => by
    rw [running]
    rfl
  refine ⟨chain.tail, ?_, ?_, stages_unmoved c operations⟩
  · intro running entry head
    rw [resumed running] at chain
    have different := (List.isChain_cons.mp chain).1 entry head
    have reports := (List.mem_filter.mp (List.mem_of_mem_head? head)).2
    cases entry with
    | paused => rfl
    | resumed => exact absurd rfl different
    | created | started | stopped | reconfigured | wrongFrame | unusablePose | unusableTwist =>
        cases reports
  · intro running
    rw [resumed running] at last
    constructor
    · intro paused
      rw [paused] at last
      cases ended : (c.switchLog operations).getLast? with
      | none =>
          rw [ended] at last
          cases last
      | some entry =>
          rw [ended] at last
          exact congrArg some last
    · intro ended
      rw [ended] at last
      exact LogEntry.ofSwitch_injective last.symm

/-! ## The whole law -/

/-- The law of the pause, whichever calls of the plant would fail.  A run of a paused
controller without a start and a resumption does nothing to the plant and the counters;
updates between a pause and a resumption leave the controller running and otherwise as it
was, but for their publications; and the log tells the course of the switch, which is off
in every new controller. -/
theorem pausing_isSuspension (c : Controller α (Recorded α σ) π) :
    (∀ operations, c.paused = true →
      (∀ operation ∈ operations, operation.keepsPause = true) → c.IsSuspended operations) ∧
    (∀ updates, updates ≠ [] →
      (c.run (interlude updates)).1 =
        { c with
          paused := false
          reference := { c.reference with lastPublished := Plant.pose c.plant }
          sink := (List.replicate updates.length (Plant.pose c.plant)).foldl Sink.publish
            c.sink }) ∧
    (∀ operations, c.IsSwitched operations) ∧
    ∀ config plant sink, create config plant sink = .ok c → c.paused = false := by
  refine ⟨fun operations paused keep => run_isSuspended paused keep,
    fun updates several => run_interlude c several, run_isSwitched c, ?_⟩
  intro config plant sink created
  rcases exists_settings_of_create created with ⟨settings, -, made⟩
  rw [made]

/-- An update, a twist, a reconfiguration that is carried out and one that is not, a second
pause, and an update again. -/
def suspendedRun : List (Operation Float) :=
  [.update ⟨20000000⟩ 0, .event (.twist ⟨⟨1, 0, 0⟩, 0⟩) 0, .reconfigure 5 2, .reconfigure 0 2, .pause,
    .measure, .update 0 0]

theorem pausing_isSuspension_overFailingPlant :
    create (.position 3) overFailingPlant.plant overFailingPlant.sink = .ok overFailingPlant ∧
      overFailingPlant.paused = false ∧ overFailingPlant.pause.1.paused = true ∧
      (∀ operation ∈ suspendedRun, operation.keepsPause = true) ∧
      overFailingPlant.pause.1.IsSuspended suspendedRun ∧
      (overFailingPlant.pause.1.run suspendedRun).1.sink.poses.length = 3 ∧
      (overFailingPlant.run (interlude [(0, 0), (⟨20000000⟩, 0)])).1 =
        { overFailingPlant with
          reference := { overFailingPlant.reference with lastPublished := .identity }
          sink := ⟨[.identity, .identity]⟩ } := by
  have created : create (.position 3) overFailingPlant.plant overFailingPlant.sink =
      .ok overFailingPlant := by
    rw [create, position_checks]
    rfl
  have keep : ∀ operation ∈ suspendedRun, operation.keepsPause = true := by
    simp [suspendedRun, Operation.keepsPause]
  exact ⟨created, (pausing_isSuspension overFailingPlant).2.2.2 _ _ _ created, rfl, keep,
    (pausing_isSuspension overFailingPlant.pause.1).1 _ rfl keep, by decide +kernel,
    (pausing_isSuspension overFailingPlant).2.1 _ (by simp)⟩

end Controller
end MotionControl
