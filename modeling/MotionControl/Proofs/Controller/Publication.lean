import MotionControl.Proofs.Controller.Lifecycle
import MotionControl.Proofs.Sink.Observer

/-!
# Publishing and control

A controller hands poses to its sink and reads nothing back.  `silent` is the same
controller over the sink that keeps nothing; taking the sink away commutes with
every operation, so whatever the sink is, a run returns the same reports and
reaches the same plant, the same shared poses, switch, configuration and counters.
The poses published are those that the plant has at the error computations of the
silent run.

A channel whose observer receives or leaves at any moments is one such sink.
-/

namespace MotionControl
namespace Controller

variable {α σ π : Type}

/-- The same controller with another sink. -/
def withSink {π' : Type} (c : Controller α σ π) (sink : π') : Controller α σ π' where
  config := c.config
  settings := c.settings
  plant := c.plant
  sink := sink
  reference := c.reference
  paused := c.paused
  stats := c.stats

/-- The same controller, publishing to nobody. -/
def silent (c : Controller α σ π) : Controller α σ (NullSink α) :=
  c.withSink ⟨⟩

variable [Scalar α] [Plant α σ]

section Poses

variable [Sink α π]

/-- The poses that the plant has at the error computations of a run of sub-steps. -/
def posesOfSubsteps : Nat → Controller α σ π → List (Pose α)
  | 0, _ => []
  | n + 1, c =>
    Plant.pose c.plant ::
      match c.substep with
      | (next, .ok ()) => posesOfSubsteps n next
      | (_, .error _) => []

/-- The poses that the plant has when the operation computes an error. -/
def posesOf (c : Controller α σ π) : Operation α → List (Pose α)
  | .measure => [Plant.pose c.plant]
  | .update _ _ =>
    if c.paused then [Plant.pose c.plant] else c.posesOfSubsteps c.settings.substeps.toNat
  | .start | .stop | .pause | .resume | .reconfigure _ _ | .event _ _ => []

/-- The same for a run. -/
def posesOfRun (c : Controller α σ π) : List (Operation α) → List (Pose α)
  | [] => []
  | operation :: rest => c.posesOf operation ++ (c.perform operation).1.posesOfRun rest

end Poses

variable [Sink α π]

/-! ## The silent run -/

theorem silent_substep (c : Controller α σ π) :
    Prod.map silent id c.substep = c.silent.substep := by
  rw [substep_eq, substep_eq]
  have asked : Plant.synthesize c.silent.plant c.silent.request c.silent.settings.internalPeriod =
      Plant.synthesize c.plant c.request c.settings.internalPeriod := rfl
  rw [asked]
  cases Plant.synthesize c.plant c.request c.settings.internalPeriod with
  | mk plant result =>
      cases result with
      | ok done => rfl
      | error fault => rfl

theorem silent_runSubsteps (n : Nat) (c : Controller α σ π) :
    Prod.map silent id (c.runSubsteps n) = c.silent.runSubsteps n := by
  induction n generalizing c with
  | zero => rfl
  | succ n inductionHypothesis =>
      rw [runSubsteps_succ, runSubsteps_succ, ← silent_substep]
      cases c.substep with
      | mk next result =>
          cases result with
          | ok done => exact inductionHypothesis next
          | error fault => rfl

theorem silent_tick (c : Controller α σ π) : Prod.map silent id c.tick = c.silent.tick := by
  have steps := silent_runSubsteps c.settings.substeps.toNat c
  have settings : c.silent.settings = c.settings := rfl
  rw [tick_eq, tick_eq, settings, ← steps]
  cases c.runSubsteps c.settings.substeps.toNat with
  | mk next result =>
      cases result with
      | ok done => rfl
      | error fault => rfl

theorem silent_update (c : Controller α σ π) (period elapsed : Duration) :
    Prod.map silent id (c.update period elapsed) = c.silent.update period elapsed := by
  cases switch : c.paused with
  | true =>
      have paused : c.silent.paused = true := switch
      rw [update_of_paused switch, update_of_paused paused]
      rfl
  | false =>
      have running : c.silent.paused = false := switch
      rw [update_of_running switch, update_of_running running, ← silent_tick]
      rfl

/-- Taking the sink away commutes with every operation. -/
theorem silent_perform (c : Controller α σ π) (operation : Operation α) :
    Prod.map silent id (c.perform operation) = c.silent.perform operation := by
  cases operation with
  | start =>
      cases synced : Plant.sync c.plant with
      | mk plant result =>
          have silentSynced : Plant.sync c.silent.plant = (plant, result) := synced
          cases result with
          | ok done =>
              rw [perform_start_of_synced synced, perform_start_of_synced silentSynced]
              rfl
          | error fault =>
              rw [perform_start_of_fault synced, perform_start_of_fault silentSynced]
              rfl
  | update period elapsed =>
      have updated := silent_update c period elapsed
      simp only [perform, ← updated]
      rfl
  | reconfigure iterations errorScale =>
      cases checked : (c.retuned iterations errorScale).check with
      | ok settings =>
          have silentChecked : (c.silent.retuned iterations errorScale).check = .ok settings :=
            checked
          rw [perform_reconfigure_of_ok checked, perform_reconfigure_of_ok silentChecked]
          rfl
      | error problem =>
          have silentChecked : (c.silent.retuned iterations errorScale).check = .error problem :=
            checked
          rw [perform_reconfigure_of_error checked, perform_reconfigure_of_error silentChecked]
          rfl
  | stop | measure | pause | resume | event => rfl

theorem silent_run (c : Controller α σ π) (operations : List (Operation α)) :
    (c.run operations).1.silent = (c.silent.run operations).1 ∧
      (c.run operations).2 = (c.silent.run operations).2 := by
  induction operations generalizing c with
  | nil => exact ⟨rfl, rfl⟩
  | cons operation rest inductionHypothesis =>
      have here := silent_perform c operation
      have next : (c.perform operation).1.silent = (c.silent.perform operation).1 :=
        congrArg Prod.fst here
      have report : (c.perform operation).2 = (c.silent.perform operation).2 :=
        congrArg Prod.snd here
      rcases inductionHypothesis (c.perform operation).1 with ⟨state, reports⟩
      rw [next] at state reports
      exact ⟨state, congr (congrArg List.cons report) reports⟩

/-! ## What the sink receives -/

theorem runSubsteps_sink (n : Nat) (c : Controller α σ π) :
    (c.runSubsteps n).1.sink = (c.silent.posesOfSubsteps n).foldl Sink.publish c.sink := by
  induction n generalizing c with
  | zero => rfl
  | succ n inductionHypothesis =>
      have sent := substep_sink c
      rw [runSubsteps_succ, posesOfSubsteps, ← silent_substep]
      cases stepped : c.substep with
      | mk next result =>
          rw [stepped] at sent
          cases result with
          | ok done =>
              change (next.runSubsteps n).1.sink = _
              rw [inductionHypothesis, sent]
              rfl
          | error fault => exact sent

/-- The write publishes nothing. -/
theorem tick_sink (c : Controller α σ π) :
    c.tick.1.sink = (c.runSubsteps c.settings.substeps.toNat).1.sink := by
  rw [tick_eq]
  cases c.runSubsteps c.settings.substeps.toNat with
  | mk next result =>
      cases result with
      | ok done => rfl
      | error fault => rfl

theorem perform_sink (c : Controller α σ π) (operation : Operation α) :
    (c.perform operation).1.sink = (c.silent.posesOf operation).foldl Sink.publish c.sink := by
  cases operation with
  | start =>
      cases synced : Plant.sync c.plant with
      | mk plant result =>
          cases result with
          | ok done => rw [perform_start_of_synced synced]; rfl
          | error fault => rw [perform_start_of_fault synced]; rfl
  | update period elapsed =>
      change (c.update period elapsed).1.sink = _
      cases switch : c.paused with
      | true =>
          have paused : c.silent.paused = true := switch
          rw [update_of_paused switch, posesOf, paused]
          rfl
      | false =>
          have running : c.silent.paused = false := switch
          rw [update_of_running switch, posesOf, running]
          exact (tick_sink c).trans (runSubsteps_sink c.settings.substeps.toNat c)
  | reconfigure iterations errorScale =>
      cases checked : (c.retuned iterations errorScale).check with
      | ok settings => rw [perform_reconfigure_of_ok checked]; rfl
      | error problem => rw [perform_reconfigure_of_error checked]; rfl
  | stop | measure | pause | resume | event => rfl

/-- Whatever the sink is, it receives the poses of the silent run, in order. -/
theorem run_sink (c : Controller α σ π) (operations : List (Operation α)) :
    (c.run operations).1.sink =
      (c.silent.posesOfRun operations).foldl Sink.publish c.sink := by
  induction operations generalizing c with
  | nil => rfl
  | cons operation rest inductionHypothesis =>
      have next : (c.perform operation).1.silent = (c.silent.perform operation).1 :=
        congrArg Prod.fst (silent_perform c operation)
      change ((c.perform operation).1.run rest).1.sink = _
      rw [posesOfRun, List.foldl_append, ← perform_sink, ← next]
      exact inductionHypothesis (c.perform operation).1

/-! ## A lossy channel -/

omit [Sink α π]

/-- A run over an observed channel against the silent run.  `last` is what the
observer has made of the channel in the end. -/
structure IsUndisturbed (c : Controller α σ (NullSink α)) (operations : List (Operation α))
    (outcome : Controller α σ (Observed α) × List (Report α)) (last : Observed α)
    (capacity : Nat) : Prop where
  /-- Plant, shared poses, switch, configuration and counters are the same. -/
  silent_eq : outcome.1.silent = (c.run operations).1
  reports_eq : outcome.2 = (c.run operations).2
  published_eq : last.sendings.map Sending.pose = c.posesOfRun operations
  delivered_eq : last.received ++ last.queued = last.kept
  delivered_sublist : (last.received ++ last.queued).Sublist (c.posesOfRun operations)
  lost_iff : ∀ sending ∈ last.sendings, sending.isLost = true ↔
    sending.channel.queue.length = capacity ∨ capacity = 0 ∨ sending.channel.connected = false
  /-- Only an observer that has left leaves poses behind. -/
  unread_nil : last.channel.connected = true → last.unread = []

/-- Publishing does not influence control.  Over a channel of any capacity, with an
observer that receives and leaves at any moments, a run is the silent run; and of the
poses that the plant has at its error computations exactly those are delivered
that find room and an observer. -/
theorem run_isUndisturbed (c : Controller α σ π) (capacity : Nat)
    (plan : List (List Observation)) (operations : List (Operation α))
    (ending : List Observation) :
    IsUndisturbed c.silent operations
      ((c.withSink (Observed.create capacity plan)).run operations)
      (((c.withSink (Observed.create capacity plan)).run operations).1.sink.observeAll ending)
      capacity := by
  have poses := run_sink (c.withSink (Observed.create capacity plan)) operations
  have ran := silent_run (c.withSink (Observed.create capacity plan)) operations
  have faithful := ((Observed.create_isFaithful capacity plan).foldl_publish
    (c.silent.posesOfRun operations)).observeAll ending
  have published := Observed.foldl_publish_sendings (Observed.create capacity plan)
    (c.silent.posesOfRun operations)
  rw [← Observed.observeAll_sendings _ ending] at published
  rw [poses]
  exact {
    silent_eq := ran.1
    reports_eq := ran.2
    published_eq := published
    delivered_eq := faithful.delivered_eq
    delivered_sublist := by
      have order := Observed.kept_sublist (Observed.observeAll
        ((c.silent.posesOfRun operations).foldl Observed.publish (Observed.create capacity plan))
        ending)
      rw [published, ← faithful.delivered_eq] at order
      exact order
    lost_iff := by
      intro sending member
      rw [← faithful.sending_capacity sending member]
      exact sending.isLost_iff
    unread_nil := faithful.unread_nil }

end Controller
end MotionControl
