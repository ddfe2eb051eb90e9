import MotionControl.Proofs.Controller.Lifecycle
import MotionControl.Proofs.Controller.Tick
import MotionControl.Proofs.Reference.Batch

/-!
# The configuration of a running controller

A controller keeps its configuration twice, as it was written down and as the
settings that the loop runs on, and its reference keeps the base frame once
more.  `IsConfigured` says that these copies agree, whatever was done to the
controller, and which configuration they agree on: the first one, with the
sub-step count and the gain of the last reconfiguration that succeeded.  The
same invariant is the reason why a reconfiguration can fail for its own two
values only.
-/

namespace MotionControl

/-- The values of a reconfiguration that was carried out. -/
def Operation.tuning? {α : Type} : Operation α × Report α → Option (UInt32 × α)
  | (.reconfigure iterations errorScale, ⟨.done, _⟩) => some (iterations, errorScale)
  | _ => none

/-- Sub-step count and gain after some operations with their reports: those of
the last reconfiguration that was carried out, or else the first ones. -/
def Operation.lastTuning {α : Type} (first : UInt32 × α) (operations : List (Operation α))
    (reports : List (Report α)) : UInt32 × α :=
  ((operations.zip reports).filterMap tuning?).getLast?.getD first

theorem Operation.lastTuning_cons {α : Type} (first : UInt32 × α) (operation : Operation α)
    (report : Report α) (operations : List (Operation α)) (reports : List (Report α)) :
    lastTuning first (operation :: operations) (report :: reports) =
      lastTuning ((tuning? (operation, report)).getD first) operations reports := by
  rw [lastTuning, lastTuning, List.zip_cons_cons]
  cases tuned : tuning? (operation, report) with
  | none =>
      rw [List.filterMap_cons_none tuned]
      rfl
  | some values =>
      rw [List.filterMap_cons_some tuned, List.getLast?_cons]
      rfl

namespace Controller

variable {α σ π : Type} [Scalar α]

/-- The copies of the configuration agree, it is the first one but for the given
sub-step count and gain, and a reconfiguration fails for its own values only and
then changes nothing at all. -/
structure IsConfigured (first : Config α) (tuning : UInt32 × α) (c : Controller α σ π) :
    Prop where
  config_eq : c.config = { first with iterations := tuning.1, errorScale := tuning.2 }
  validates : c.config.validate = .ok ()
  substeps_eq : c.settings.substeps = c.config.substeps
  one_le_substeps : 1 ≤ c.settings.substeps.toNat
  substeps_velocity : c.config.interface = .velocity → c.settings.substeps = 1
  errorScale_eq : c.settings.errorScale = c.config.errorScale
  limits_eq : c.settings.limits = c.config.limits
  internalPeriod_eq : c.config.internalPeriod? = some c.settings.internalPeriod
  baseLink_eq : c.reference.baseLink = c.config.robotBaseLink
  fails_iff : ∀ iterations errorScale,
    (∃ problem, (c.reconfigure iterations errorScale).2.1 = .error problem) ↔
      iterations = 0 ∨ Scalar.isFinite errorScale = false ∨ errorScale < 0
  failure_eq : ∀ iterations errorScale problem,
    (c.reconfigure iterations errorScale).2.1 = .error problem →
    c.reconfigure iterations errorScale = (c, .error problem, []) ∧
      problem = if iterations = 0 then ⟨.iterations, .zero⟩
        else ⟨.errorScale, .negative errorScale⟩

/-! ## What a reconfiguration can fail for -/

theorem Consistent.check_retuned {c : Controller α σ π} (consistent : c.Consistent)
    (iterations : UInt32) (errorScale : α) :
    (c.retuned iterations errorScale).check =
      if iterations = 0 then .error ⟨.iterations, .zero⟩
      else if !Scalar.isFinite errorScale || errorScale < 0 then
        .error ⟨.errorScale, .negative errorScale⟩
      else .ok { c.settings with
        substeps := c.config.interface.substeps iterations, errorScale := errorScale } :=
  Config.Checks.check_retuned consistent iterations errorScale

theorem Consistent.reconfigure_of_zero {c : Controller α σ π} (consistent : c.Consistent)
    (errorScale : α) :
    c.reconfigure 0 errorScale = (c, .error ⟨.iterations, .zero⟩, []) := by
  apply reconfigure_of_error
  rw [consistent.check_retuned, if_pos rfl]

theorem Consistent.reconfigure_of_unusable {c : Controller α σ π} (consistent : c.Consistent)
    {iterations : UInt32} {errorScale : α} (counted : iterations ≠ 0)
    (unusable : (!Scalar.isFinite errorScale || errorScale < 0) = true) :
    c.reconfigure iterations errorScale =
      (c, .error ⟨.errorScale, .negative errorScale⟩, []) := by
  apply reconfigure_of_error
  rw [consistent.check_retuned, if_neg counted, if_pos unusable]

theorem Consistent.reconfigure_of_usable {c : Controller α σ π} (consistent : c.Consistent)
    {iterations : UInt32} {errorScale : α} (counted : iterations ≠ 0)
    (usable : ¬ (!Scalar.isFinite errorScale || errorScale < 0) = true) :
    (c.reconfigure iterations errorScale).2.1 = .ok () := by
  have checked := consistent.check_retuned iterations errorScale
  rw [if_neg counted, if_neg usable] at checked
  rw [reconfigure_of_ok checked]

theorem unusable_iff (errorScale : α) :
    (!Scalar.isFinite errorScale || errorScale < 0) = true ↔
      Scalar.isFinite errorScale = false ∨ errorScale < 0 := by
  rw [Bool.or_eq_true, Bool.not_eq_true', decide_eq_true_eq]

theorem Consistent.reconfigure_fails_iff {c : Controller α σ π} (consistent : c.Consistent)
    (iterations : UInt32) (errorScale : α) :
    (∃ problem, (c.reconfigure iterations errorScale).2.1 = .error problem) ↔
      iterations = 0 ∨ Scalar.isFinite errorScale = false ∨ errorScale < 0 := by
  rw [← unusable_iff]
  constructor
  · rintro ⟨problem, failed⟩
    by_contra usable
    push Not at usable
    rw [consistent.reconfigure_of_usable usable.1 usable.2] at failed
    cases failed
  · intro unusable
    by_cases counted : iterations = 0
    · subst counted
      exact ⟨_, congrArg (·.2.1) (consistent.reconfigure_of_zero errorScale)⟩
    · have scale := unusable.resolve_left counted
      exact ⟨_, congrArg (·.2.1) (consistent.reconfigure_of_unusable counted scale)⟩

theorem Consistent.reconfigure_failure {c : Controller α σ π} (consistent : c.Consistent)
    {iterations : UInt32} {errorScale : α} {problem : ConfigError α}
    (failed : (c.reconfigure iterations errorScale).2.1 = .error problem) :
    c.reconfigure iterations errorScale = (c, .error problem, []) ∧
      problem = if iterations = 0 then ⟨.iterations, .zero⟩
        else ⟨.errorScale, .negative errorScale⟩ := by
  have unusable := (consistent.reconfigure_fails_iff iterations errorScale).mp ⟨problem, failed⟩
  rw [← unusable_iff] at unusable
  by_cases counted : iterations = 0
  · subst counted
    have refused := consistent.reconfigure_of_zero errorScale
    rw [refused] at failed
    cases failed
    exact ⟨refused, rfl⟩
  · have refused := consistent.reconfigure_of_unusable counted (unusable.resolve_left counted)
    rw [refused] at failed
    cases failed
    exact ⟨refused, (if_neg counted).symm⟩

/-! ## What operations do to the configuration -/

variable [Plant α σ] [Sink α π]

theorem perform_config (c : Controller α σ π) (operation : Operation α) :
    (c.perform operation).1.config =
      match Operation.tuning? (operation, (c.perform operation).2) with
      | some (iterations, errorScale) => c.retuned iterations errorScale
      | none => c.config := by
  cases operation with
  | start =>
      cases synced : Plant.sync c.plant with
      | mk plant result =>
          cases result with
          | ok done => rw [perform_start_of_synced synced]; rfl
          | error fault => rw [perform_start_of_fault synced]; rfl
  | update period elapsed => exact (update_settings c period elapsed).1
  | reconfigure iterations errorScale =>
      cases checked : (c.retuned iterations errorScale).check with
      | ok settings => rw [perform_reconfigure_of_ok checked]; rfl
      | error problem => rw [perform_reconfigure_of_error checked]; rfl
  | stop | measure | pause | resume | event => rfl

theorem perform_baseLink (c : Controller α σ π) (operation : Operation α) :
    (c.perform operation).1.reference.baseLink = c.reference.baseLink := by
  cases operation with
  | start =>
      cases synced : Plant.sync c.plant with
      | mk plant result =>
          cases result with
          | ok done => rw [perform_start_of_synced synced]; rfl
          | error fault => rw [perform_start_of_fault synced]
  | update period elapsed =>
      change (c.update period elapsed).1.reference.baseLink = c.reference.baseLink
      rw [update_reference]
  | reconfigure iterations errorScale =>
      cases checked : (c.retuned iterations errorScale).check with
      | ok settings => rw [perform_reconfigure_of_ok checked]
      | error problem => rw [perform_reconfigure_of_error checked]
  | event event now => exact (Reference.handle_isHandled c.reference event now).baseLink_eq
  | stop | measure | pause | resume => rfl

theorem run_baseLink (c : Controller α σ π) (operations : List (Operation α)) :
    (c.run operations).1.reference.baseLink = c.reference.baseLink := by
  induction operations generalizing c with
  | nil => rfl
  | cons operation rest inductionHypothesis =>
      exact (inductionHypothesis _).trans (perform_baseLink c operation)

theorem run_config {c : Controller α σ π} {first : Config α} (tuning : UInt32 × α)
    (before : c.config = { first with iterations := tuning.1, errorScale := tuning.2 })
    (operations : List (Operation α)) :
    (c.run operations).1.config =
      { first with
        iterations := (Operation.lastTuning tuning operations (c.run operations).2).1
        errorScale := (Operation.lastTuning tuning operations (c.run operations).2).2 } := by
  induction operations generalizing c tuning with
  | nil => exact before
  | cons operation rest inductionHypothesis =>
      have here := perform_config c operation
      have there : (c.run (operation :: rest)).2 =
          (c.perform operation).2 :: ((c.perform operation).1.run rest).2 := rfl
      rw [there, Operation.lastTuning_cons]
      -- the values after this operation are the first ones of the rest
      apply inductionHypothesis (c := (c.perform operation).1)
      cases tuned : Operation.tuning? (operation, (c.perform operation).2) with
      | none =>
          rw [tuned] at here
          exact here.trans before
      | some values =>
          rcases values with ⟨iterations, errorScale⟩
          rw [tuned] at here
          have changed : (c.perform operation).1.config = c.retuned iterations errorScale := here
          rw [changed, retuned, before]
          rfl

/-- In every state that operations make of a new controller, whether they
succeed or fail, the copies of its configuration agree as `IsConfigured` says. -/
theorem run_isConfigured {config : Config α} {plant : σ} {sink : π} {c : Controller α σ π}
    (created : create config plant sink = .ok c) (operations : List (Operation α)) :
    IsConfigured config
      (Operation.lastTuning (config.iterations, config.errorScale) operations
        (c.run operations).2)
      (c.run operations).1 := by
  have reachable : (c.run operations).1.Reachable := (Reachable.create created).run operations
  have consistent := reachable.consistent
  have first : c.config = config ∧ c.reference.baseLink = config.robotBaseLink := by
    rcases exists_settings_of_create created with ⟨settings, -, rfl⟩
    exact ⟨rfl, rfl⟩
  have config_eq := run_config (config.iterations, config.errorScale) first.1 operations
  exact {
    config_eq := config_eq
    validates := by
      rw [Config.validate, (Config.check_eq_ok_iff _ _).mpr consistent]
      rfl
    substeps_eq := consistent.substeps_eq
    one_le_substeps := consistent.substeps_pos
    substeps_velocity := by
      intro velocity
      rw [consistent.substeps_eq, Config.substeps, velocity]
      rfl
    errorScale_eq := consistent.errorScale_eq
    limits_eq := consistent.limits_eq
    internalPeriod_eq := by
      rw [Config.internalPeriod?, consistent.internalPeriod]
      rfl
    baseLink_eq := by
      rw [run_baseLink, first.2, config_eq]
    fails_iff := consistent.reconfigure_fails_iff
    failure_eq := fun iterations errorScale problem failed =>
      consistent.reconfigure_failure failed }

/-- A reconfiguration that is carried out between two that are refused, and then
a tick that fails. -/
def mixedRun : List (Operation Float) :=
  [.reconfigure 0 2, .reconfigure 6 0.5, .reconfigure 2 (-1), .start, .update 0 0]

theorem run_isConfigured_mixedRun :
    create (.position 3) overFailingPlant.plant overFailingPlant.sink = .ok overFailingPlant ∧
      IsConfigured (.position 3) (6, 0.5) (overFailingPlant.run mixedRun).1 := by
  have created : create (.position 3) overFailingPlant.plant overFailingPlant.sink =
      .ok overFailingPlant := by
    rw [create, position_checks]
    rfl
  have tuned : Operation.lastTuning (3, 1) mixedRun (overFailingPlant.run mixedRun).2 =
      (6, 0.5) := by
    rfl
  have configured := run_isConfigured created mixedRun
  refine ⟨created, ?_⟩
  rw [← tuned]
  exact configured

end Controller
end MotionControl
