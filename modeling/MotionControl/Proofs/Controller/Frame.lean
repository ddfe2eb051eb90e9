import Mathlib.Tactic.Common
import MotionControl.Controller.Operation

/-!
# What a tick leaves alone

A tick reaches the plant, the sink, the last published pose and the counters,
and nothing else.  `Advances` says so of two controllers, one step of the loop
has it, and it composes; every invariant of the remaining state follows from it
without looking into the loop again.
-/

namespace MotionControl
namespace Controller

variable {α σ π : Type}

/-- The second controller is what sub-steps make of the first: the same target,
configuration, settings and switch, and counters that differ in the sub-steps
alone. -/
structure Advances (before after : Controller α σ π) : Prop where
  config_eq : after.config = before.config
  settings_eq : after.settings = before.settings
  paused_eq : after.paused = before.paused
  reference_eq : after.reference =
    { before.reference with lastPublished := after.reference.lastPublished }
  stats_eq : after.stats = { before.stats with substeps := after.stats.substeps }

namespace Advances

theorem refl (c : Controller α σ π) : Advances c c :=
  ⟨rfl, rfl, rfl, rfl, rfl⟩

theorem trans {first second third : Controller α σ π} (front : Advances first second)
    (back : Advances second third) : Advances first third where
  config_eq := back.config_eq.trans front.config_eq
  settings_eq := back.settings_eq.trans front.settings_eq
  paused_eq := back.paused_eq.trans front.paused_eq
  reference_eq := by rw [back.reference_eq, front.reference_eq]
  stats_eq := by rw [back.stats_eq, front.stats_eq]

theorem target_eq {before after : Controller α σ π} (advances : Advances before after) :
    after.reference.target = before.reference.target := by
  rw [advances.reference_eq]

end Advances

variable [Scalar α] [Plant α σ]

/-- The error that a controller hands to its plant, measured at the plant's
current pose and scaled. -/
def request (c : Controller α σ π) : SpatialVector α :=
  (motionError c.reference.target (Plant.pose c.plant) c.settings.limits).scale
    c.settings.errorScale

/-- What a controller asks of its plant depends on the plant's pose, the target
and the settings alone. -/
theorem Advances.request_eq {before after : Controller α σ π} (advances : Advances before after) :
    after.request =
      (motionError before.reference.target (Plant.pose after.plant) before.settings.limits).scale
        before.settings.errorScale := by
  rw [request, advances.target_eq, advances.settings_eq]

variable [Sink α π]

/-! The loop is written over workcells; these are its equations for a controller. -/

theorem substep_eq (c : Controller α σ π) :
    c.substep =
      match Plant.synthesize c.plant c.request c.settings.internalPeriod with
      | (plant, .ok ()) =>
        ({ c.measure.1 with
            plant := plant, stats := { c.stats with substeps := c.stats.substeps + 1 } }, .ok ())
      | (plant, .error fault) => ({ c.measure.1 with plant := plant }, .error fault) := by
  change Attempt.andThen
    ({ c.measure.1 with
        plant := (Plant.synthesize c.plant c.request c.settings.internalPeriod).1 },
      (Plant.synthesize c.plant c.request c.settings.internalPeriod).2) _ = _
  cases Plant.synthesize c.plant c.request c.settings.internalPeriod with
  | mk plant result => cases result <;> rfl

theorem runSubsteps_succ (n : Nat) (c : Controller α σ π) :
    c.runSubsteps (n + 1) = Attempt.andThen c.substep (runSubsteps n) :=
  rfl

theorem tick_eq (c : Controller α σ π) :
    c.tick = Attempt.andThen (c.runSubsteps c.settings.substeps.toNat) writeCommands :=
  rfl

theorem substep_plant (c : Controller α σ π) :
    c.substep.1.plant =
      (Plant.synthesize c.plant c.request c.settings.internalPeriod).1 := by
  rw [substep_eq]
  split <;> rename_i answered <;> rw [answered]

theorem substep_result (c : Controller α σ π) :
    c.substep.2 = (Plant.synthesize c.plant c.request c.settings.internalPeriod).2 := by
  rw [substep_eq]
  split <;> rename_i answered <;> rw [answered]

/-- The pose reaches the sink whether the plant then fails or not. -/
theorem substep_sink (c : Controller α σ π) :
    c.substep.1.sink = Sink.publish c.sink (Plant.pose c.plant) := by
  rw [substep_eq]
  split <;> rfl

theorem substep_reference (c : Controller α σ π) :
    c.substep.1.reference = { c.reference with lastPublished := Plant.pose c.plant } := by
  rw [substep_eq]
  split <;> rfl

theorem substep_advances (c : Controller α σ π) : Advances c c.substep.1 := by
  rw [substep_eq]
  split <;> exact ⟨rfl, rfl, rfl, rfl, rfl⟩

theorem runSubsteps_advances (n : Nat) (c : Controller α σ π) :
    Advances c (c.runSubsteps n).1 := by
  induction n generalizing c with
  | zero => exact .refl c
  | succ n inductionHypothesis =>
      have first := substep_advances c
      rw [runSubsteps_succ]
      cases stepped : c.substep with
      | mk next result =>
          rw [stepped] at first
          cases result with
          | ok done => exact first.trans (inductionHypothesis next)
          | error fault => exact first

theorem tick_advances (c : Controller α σ π) : Advances c c.tick.1 := by
  have steps := runSubsteps_advances c.settings.substeps.toNat c
  rw [tick_eq]
  cases stepped : c.runSubsteps c.settings.substeps.toNat with
  | mk next result =>
      rw [stepped] at steps
      cases result with
      | ok done => exact ⟨steps.config_eq, steps.settings_eq, steps.paused_eq,
          steps.reference_eq, steps.stats_eq⟩
      | error fault => exact steps

/-- An update that is not paused is a tick with its counters brought up to date. -/
theorem update_of_running {c : Controller α σ π} (running : c.paused = false)
    (period elapsed : Duration) :
    c.update period elapsed =
      ({ c.tick.1 with
          stats := (c.tick.1.stats.count (match c.tick.2 with
            | .ok () => false
            | .error _ => true)).time period elapsed }, c.tick.2) := by
  have off : ¬ c.paused = true := by simp only [running, Bool.false_eq_true, not_false_eq_true]
  exact if_neg off

theorem update_of_paused {c : Controller α σ π} (paused : c.paused = true)
    (period elapsed : Duration) : c.update period elapsed = (c.measure.1, .ok ()) :=
  if_pos paused

theorem update_settings (c : Controller α σ π) (period elapsed : Duration) :
    (c.update period elapsed).1.config = c.config ∧
      (c.update period elapsed).1.settings = c.settings := by
  cases switch : c.paused with
  | true => rw [update_of_paused switch]; exact ⟨rfl, rfl⟩
  | false =>
      rw [update_of_running switch]
      exact ⟨(tick_advances c).config_eq, (tick_advances c).settings_eq⟩

theorem update_paused (c : Controller α σ π) (period elapsed : Duration) :
    (c.update period elapsed).1.paused = c.paused := by
  cases switch : c.paused with
  | true =>
      rw [update_of_paused switch]
      exact switch
  | false =>
      rw [update_of_running switch]
      exact (tick_advances c).paused_eq.trans switch

end Controller
end MotionControl
