import MotionControl.Proofs.Controller.Frame

/-!
# Creating, starting and reconfiguring

A start follows the answer of the plant, and a reconfiguration follows the check
of the changed configuration.  Each has two outcomes and one equation for either,
which says what becomes of the whole controller.
-/

namespace MotionControl
namespace Controller

variable {α σ π : Type}

section Start

variable [Plant α σ]

theorem start_of_synced {c : Controller α σ π} {plant : σ}
    (synced : Plant.sync c.plant = (plant, .ok ())) :
    c.start = ({ c with plant := plant, reference := c.reference.resync (Plant.pose plant) },
      .ok (), [.started (Plant.pose plant).position c.config.interface]) := by
  simp only [start, synced]

theorem start_of_fault {c : Controller α σ π} {plant : σ} {fault : Fault α}
    (failed : Plant.sync c.plant = (plant, .error fault)) :
    c.start = ({ c with plant := plant }, .error fault, []) := by
  simp only [start, failed]

end Start

variable [Scalar α]

theorem create_of_checked [Plant α σ] {config : Config α} {settings : Settings α}
    (checked : config.check = .ok settings) (plant : σ) (sink : π) :
    create config plant sink =
      .ok {
        config := config
        settings := settings
        plant := plant
        sink := sink
        reference := .create config.robotBaseLink (Plant.pose plant) settings.warnThrottle } := by
  rw [create, checked]
  rfl

theorem exists_settings_of_create [Plant α σ] {config : Config α} {plant : σ} {sink : π}
    {c : Controller α σ π} (created : create config plant sink = .ok c) :
    ∃ settings, config.check = .ok settings ∧ c = {
      config := config
      settings := settings
      plant := plant
      sink := sink
      reference := .create config.robotBaseLink (Plant.pose plant) settings.warnThrottle } := by
  cases checked : config.check with
  | error problem =>
      rw [create, checked] at created
      cases created
  | ok settings =>
      rw [create_of_checked checked] at created
      injection created with made
      exact ⟨settings, rfl, made.symm⟩

/-- The configuration with another sub-step count and another gain. -/
def retuned (c : Controller α σ π) (iterations : UInt32) (errorScale : α) : Config α :=
  { c.config with iterations := iterations, errorScale := errorScale }

theorem reconfigure_of_ok {c : Controller α σ π} {iterations : UInt32} {errorScale : α}
    {settings : Settings α} (checked : (c.retuned iterations errorScale).check = .ok settings) :
    c.reconfigure iterations errorScale =
      ({ c with config := c.retuned iterations errorScale, settings := settings }, .ok (),
        [.reconfigured iterations errorScale settings.substeps]) := by
  rw [retuned] at checked
  simp only [reconfigure, checked]
  rfl

theorem reconfigure_of_error {c : Controller α σ π} {iterations : UInt32} {errorScale : α}
    {problem : ConfigError α} (checked : (c.retuned iterations errorScale).check = .error problem) :
    c.reconfigure iterations errorScale = (c, .error problem, []) := by
  rw [retuned] at checked
  simp only [reconfigure, checked]

variable [Plant α σ] [Sink α π]

theorem perform_reconfigure_of_ok {c : Controller α σ π} {iterations : UInt32} {errorScale : α}
    {settings : Settings α} (checked : (c.retuned iterations errorScale).check = .ok settings) :
    c.perform (.reconfigure iterations errorScale) =
      ({ c with config := c.retuned iterations errorScale, settings := settings },
        ⟨.done, [.reconfigured iterations errorScale settings.substeps]⟩) := by
  simp only [perform, reconfigure_of_ok checked]

theorem perform_reconfigure_of_error {c : Controller α σ π} {iterations : UInt32} {errorScale : α}
    {problem : ConfigError α} (checked : (c.retuned iterations errorScale).check = .error problem) :
    c.perform (.reconfigure iterations errorScale) = (c, ⟨.refused problem, []⟩) := by
  simp only [perform, reconfigure_of_error checked]

theorem perform_start_of_synced {c : Controller α σ π} {plant : σ}
    (synced : Plant.sync c.plant = (plant, .ok ())) :
    c.perform .start =
      ({ c with plant := plant, reference := c.reference.resync (Plant.pose plant) },
        ⟨.done, [.started (Plant.pose plant).position c.config.interface]⟩) := by
  simp only [perform, start_of_synced synced, plantAnswer]

theorem perform_start_of_fault {c : Controller α σ π} {plant : σ} {fault : Fault α}
    (failed : Plant.sync c.plant = (plant, .error fault)) :
    c.perform .start = ({ c with plant := plant }, ⟨.fault fault, []⟩) := by
  simp only [perform, start_of_fault failed, plantAnswer]

/-- An update writes neither the target nor the base frame. -/
theorem update_reference (c : Controller α σ π) (period elapsed : Duration) :
    (c.update period elapsed).1.reference =
      { c.reference with
        lastPublished := (c.update period elapsed).1.reference.lastPublished } := by
  cases switch : c.paused with
  | true =>
      rw [update_of_paused switch]
      rfl
  | false =>
      rw [update_of_running switch]
      exact (tick_advances c).reference_eq

end Controller
end MotionControl
