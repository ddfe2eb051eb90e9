import MotionControl.Proofs.Config.Check
import MotionControl.Proofs.Controller.Frame

/-!
# Reachable controllers

A controller is reachable if it was created and then driven by operations, in
any number and order, whether they succeeded or failed.  Between two operations
its owner may exchange or rework the plant and the sink, to which it has access
at all times.

The settings on which the loop runs are in every reachable controller the ones
that its configuration checks to.
-/

namespace MotionControl
namespace Controller

variable {α σ π : Type} [Scalar α]

/-- The settings are those that the configuration checks to. -/
def Consistent (c : Controller α σ π) : Prop :=
  c.config.Checks c.settings

theorem reconfigure_consistent {c : Controller α σ π} (consistent : c.Consistent)
    (iterations : UInt32) (errorScale : α) :
    (c.reconfigure iterations errorScale).1.Consistent := by
  simp only [reconfigure]
  split
  · exact consistent
  · exact (Config.check_eq_ok_iff _ _).mp (by assumption)

variable [Plant α σ]

theorem create_consistent {config : Config α} {plant : σ} {sink : π} {c : Controller α σ π}
    (created : create config plant sink = .ok c) : c.Consistent := by
  simp only [create, except_bind_eq_ok] at created
  rcases created with ⟨settings, checked, made⟩
  cases made
  exact (Config.check_eq_ok_iff config settings).mp checked

variable [Sink α π]

/-- What can become of a new controller, by any operations and by its owner's
access to the plant and the sink. -/
inductive Reachable : Controller α σ π → Prop where
  | create {config : Config α} {plant : σ} {sink : π} {c : Controller α σ π}
      (created : create config plant sink = .ok c) : Reachable c
  | perform {c : Controller α σ π} (reachable : Reachable c) (operation : Operation α) :
      Reachable (c.perform operation).1
  | access {c : Controller α σ π} (reachable : Reachable c) (plant : σ) (sink : π) :
      Reachable { c with plant := plant, sink := sink }

theorem perform_consistent {c : Controller α σ π} (consistent : c.Consistent)
    (operation : Operation α) : (c.perform operation).1.Consistent := by
  cases operation with
  | start =>
      simp only [perform, start]
      split <;> exact consistent
  | update period elapsed =>
      rcases update_settings c period elapsed with ⟨sameConfig, sameSettings⟩
      change Config.Checks (c.update period elapsed).1.config (c.update period elapsed).1.settings
      rw [sameConfig, sameSettings]
      exact consistent
  | reconfigure iterations errorScale =>
      have kept := reconfigure_consistent consistent iterations errorScale
      simp only [perform]
      split <;> exact kept
  | stop | measure | pause | resume | event => exact consistent

/-- Every operation preserves consistency, so every reachable controller has it. -/
theorem Reachable.consistent {c : Controller α σ π} (reachable : Reachable c) : c.Consistent := by
  induction reachable with
  | create created => exact create_consistent created
  | perform _ operation inductionHypothesis =>
      exact perform_consistent inductionHypothesis operation
  | access _ _ _ inductionHypothesis => exact inductionHypothesis

theorem Reachable.run {c : Controller α σ π} (reachable : c.Reachable)
    (operations : List (Operation α)) : (c.run operations).1.Reachable := by
  induction operations generalizing c with
  | nil => exact reachable
  | cons operation rest inductionHypothesis =>
      exact inductionHypothesis (reachable.perform operation)

end Controller
end MotionControl
