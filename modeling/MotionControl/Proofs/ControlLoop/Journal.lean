import Mathlib.Tactic.Common
import MotionControl.ControlLoop.Journaled

/-!
# The order of the loop's actions

The loop is one program over all workcells.  A run of sub-steps ends after some number `k` of
them, of which only the last may have failed (`exists_afterSubsteps`), whatever the workcell is.
Keeping a journal changes nothing about the workcell inside (`update_cell`), and a sub-step adds
four entries: it records the pose, publishes it, looks up the target, and calls the plant
(`substep_entries`).
-/

namespace MotionControl

namespace Attempt

variable {α σ τ : Type}

/-- Two ways of going on that agree under a map agree under it after an attempt, too. -/
theorem map_andThen (f : σ → τ) {next : σ → Attempt α σ} {next' : τ → Attempt α τ}
    (agree : ∀ state, Prod.map f id (next state) = next' (f state)) (attempt : Attempt α σ) :
    Prod.map f id (attempt.andThen next) = Attempt.andThen (Prod.map f id attempt) next' := by
  rcases attempt with ⟨state, result⟩
  cases result with
  | ok done => exact agree state
  | error fault => rfl

/-- A change of the state after a success keeps the answer. -/
theorem andThen_ok_snd (attempt : Attempt α σ) (change : σ → σ) :
    (attempt.andThen fun state => (change state, .ok ())).2 = attempt.2 := by
  rcases attempt with ⟨state, result⟩
  cases result <;> rfl

theorem view_andThen_ok (view : σ → τ) (change : σ → σ)
    (same : ∀ state, view (change state) = view state) (attempt : Attempt α σ) :
    view (attempt.andThen fun state => (change state, .ok ())).1 = view attempt.1 := by
  rcases attempt with ⟨state, result⟩
  cases result with
  | ok done => exact same state
  | error fault => rfl

end Attempt

namespace Workcell

variable {α ω : Type} [Scalar α] [Workcell α ω]

theorem substep_eq (cell : ω) :
    substep cell =
      (synthesize (measure cell).1 ((measure cell).2.scale (settings (measure cell).1).errorScale)
        (settings (measure cell).1).internalPeriod).andThen
          fun cell => (countSubstep cell, .ok ()) :=
  rfl

def afterSubsteps (cell : ω) : ℕ → ω
  | 0 => cell
  | i + 1 => (substep (afterSubsteps cell i)).1

theorem afterSubsteps_substep (cell : ω) (i : ℕ) :
    afterSubsteps (substep cell).1 i = afterSubsteps cell (i + 1) := by
  induction i with
  | zero => rfl
  | succ i inductionHypothesis => simp only [afterSubsteps, inductionHypothesis]

/-- How a run of at most `n` sub-steps ends after `k`, given what each of them answers: only the
last may have failed, and it has failed if the run is cut short. -/
structure Ends (n k : ℕ) (answer : ℕ → Except (Fault α) Unit) (result : Except (Fault α) Unit) :
    Prop where
  le : k ≤ n
  early : ∀ i, i + 1 < k → answer i = .ok ()
  ended : (k = n ∧ (∀ i < k, answer i = .ok ()) ∧ result = .ok ()) ∨
    ∃ last fault, k = last + 1 ∧ answer last = .error fault ∧ result = .error fault

theorem exists_afterSubsteps (n : ℕ) (cell : ω) :
    ∃ k, (runSubsteps n cell).1 = afterSubsteps cell k ∧
      Ends n k (fun i => (substep (afterSubsteps cell i)).2) (runSubsteps n cell).2 := by
  induction n generalizing cell with
  | zero => exact ⟨0, rfl, ⟨Nat.le_refl 0, by omega, .inl ⟨rfl, by omega, rfl⟩⟩⟩
  | succ n inductionHypothesis =>
      rw [runSubsteps]
      cases stepped : substep cell with
      | mk next result =>
          have nextEq : (substep cell).1 = next := by rw [stepped]
          have answered : (substep cell).2 = result := by rw [stepped]
          cases result with
          | error fault =>
              exact ⟨1, nextEq.symm, ⟨by omega, by omega, .inr ⟨0, fault, rfl, answered, rfl⟩⟩⟩
          | ok done =>
              have shift (i : ℕ) : afterSubsteps next i = afterSubsteps cell (i + 1) := by
                rw [← nextEq, afterSubsteps_substep]
              rcases inductionHypothesis next with ⟨k, reached, ends⟩
              rcases ends with ⟨bound, early, ended⟩
              simp only [shift] at reached early ended
              refine ⟨k + 1, reached, ⟨by omega, ?_, ?_⟩⟩
              · rintro (_ | i) inside
                · exact answered
                · exact early i (by omega)
              · rcases ended with ⟨full, succeeded, result⟩ | ⟨last, fault, count, failed, result⟩
                · refine .inl ⟨by omega, ?_, result⟩
                  rintro (_ | i) inside
                  · exact answered
                  · exact succeeded i (by omega)
                · exact .inr ⟨last + 1, fault, by omega, failed, result⟩

end Workcell

namespace Journaled

open Workcell

variable {α ω : Type} [Scalar α] [Workcell α ω]

theorem substep_cell (journaled : Journaled α ω) :
    Prod.map cell id (substep journaled) = substep journaled.cell :=
  Attempt.map_andThen cell (fun _ => rfl) _

/-- A sub-step is four actions in this order.  The plant is asked last, and with the target that
was found after the pose had been recorded and published. -/
theorem substep_entries (journaled : Journaled α ω) :
    (substep journaled).1.entries = journaled.entries ++
      [.recorded (pose journaled.cell), .published (pose journaled.cell),
        .aimed (readTarget (publish (record journaled.cell (pose journaled.cell))
          (pose journaled.cell))).2,
        .called (.synthesize (pose (measure journaled.cell).1)
          ((measure journaled.cell).2.scale (settings (measure journaled.cell).1).errorScale)
          (settings (measure journaled.cell).1).internalPeriod (substep journaled.cell).2)] := by
  have measured : (measure journaled).1.entries =
      journaled.entries ++ [.recorded (pose journaled.cell)] ++
        [.published (pose journaled.cell)] ++
        [.aimed (readTarget (publish (record journaled.cell (pose journaled.cell))
          (pose journaled.cell))).2] := rfl
  rw [substep_eq, substep_eq, Attempt.andThen_ok_snd,
    Attempt.view_andThen_ok entries countSubstep fun _ => rfl]
  change (measure journaled).1.entries ++ [_] = _
  rw [measured]
  simp only [List.append_assoc, List.cons_append, List.nil_append]
  rfl

theorem runSubsteps_cell (n : ℕ) (journaled : Journaled α ω) :
    Prod.map cell id (runSubsteps n journaled) = runSubsteps n journaled.cell := by
  induction n generalizing journaled with
  | zero => rfl
  | succ n inductionHypothesis =>
      rw [runSubsteps, runSubsteps, ← substep_cell]
      exact Attempt.map_andThen cell inductionHypothesis _

theorem tick_cell (journaled : Journaled α ω) :
    Prod.map cell id (tick journaled) = tick journaled.cell := by
  have steps := runSubsteps_cell (settings journaled.cell).substeps.toNat journaled
  rw [tick, tick, ← steps]
  exact Attempt.map_andThen cell (fun _ => rfl) _

/-- Keeping a journal changes nothing. -/
theorem update_cell (journaled : Journaled α ω) (period elapsed : Duration) :
    Prod.map cell id (update journaled period elapsed) =
      update journaled.cell period elapsed := by
  have ticked := tick_cell journaled
  rw [update, update, ← ticked]
  have switch : paused journaled = paused journaled.cell := rfl
  rw [switch]
  split <;> rfl

end Journaled
end MotionControl
