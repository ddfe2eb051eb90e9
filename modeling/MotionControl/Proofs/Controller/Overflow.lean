import MotionControl.Proofs.Controller.Lifecycle
import MotionControl.Proofs.Controller.Tick
import MotionControl.Proofs.PointMass.Bounded
import MotionControl.Proofs.Scalar.Trigonometry

/-!
# Runs that do not overflow

A point mass looks at the error that it is asked to follow and at nothing that it makes
of it: neither the velocity nor the pose nor the commands of a step are checked.  What
keeps them finite is the configuration.  With a moderate gain and steps that are short
for the damping, no run overflows, whatever events arrive and however long it lasts, and
the one check that there is refuses every step that would.  A configuration that checks
need not be moderate, and then a single step can write infinite commands.

The loop preserves the bounds of the plant step by step, under settings that no step
changes; an operation between two updates changes the settings or the plant, never both.
-/

namespace MotionControl

open Rounded

section Abstract

variable {α : Type} [Scalar α] [Rounded α]

/-! ## Moderate settings -/

/-- Steps of less than a fifth of a second, for which the standard damping is stable, and
a gain that leaves room for the errors that the limits allow. -/
structure Settings.IsModerate (settings : Settings α) : Prop where
  short : settings.internalPeriod.nanoseconds < 200000000
  gain_le : value settings.errorScale ≤ 2 ^ (470 : ℤ)
  reach_le : value settings.errorScale * value settings.limits.maxDistance ≤ 2 ^ (920 : ℤ)

theorem Config.bounds_of_checkPositive {field : ConfigField} {x : α}
    (accepted : Config.checkPositive field x = .ok ()) :
    Scalar.isFinite x = true ∧ 0 ≤ value x := by
  rcases (Config.accept_eq_ok_iff _ _ _).mp accepted with ⟨finite, above⟩
  rw [Rounded.le_iff _ _ finite Rounded.zero.1, Rounded.zero.2, not_le] at above
  exact ⟨finite, above.le⟩

theorem Config.bounds_of_checkNonNegative {field : ConfigField} {x : α}
    (accepted : Config.checkNonNegative field x = .ok ()) :
    Scalar.isFinite x = true ∧ 0 ≤ value x := by
  rcases (Config.accept_eq_ok_iff _ _ _).mp accepted with ⟨finite, above⟩
  rw [Rounded.lt_iff _ _ finite Rounded.zero.1, Rounded.zero.2, not_lt] at above
  exact ⟨finite, above⟩

/-- The check of a configuration supplies what moderation leaves open. -/
theorem Config.Checks.isModerate {config : Config α} {settings : Settings α}
    (checks : config.Checks settings) (moderate : settings.IsModerate) :
    settings.limits.IsModerate settings.errorScale := by
  have angle := Config.bounds_of_checkPositive checks.maxAngle
  have distance := Config.bounds_of_checkPositive checks.maxDistance
  have gain := Config.bounds_of_checkNonNegative checks.errorScale
  have limits : settings.limits = ⟨config.maxAngle, config.maxDistance⟩ := checks.limits_eq
  rw [← checks.errorScale_eq] at gain
  exact {
    maxAngle := by rw [limits]; exact angle
    maxDistance := by rw [limits]; exact distance
    gain_nonneg := gain.2
    gain_le := moderate.gain_le
    reach_le := moderate.reach_le }

/-! ## Safe states -/

/-- A pose and a velocity without a component that is not finite. -/
def FiniteMotion (pose : Pose α) (velocity : SpatialVector α) : Prop :=
  ∀ component ∈ pose.position.toList ++ pose.rotation.toList ++ velocity.toList,
    Scalar.isFinite component = true

theorem PointMass.finiteMotion_of_bounds {pose : Pose α} {velocity : SpatialVector α}
    (position : ∀ c ∈ pose.position.toList, Within 1014 c) (rotation : pose.rotation.IsTame)
    (motion : velocity.IsSlow) : FiniteMotion pose velocity := by
  intro component member
  rcases List.mem_append.mp member with place | speed
  · rcases List.mem_append.mp place with linear | angular
    · exact (position component linear).isFinite
    · exact (rotation.within component angular).isFinite
  · exact motion.isFinite component speed

namespace Controller

variable {σ π : Type}

section Statements

variable [Sink α π]

/-- The next step is refused if it would make the pose or the velocity of the plant
something that is not finite, for the reason that its error is not finite.  A step that is
refused leaves the plant as it is, and every other one is carried out. -/
structure IsGuarded (c : Controller α (PointMass α) π) : Prop where
  refused_iff : c.substep.2 = .error (.nonFinite "cartesian error") ↔
    ∃ component ∈ c.request.toList, Scalar.isFinite component = false
  carried_iff : c.substep.2 = .ok () ↔
    ∀ component ∈ c.request.toList, Scalar.isFinite component = true
  refused : ¬ FiniteMotion (c.plant.destination c.request c.settings.internalPeriod)
      (c.plant.nextVelocity c.request c.settings.internalPeriod.seconds) →
    c.substep.2 = .error (.nonFinite "cartesian error")
  unchanged : c.substep.2 ≠ .ok () → c.substep.1.plant = c.plant
  finite : FiniteMotion c.substep.1.plant.pose c.substep.1.plant.velocity

/-- No command that is not finite was written or comes to be written by an update, and
every further step is guarded. -/
structure IsSafe (c : Controller α (PointMass α) π) : Prop where
  written : ∀ command, c.plant.written = some command → command.IsFinite
  updated : ∀ period elapsed, (c.update period elapsed).2 = .ok () →
    ∀ command, (c.update period elapsed).1.plant.written = some command → command.IsFinite
  recorded : c.paused = false → ∀ period elapsed, (c.update period elapsed).2 = .ok () →
    ∃ command, (c.update period elapsed).1.plant.written = some command
  guarded : ∀ k, IsGuarded (c.afterSubsteps k)

end Statements

omit [Rounded α] in
/-- A tick that succeeds ends with a write. -/
theorem tick_written [Sink α π] {c : Controller α (PointMass α) π} (succeeded : c.tick.2 = .ok ()) :
    ∃ command, c.tick.1.plant.written = some command := by
  rw [tick_eq] at succeeded ⊢
  cases ran : c.runSubsteps c.settings.substeps.toNat with
  | mk last result =>
      rw [ran] at succeeded
      cases result with
      | ok done => exact ⟨last.plant.simulated, rfl⟩
      | error fault => cases succeeded

/-! ## One step -/

/-- A state from which no step overflows. -/
structure IsSteady (c : Controller α (PointMass α) π) : Prop where
  consistent : c.Consistent
  moderate : c.settings.IsModerate
  bounded : c.plant.IsBounded

namespace IsSteady

variable {c : Controller α (PointMass α) π}

theorem request_isMild (sound : SoundTrigonometry α) (steady : c.IsSteady)
    (finite : ∀ component ∈ c.request.toList, Scalar.isFinite component = true) :
    c.request.IsMild :=
  scale_motionError_isMild sound (steady.consistent.isModerate steady.moderate) _ _ finite

/-- A finite error leads to a finite pose at a finite velocity. -/
theorem finiteMotion (sound : SoundTrigonometry α) (steady : c.IsSteady)
    (finite : ∀ component ∈ c.request.toList, Scalar.isFinite component = true) :
    FiniteMotion (c.plant.destination c.request c.settings.internalPeriod)
      (c.plant.nextVelocity c.request c.settings.internalPeriod.seconds) := by
  have short := steady.moderate.short
  have motion := PointMass.nextVelocity_isSlow steady.bounded (steady.request_isMild sound finite)
    short
  rcases PointMass.destination_within sound steady.bounded motion short with ⟨position, rotation⟩
  exact PointMass.finiteMotion_of_bounds position rotation motion

variable [Sink α π]

/-- A step leads from one such state to another, refused or not. -/
theorem substep (sound : SoundTrigonometry α) (steady : c.IsSteady) : c.substep.1.IsSteady := by
  have advances := substep_advances c
  constructor
  · rw [Consistent, advances.config_eq, advances.settings_eq]
    exact steady.consistent
  · rw [advances.settings_eq]
    exact steady.moderate
  · rw [substep_plant]
    exact steady.bounded.synthesize sound (steady.request_isMild sound) steady.moderate.short

theorem isGuarded (sound : SoundTrigonometry α) (steady : c.IsSteady) : IsGuarded c := by
  have step := c.plant.synthesize_isStep c.request c.settings.internalPeriod
  have after := (steady.substep sound).bounded
  have refused_iff : c.substep.2 = .error (.nonFinite "cartesian error") ↔
      ∃ component ∈ c.request.toList, Scalar.isFinite component = false := by
    rw [substep_result]
    exact step.nonFinite_iff
  have carried_iff : c.substep.2 = .ok () ↔
      ∀ component ∈ c.request.toList, Scalar.isFinite component = true := by
    rw [substep_result]
    exact steady.bounded.synthesize_ok_iff c.request c.settings.internalPeriod
  refine ⟨refused_iff, carried_iff, fun overflows => ?_, fun failed => ?_,
    PointMass.finiteMotion_of_bounds after.position after.rotation after.velocity⟩
  · rw [refused_iff]
    by_contra finite
    push Not at finite
    exact overflows (steady.finiteMotion sound fun component member =>
      Bool.eq_true_of_not_eq_false (finite component member))
  · rw [substep_result] at failed
    rw [substep_plant]
    exact step.failed failed

theorem afterSubsteps (sound : SoundTrigonometry α) (steady : c.IsSteady) (k : ℕ) :
    (c.afterSubsteps k).IsSteady := by
  induction k with
  | zero => exact steady
  | succ k inductionHypothesis => exact inductionHypothesis.substep sound

/-! ## One operation -/

theorem tick (sound : SoundTrigonometry α) (steady : c.IsSteady) : c.tick.1.plant.IsBounded := by
  rcases run_afterSubsteps c.settings.substeps.toNat c with ⟨k, stopped, -⟩
  have stepped := (steady.afterSubsteps sound k).bounded
  rw [← stopped] at stepped
  rw [Controller.tick_eq]
  cases ran : c.runSubsteps c.settings.substeps.toNat with
  | mk last result =>
      rw [ran] at stepped
      cases result with
      | ok done => exact stepped.write
      | error fault => exact stepped

theorem update (sound : SoundTrigonometry α) (steady : c.IsSteady) (period elapsed : Duration) :
    (c.update period elapsed).1.plant.IsBounded := by
  cases switch : c.paused with
  | true =>
      rw [update_of_paused switch]
      exact steady.bounded
  | false =>
      rw [update_of_running switch]
      exact steady.tick sound

theorem perform (sound : SoundTrigonometry α) (steady : c.IsSteady) (operation : Operation α) :
    (c.perform operation).1.plant.IsBounded := by
  cases operation with
  | start => exact steady.bounded.sync sound
  | update period elapsed => exact steady.update sound period elapsed
  | reconfigure iterations errorScale =>
      cases checked : (c.retuned iterations errorScale).check with
      | ok settings =>
          rw [perform_reconfigure_of_ok checked]
          exact steady.bounded
      | error problem =>
          rw [perform_reconfigure_of_error checked]
          exact steady.bounded
  | stop | measure | pause | resume | event => exact steady.bounded

theorem isSafe (sound : SoundTrigonometry α) (steady : c.IsSteady) : IsSafe c where
  written := steady.bounded.written
  updated := fun period elapsed _ => (steady.update sound period elapsed).written
  recorded := by
    intro running period elapsed succeeded
    rw [update_of_running running] at succeeded ⊢
    exact tick_written succeeded
  guarded := fun k => (steady.afterSubsteps sound k).isGuarded sound

end IsSteady

/-! ## Runs -/

section Runs

variable [Sink α π] {c : Controller α (PointMass α) π}

/-- The settings are moderate before each operation of a run and after the last. -/
def StaysModerate (c : Controller α (PointMass α) π) (operations : List (Operation α)) : Prop :=
  ∀ k, (c.run (operations.take k)).1.settings.IsModerate

/-- Only the settings can leave the safe states, since the plant keeps its bounds and the
configuration goes on to check. -/
theorem IsSteady.run (sound : SoundTrigonometry α) (steady : c.IsSteady)
    {operations : List (Operation α)} (moderate : c.StaysModerate operations) :
    (c.run operations).1.IsSteady := by
  induction operations generalizing c with
  | nil => exact steady
  | cons operation rest inductionHypothesis =>
      have next : (c.perform operation).1.IsSteady :=
        ⟨perform_consistent steady.consistent operation, moderate 1,
          steady.perform sound operation⟩
      exact inductionHypothesis next fun k => moderate (k + 1)

end Runs

end Controller
end Abstract

namespace Controller

variable {π : Type}

/-- Over machine doubles, with any library for sine, cosine and angle that is roughly
right: as long as the settings stay moderate, no run of a controller over a new point mass
overflows. -/
theorem run_isSafe {t : Trigonometry} (sound : SoundTrigonometry (Doubles t))
    {config : Config (Doubles t)} {interface : Interface} [Sink (Doubles t) π] {sink : π}
    {c : Controller (Doubles t) (PointMass (Doubles t)) π}
    (created : create config (PointMass.create interface) sink = .ok c)
    {operations : List (Operation (Doubles t))} (moderate : c.StaysModerate operations) :
    IsSafe (c.run operations).1 := by
  have bounded : c.plant.IsBounded := by
    rcases exists_settings_of_create created with ⟨settings, -, rfl⟩
    exact PointMass.create_isBounded sound interface
  have steady : c.IsSteady := ⟨create_consistent created, moderate 0, bounded⟩
  exact (steady.run sound moderate).isSafe sound

/-- A library that is right at the angle zero, which is the only angle of a body that never
turns. -/
def stillTrigonometry : Trigonometry :=
  ⟨fun _ => 0, fun _ => 1, fun _ _ => 0⟩

theorem stillTrigonometry_sound : SoundTrigonometry (Doubles stillTrigonometry) := by
  have circle : (1 / 2 : ℝ) ≤ value (0 : Doubles stillTrigonometry) ^ 2 +
      value (1 : Doubles stillTrigonometry) ^ 2 := by
    rw [Rounded.zero.2, Rounded.one.2]
    norm_num
  exact {
    sin_within := fun _ _ => .zero 0
    cos_within := fun _ _ => .one
    half_le := fun _ _ => circle
    isFinite_atan2 := fun _ _ _ _ => Rounded.zero.1
    atan2_within := fun _ _ _ => .zero 2 }

/-- A new controller over a body that is to move ahead. -/
def overStillBody : Controller (Doubles stillTrigonometry) (PointMass (Doubles stillTrigonometry))
    (NullSink (Doubles stillTrigonometry)) where
  config := .position 1
  settings := ⟨⟨1, 1⟩, 1, ⟨20000000⟩, 1, ⟨3000000000⟩⟩
  plant := .create .position
  sink := ⟨⟩
  reference := .create "base_link" .identity ⟨3000000000⟩

/-- The settings of the new controller, with any number of steps. -/
theorem overStillBody_isModerate (substeps : UInt32) :
    Settings.IsModerate { overStillBody.settings with substeps := substeps } := by
  have one : value (1 : Doubles stillTrigonometry) = 1 := Rounded.one.2
  have period : 20000000 < 200000000 := by norm_num
  have gain : value (1 : Doubles stillTrigonometry) ≤ 2 ^ (470 : ℤ) := by
    rw [one]
    exact one_le_zpow₀ one_le_two (by norm_num)
  have reach : value (1 : Doubles stillTrigonometry) * value (1 : Doubles stillTrigonometry) ≤
      2 ^ (920 : ℤ) := by
    rw [one, mul_one]
    exact one_le_zpow₀ one_le_two (by norm_num)
  exact ⟨period, gain, reach⟩

def aheadRun : List (Operation (Doubles stillTrigonometry)) :=
  [.start, .event (.setTarget ⟨⟨1, 0, 0⟩, .identity⟩) 0, .reconfigure 2 1, .update ⟨20000000⟩ 0]

theorem run_isSafe_overStillBody :
    SoundTrigonometry (Doubles stillTrigonometry) ∧
      create (.position 1) (PointMass.create .position) overStillBody.sink = .ok overStillBody ∧
        overStillBody.StaysModerate aheadRun ∧ IsSafe (overStillBody.run aheadRun).1 ∧
          (overStillBody.run aheadRun).1.plant.writes = 1 := by
  have created : create (.position 1) (PointMass.create .position) overStillBody.sink =
      .ok overStillBody := by
    rfl
  have tuned : (overStillBody.run (aheadRun.take 3)).1.settings.IsModerate :=
    overStillBody_isModerate 2
  have moderate : overStillBody.StaysModerate aheadRun := by
    rintro (_ | _ | _ | _ | k)
    · exact overStillBody_isModerate 1
    · exact overStillBody_isModerate 1
    · exact overStillBody_isModerate 1
    · exact tuned
    · have whole : aheadRun.take (k + 4) = aheadRun :=
        List.take_of_length_le (Nat.le_add_left 4 k)
      have split : aheadRun = aheadRun.take 3 ++ [.update ⟨20000000⟩ 0] := rfl
      rw [whole, split, run_append]
      generalize overStillBody.run (aheadRun.take 3) = before at tuned ⊢
      change (before.1.update ⟨20000000⟩ 0).1.settings.IsModerate
      rw [(update_settings before.1 _ _).2]
      exact tuned
  exact ⟨stillTrigonometry_sound, created, moderate,
    run_isSafe stillTrigonometry_sound created moderate, by decide +kernel⟩

instance (command : JointCommand Float) : Decidable command.IsFinite :=
  inferInstanceAs (Decidable (∀ component ∈ _, Scalar.isFinite component = true))

/-- After some updates toward a target, the next one succeeds and writes a command that is
not finite. -/
def Overflows (config : Config Float) (target : Pose Float) (updates : ℕ) : Prop :=
  ∃ c : Controller Float (PointMass Float) (NullSink Float),
    create config (.create .position) ⟨⟩ = .ok c ∧
      let before := (c.run
        (.start :: .event (.setTarget target) 0 :: List.replicate updates (.update 0 0))).1
      (before.update 0 0).2 = .ok () ∧
        ∃ command, (before.update 0 0).1.plant.written = some command ∧ ¬ command.IsFinite

/-- A configuration that checks can overflow by its gain in the first step, by its limit on
the distance alone in the first step, and by its period alone in the second. -/
theorem overflows_by_configuration :
    Overflows { Config.position 1 with errorScale := 1e308 } ⟨⟨1, 0, 0⟩, .identity⟩ 0 ∧
      Overflows { Config.position 1 with maxDistance := 1e308 } ⟨⟨1e308, 0, 0⟩, .identity⟩ 0 ∧
        Overflows { Config.position 1 with maxDistance := 1e270, internalPeriodSecs := 1e18 }
          ⟨⟨1e270, 0, 0⟩, .identity⟩ 1 := by
  have gain : ({ Config.position 1 with errorScale := 1e308 } : Config Float).check =
      .ok ⟨⟨1, 1⟩, 1, ⟨20000000⟩, 1e308, ⟨3000000000⟩⟩ := by
    decide +kernel
  have distance : ({ Config.position 1 with maxDistance := 1e308 } : Config Float).check =
      .ok ⟨⟨1, 1e308⟩, 1, ⟨20000000⟩, 1, ⟨3000000000⟩⟩ := by
    decide +kernel
  have period : ({ Config.position 1 with
      maxDistance := 1e270, internalPeriodSecs := 1e18 } : Config Float).check =
        .ok ⟨⟨1, 1e270⟩, 1, ⟨1000000000000000000000000000⟩, 1, ⟨3000000000⟩⟩ := by
    decide +kernel
  exact ⟨⟨_, create_of_checked gain _ _, by decide +kernel, by decide +kernel⟩,
    ⟨_, create_of_checked distance _ _, by decide +kernel, by decide +kernel⟩,
    ⟨_, create_of_checked period _ _, by decide +kernel, by decide +kernel⟩⟩

end Controller
end MotionControl
