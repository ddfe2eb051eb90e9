import MotionControl.Proofs.Config.Check
import MotionControl.Proofs.Controller.Lifecycle
import MotionControl.Proofs.Double.Zero
import MotionControl.Proofs.Node.Pace

/-!
# The node at rest

Until an event arrives the target is the pose that the plant started in, and the error
between the two is an exact zero, whatever the limits are.  Scaled by an accepted gain it
is a zero of either sign, and a step of any length leaves the plant in the state it had:
the spring does not pull, the damper does not brake, and turning by nothing is the
identity.  So every sub-step succeeds, and so does every tick.
-/

namespace MotionControl

open Double (IsZero isZero_mul isZero_zero)

/-! ## Nothing to correct -/

/-- A limit, also one that is not a number, leaves nothing to cut off from zero. -/
theorem least_zero_greatest (limit : Float) :
    Scalar.least 0 (Scalar.greatest limit 0) = (0 : Float) := by
  have number : Scalar.isNaN (0 : Float) = false := by decide
  rw [Scalar.greatest, number, Bool.or_false]
  by_cases nonneg : (0 : Float) ≤ limit
  · rw [if_pos (decide_eq_true nonneg), Scalar.least, decide_eq_true nonneg, Bool.true_or,
      if_pos rfl]
  · rw [if_neg (by rwa [decide_eq_true_eq])]
    decide

/-- The pose that the node starts in has no error to itself. -/
theorem motionError_identity (limits : ErrorLimits Float) :
    motionError .identity .identity limits = 0 := by
  have turn : ((Pose.identity : Pose Float).rotation *
      (Pose.identity : Pose Float).rotation.conjugate).axisAngle = (0, 0) := by
    decide +kernel
  have way : ((Pose.identity : Pose Float).position -
      (Pose.identity : Pose Float).position).directionDistance = (0, 0) := by
    decide +kernel
  rw [motionError, turn, way]
  simp only [ErrorLimits.distanceCeiling, ErrorLimits.angleCeiling, least_zero_greatest]
  decide +kernel

theorem isZero_scale_zero {gain : Float} (finite : gain.isFinite = true) :
    ∃ e : Float, IsZero e ∧ (0 : SpatialVector Float).scale gain = ⟨⟨e, e, e⟩, ⟨e, e, e⟩⟩ :=
  ⟨0 * gain, isZero_mul isZero_zero finite, rfl⟩

/-! ## The plant -/

namespace PointMass

/-- In the state of its creation, apart from the commands. -/
structure IsStill (plant : PointMass Float) : Prop where
  pose_eq : plant.pose = .identity
  velocity_eq : plant.velocity = 0
  mass_eq : plant.mass = 1
  inertia_eq : plant.inertia = 1
  stiffness_eq : plant.stiffness = ((25 : ℕ) : Float)
  damping_eq : plant.damping = ((10 : ℕ) : Float)
  workspaceRadius_eq : plant.workspaceRadius = none

theorem create_isStill (interface : Interface) : (create interface).IsStill :=
  ⟨rfl, rfl, rfl, rfl, rfl, rfl, rfl⟩

namespace IsStill

variable {plant : PointMass Float}

/-- The spring does not pull and the damper does not brake. -/
theorem nextVelocity_eq (still : plant.IsStill) {e dt : Float} (none : IsZero e)
    (finite : dt.isFinite = true) : plant.nextVelocity ⟨⟨e, e, e⟩, ⟨e, e, e⟩⟩ dt = 0 := by
  have push : IsZero ((e * ((25 : ℕ) : Float) - 0 * ((10 : ℕ) : Float)) / 1) := by
    rcases none with rfl | rfl
    · left
      decide +kernel
    · right
      decide +kernel
  have kept : (0 : Float) + (e * ((25 : ℕ) : Float) - 0 * ((10 : ℕ) : Float)) / 1 * dt = 0 := by
    rcases isZero_mul push finite with zero | zero
    · rw [zero]
      decide +kernel
    · rw [zero]
      decide +kernel
  rw [nextVelocity, still.velocity_eq, still.mass_eq, still.inertia_eq, still.stiffness_eq,
    still.damping_eq]
  exact SpatialVector.ext (Vec3.ext kept kept kept) (Vec3.ext kept kept kept)

/-- Moving by nothing, and turning by nothing, keeps the pose. -/
theorem nextPose_eq (still : plant.IsStill) {dt : Float} (finite : dt.isFinite = true) :
    plant.nextPose 0 dt = .identity := by
  rw [nextPose, still.pose_eq]
  obtain ⟨step, zero⟩ : ∃ step, step = (0 : Float) * dt := ⟨_, rfl⟩
  have scaled : (0 : Vec3 Float).scale dt = ⟨step, step, step⟩ := by
    rw [zero]
    rfl
  have none : IsZero step := zero ▸ isZero_mul isZero_zero finite
  change (⟨Pose.identity.position + (0 : Vec3 Float).scale dt,
    (Quat.ofRotationVector ((0 : Vec3 Float).scale dt) * Pose.identity.rotation).renormalize⟩ :
      Pose Float) = _
  rw [scaled]
  rcases none with rfl | rfl
  · decide +kernel
  · decide +kernel

/-- A step under no error is no motion. -/
theorem synthesize (still : plant.IsStill) {e : Float} (none : IsZero e) {period : Duration}
    (below : period.nanoseconds < Duration.limit) :
    plant.synthesize ⟨⟨e, e, e⟩, ⟨e, e, e⟩⟩ period =
      ({ plant with simulated := .ofState .identity 0 }, .ok ()) := by
  have dt := Double.isFinite_seconds below
  have usable : (⟨⟨e, e, e⟩, ⟨e, e, e⟩⟩ : SpatialVector Float).isFinite = true := by
    rcases none with rfl | rfl
    · decide +kernel
    · decide +kernel
  have free : plant.violatedRadius? (Pose.identity : Pose Float).position = Option.none := by
    rw [violatedRadius?, still.workspaceRadius_eq]
    rfl
  simp only [PointMass.synthesize, usable, Bool.not_true, Bool.false_eq_true, if_false,
    still.nextVelocity_eq none dt, still.nextPose_eq dt, free]
  rw [← still.pose_eq, ← still.velocity_eq]

end IsStill

end PointMass

/-! ## The controller -/

namespace Controller

variable {π : Type}

/-- Aimed at the pose that its still plant has. -/
structure IsResting (c : Controller Float (PointMass Float) π) : Prop where
  plant : c.plant.IsStill
  target_eq : c.reference.target = .identity
  running : c.paused = false
  errorScale : c.settings.errorScale.isFinite = true
  internalPeriod : c.settings.internalPeriod.nanoseconds < Duration.limit

/-- The second controller is what some ticks and some sub-steps make of the first: nothing
but the counters has moved. -/
structure Idles (before after : Controller Float (PointMass Float) π) (ticks substeps : ℕ) :
    Prop where
  resting : after.IsResting
  settings_eq : after.settings = before.settings
  ticks_eq : after.stats.ticks = before.stats.ticks + ticks
  failedTicks_eq : after.stats.failedTicks = before.stats.failedTicks
  substeps_eq : after.stats.substeps = before.stats.substeps + substeps
  writes_eq : after.plant.writes = before.plant.writes + ticks

namespace Idles

theorem refl {c : Controller Float (PointMass Float) π} (resting : c.IsResting) : Idles c c 0 0 :=
  ⟨resting, rfl, rfl, rfl, rfl, rfl⟩

theorem trans {first second third : Controller Float (PointMass Float) π} {j k m n : ℕ}
    (front : Idles first second j m) (back : Idles second third k n) :
    Idles first third (j + k) (m + n) where
  resting := back.resting
  settings_eq := back.settings_eq.trans front.settings_eq
  ticks_eq := by rw [back.ticks_eq, front.ticks_eq, Nat.add_assoc]
  failedTicks_eq := back.failedTicks_eq.trans front.failedTicks_eq
  substeps_eq := by rw [back.substeps_eq, front.substeps_eq, Nat.add_assoc]
  writes_eq := by rw [back.writes_eq, front.writes_eq, Nat.add_assoc]

end Idles

namespace IsResting

variable {c : Controller Float (PointMass Float) π}

theorem request_eq (resting : c.IsResting) :
    ∃ e : Float, IsZero e ∧ c.request = ⟨⟨e, e, e⟩, ⟨e, e, e⟩⟩ := by
  have pose : Plant.pose c.plant = Pose.identity := resting.plant.pose_eq
  rw [request, resting.target_eq, pose, motionError_identity]
  exact isZero_scale_zero resting.errorScale

variable [Sink Float π]

theorem substep (resting : c.IsResting) :
    c.substep.2 = .ok () ∧ Idles c c.substep.1 0 1 := by
  rcases resting.request_eq with ⟨e, none, request⟩
  have step : Plant.synthesize c.plant c.request c.settings.internalPeriod = _ :=
    request ▸ resting.plant.synthesize none resting.internalPeriod
  rw [substep_eq, step]
  have still := resting.plant
  exact ⟨rfl, {
    resting := {
      plant := ⟨still.pose_eq, still.velocity_eq, still.mass_eq, still.inertia_eq,
        still.stiffness_eq, still.damping_eq, still.workspaceRadius_eq⟩
      target_eq := resting.target_eq
      running := resting.running
      errorScale := resting.errorScale
      internalPeriod := resting.internalPeriod }
    settings_eq := rfl
    ticks_eq := rfl
    failedTicks_eq := rfl
    substeps_eq := rfl
    writes_eq := rfl }⟩

theorem runSubsteps (n : ℕ) {c : Controller Float (PointMass Float) π} (resting : c.IsResting) :
    (c.runSubsteps n).2 = .ok () ∧ Idles c (c.runSubsteps n).1 0 n := by
  induction n generalizing c with
  | zero => exact ⟨rfl, .refl resting⟩
  | succ n inductionHypothesis =>
      rcases resting.substep with ⟨succeeds, first⟩
      rcases inductionHypothesis first.resting with ⟨rest, others⟩
      have unfolded : c.runSubsteps (n + 1) = c.substep.1.runSubsteps n := by
        rw [Controller.runSubsteps_succ]
        cases stepped : c.substep with
        | mk next result =>
            rw [stepped] at succeeds
            cases succeeds
            rfl
      rw [unfolded, Nat.add_comm n 1]
      exact ⟨rest, first.trans others⟩

/-- A tick runs its sub-steps and writes once, whatever its period is and however long it
takes. -/
theorem update (resting : c.IsResting) (period elapsed : Duration) :
    (c.update period elapsed).2 = .ok () ∧
      Idles c (c.update period elapsed).1 1 c.settings.substeps.toNat := by
  rcases resting.runSubsteps c.settings.substeps.toNat with ⟨succeeds, steps⟩
  have written : c.tick = (c.runSubsteps c.settings.substeps.toNat).1.writeCommands := by
    rw [tick_eq]
    cases stepped : c.runSubsteps c.settings.substeps.toNat with
    | mk next result =>
        rw [stepped] at succeeds
        cases succeeds
        rfl
  have still := steps.resting.plant
  rw [update_of_running resting.running, written]
  exact ⟨rfl, {
    resting := {
      plant := ⟨still.pose_eq, still.velocity_eq, still.mass_eq, still.inertia_eq,
        still.stiffness_eq, still.damping_eq, still.workspaceRadius_eq⟩
      target_eq := steps.resting.target_eq
      running := steps.resting.running
      errorScale := steps.resting.errorScale
      internalPeriod := steps.resting.internalPeriod }
    settings_eq := steps.settings_eq
    ticks_eq := congrArg (· + 1) steps.ticks_eq
    failedTicks_eq := steps.failedTicks_eq
    substeps_eq := steps.substeps_eq
    writes_eq := congrArg (· + 1) steps.writes_eq }⟩

end IsResting

end Controller

/-! ## The node -/

namespace Node

open Controller (Idles)

theorem tick_idles {node : Node} (resting : node.controller.IsResting) (period elapsed : Duration) :
    (node.tick period elapsed).2 = [] ∧
      Idles node.controller (node.tick period elapsed).1.controller 1
        node.controller.settings.substeps.toNat := by
  rcases resting.update period elapsed with ⟨succeeds, idles⟩
  have quiet : (node.tick period elapsed).2 = [] := by
    simp only [tick, succeeds]
  -- the observer takes what is in the queue, and nothing else
  exact ⟨quiet, ⟨⟨idles.resting.plant, idles.resting.target_eq, idles.resting.running,
    idles.resting.errorScale, idles.resting.internalPeriod⟩, idles.settings_eq, idles.ticks_eq,
    idles.failedTicks_eq, idles.substeps_eq, idles.writes_eq⟩⟩

/-- Any number of ticks, none of which fails. -/
theorem ticks_idle (turns : List Turn) {node : Node} (resting : node.controller.IsResting)
    (last : Instant) :
    (node.ticks last turns).2 = [] ∧
      Idles node.controller (node.ticks last turns).1.controller turns.length
        (turns.length * node.controller.settings.substeps.toNat) := by
  induction turns generalizing node last with
  | nil =>
      rw [List.length_nil, Nat.zero_mul]
      exact ⟨rfl, .refl resting⟩
  | cons turn rest inductionHypothesis =>
      rcases tick_idles resting (turn.began.since last) turn.elapsed with ⟨quiet, first⟩
      rcases inductionHypothesis first.resting turn.began with ⟨silent, others⟩
      rw [first.settings_eq] at others
      have lines : (node.ticks last (turn :: rest)).2 =
          (node.tick (turn.began.since last) turn.elapsed).2 ++
            ((node.tick (turn.began.since last) turn.elapsed).1.ticks turn.began rest).2 := rfl
      have idles := first.trans others
      rw [Nat.add_comm 1, Nat.add_comm node.controller.settings.substeps.toNat,
        ← Nat.succ_mul] at idles
      rw [lines, quiet, silent]
      exact ⟨rfl, idles⟩

end Node

end MotionControl
