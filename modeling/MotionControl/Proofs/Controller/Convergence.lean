import MotionControl.Proofs.Controller.Rest
import MotionControl.Proofs.PointMass.Descent

/-!
# Convergence of the standard loop

A controller with the standard ceilings, gain and step length, over the standard
point mass, brings it from any pose to any target.  `Follows` is the invariant:
the body is on a course toward the target.  A tick makes all of its steps, each
of which advances the course by one, and the course is the same for every number
of steps per tick, for every outer period and for every interface; these only say
which of its poses a tick ends at.
-/

namespace MotionControl
namespace Controller

/-- The calls of a tick toward a target, with its steps made at the given poses
under the standard ceilings, gain and step length.  None of them fails. -/
noncomputable def stepsToward (target : Pose Exact) (poses : ℕ → Pose Exact) (n : ℕ) :
    List (PlantCall Exact) :=
  (List.range n).map (fun i => .synthesize (poses i)
    (motionError target (poses i) Config.standard.limits) Config.standardPeriod (.ok ())) ++
    [.write (.ok ())]

/-- Updates with the given outer periods and wall times. -/
def updates (spans : List (Duration × Duration)) : List (Operation Exact) :=
  spans.map fun span => .update span.1 span.2

variable {π : Type}

section Trip

variable {σ : Type} [Plant Exact σ] [Sink Exact π]

/-- None of the updates fails, and their steps, `n` of them in each, are made at
one pose of the sequence after the other. -/
structure IsTrip (c : Controller Exact (Recorded Exact σ) π) (n : ℕ) (target : Pose Exact)
    (poses : ℕ → Pose Exact) (spans : List (Duration × Duration)) : Prop where
  answers : ∀ report ∈ (c.run (updates spans)).2, report.answer = .done
  pose_eq : Plant.pose (c.run (updates spans)).1.plant = poses (n * spans.length)
  calls_eq : (c.run (updates spans)).1.plant.calls = c.plant.calls ++
    (List.range spans.length).flatMap fun j => stepsToward target (fun i => poses (n * j + i)) n

theorem IsTrip.nil {c : Controller Exact (Recorded Exact σ) π} {poses : ℕ → Pose Exact}
    (pose : Plant.pose c.plant = poses 0) (n : ℕ) (target : Pose Exact) :
    c.IsTrip n target poses [] where
  answers := by
    intro report member
    cases member
  pose_eq := pose
  calls_eq := (List.append_nil c.plant.calls).symm

/-- A trip goes on where its first update has ended. -/
theorem IsTrip.cons {c : Controller Exact (Recorded Exact σ) π} {n : ℕ} {target : Pose Exact}
    {poses : ℕ → Pose Exact} {span : Duration × Duration} {spans : List (Duration × Duration)}
    (succeeded : (c.update span.1 span.2).2 = .ok ())
    (calls : (c.update span.1 span.2).1.plant.calls = c.plant.calls ++ stepsToward target poses n)
    (others : (c.update span.1 span.2).1.IsTrip n target (fun k => poses (k + n)) spans) :
    c.IsTrip n target poses (span :: spans) where
  answers := by
    intro report member
    rcases List.mem_cons.mp member with rfl | member
    · exact congrArg plantAnswer succeeded
    · exact others.answers report member
  pose_eq := others.pose_eq
  calls_eq := by
    refine others.calls_eq.trans ?_
    rw [calls, List.append_assoc, List.length_cons, List.range_succ_eq_map, List.flatMap_cons,
      List.flatMap_map]
    simp only [mul_zero, zero_add, Nat.mul_succ, Nat.add_right_comm]

end Trip

/-- The body of the controller is on a course toward its target, and the settings
are the standard ones but for the number of steps. -/
structure Follows (c : Controller Exact (Recorded Exact (PointMass Exact)) π) (course : Course)
    (target : Pose ℝ) (direction axis : Vec3 ℝ) : Prop where
  plant : ∃ body : PointMass ℝ, c.plant.plant = body.toExact ∧ body.IsOn course direction axis
  approaches : course.Approaches target direction axis
  target_eq : c.reference.target = target.toExact
  running : c.paused = false
  limits_eq : c.settings.limits = Config.standard.limits
  errorScale_eq : c.settings.errorScale = .real 1
  internalPeriod_eq : c.settings.internalPeriod = Config.standardPeriod

namespace Follows

variable {c : Controller Exact (Recorded Exact (PointMass Exact)) π} {course : Course}
  {target : Pose ℝ} {direction axis : Vec3 ℝ}

theorem requestAt_eq (follows : c.Follows course target direction axis) (i : ℕ) :
    c.requestAt ((Course.next direction axis)^[i] course).pose.toExact =
      motionError target.toExact ((Course.next direction axis)^[i] course).pose.toExact
        Config.standard.limits := by
  have whole (v : SpatialVector ℝ) : v.toExact.scale (.real 1) = v.toExact := by
    rw [SpatialVector.toExact_scale]
    exact congrArg SpatialVector.toExact (SpatialVector.ext v.linear.scale_one v.angular.scale_one)
  rw [requestAt, follows.target_eq, follows.limits_eq, follows.errorScale_eq,
    (follows.approaches.iterate i).motionError_eq, whole]

/-- A step of a tick whose plant is on the course. -/
theorem synthesize_eq (follows : c.Follows course target direction axis) {i : ℕ}
    {body : PointMass ℝ} (plant : c.plantBefore i = body.toExact)
    (on : body.IsOn ((Course.next direction axis)^[i] course) direction axis) :
    ∃ next : PointMass ℝ,
      next.IsOn ((Course.next direction axis)^[i + 1] course) direction axis ∧
      Plant.synthesize (c.plantBefore i) (c.requestAt (c.poseBefore i))
        c.settings.internalPeriod = (next.toExact, .ok ()) := by
  have pose : c.poseBefore i = ((Course.next direction axis)^[i] course).pose.toExact := by
    rw [poseBefore, plant, on.toExact_pose]
  rcases on.synthesize (follows.approaches.iterate i) with ⟨next, nextOn, step⟩
  rw [← Function.iterate_succ_apply' (Course.next direction axis)] at nextOn
  refine ⟨next, nextOn, ?_⟩
  rw [pose, follows.requestAt_eq, follows.internalPeriod_eq, plant]
  exact step

/-- Every step of a tick advances the course by one. -/
theorem exists_plantBefore (follows : c.Follows course target direction axis) (i : ℕ) :
    ∃ body : PointMass ℝ, c.plantBefore i = body.toExact ∧
      body.IsOn ((Course.next direction axis)^[i] course) direction axis := by
  induction i with
  | zero => exact follows.plant
  | succ i inductionHypothesis =>
      rcases inductionHypothesis with ⟨body, plant, on⟩
      rcases follows.synthesize_eq plant on with ⟨next, nextOn, step⟩
      exact ⟨next, congrArg Prod.fst step, nextOn⟩

theorem stepCall_eq (follows : c.Follows course target direction axis) (i : ℕ) :
    c.stepCall i = .synthesize ((Course.next direction axis)^[i] course).pose.toExact
      (motionError target.toExact ((Course.next direction axis)^[i] course).pose.toExact
        Config.standard.limits) Config.standardPeriod (.ok ()) := by
  rcases follows.exists_plantBefore i with ⟨body, plant, on⟩
  rcases follows.synthesize_eq plant on with ⟨next, -, step⟩
  have pose : c.poseBefore i = ((Course.next direction axis)^[i] course).pose.toExact := by
    rw [poseBefore, plant, on.toExact_pose]
  rw [stepCall, step, pose, follows.requestAt_eq, follows.internalPeriod_eq]

theorem firstFault_eq (follows : c.Follows course target direction axis) (n : ℕ) :
    PlantCall.firstFault (c.stepCalls n) = .ok () := by
  rw [PlantCall.firstFault_eq_ok_iff, forall_mem_stepCalls]
  intro i _
  rw [follows.stepCall_eq]
  rfl

theorem halts (follows : c.Follows course target direction axis) (n : ℕ) : c.Halts n n where
  le := le_rfl
  failure_last := by
    intro i _ failed
    rw [follows.stepCall_eq] at failed
    exact absurd rfl failed
  full := fun _ => rfl

theorem calls_eq (follows : c.Follows course target direction axis) (n : ℕ) :
    c.stepCalls n ++ c.writesAfter n =
      stepsToward target.toExact
        (fun i => ((Course.next direction axis)^[i] course).pose.toExact) n := by
  rcases follows.exists_plantBefore n with ⟨body, plant, -⟩
  have steps : c.stepCall = fun i => _ := funext follows.stepCall_eq
  rw [writesAfter, follows.firstFault_eq, plant, stepCalls, steps]
  rfl

variable [Sink Exact π]

/-- An update succeeds and leaves the body where the course is after as many
steps. -/
theorem update (follows : c.Follows course target direction axis) {n : ℕ}
    (count : c.settings.substeps.toNat = n) (period elapsed : Duration) :
    (c.update period elapsed).2 = .ok () ∧
      (c.update period elapsed).1.plant.calls = c.plant.calls ++ stepsToward target.toExact
        (fun i => ((Course.next direction axis)^[i] course).pose.toExact) n ∧
      (c.update period elapsed).1.Follows ((Course.next direction axis)^[n] course) target
        direction axis := by
  have halts : c.Halts c.settings.substeps.toNat n := count ▸ follows.halts n
  have result := tick_result halts
  have calls := tick_calls halts
  have plant := tick_plant halts
  have advances := tick_advances c
  rw [follows.calls_eq] at calls
  rw [follows.firstFault_eq] at plant
  rcases follows.exists_plantBefore n with ⟨body, before, on⟩
  rw [update_of_running follows.running]
  refine ⟨?_, calls, ?_⟩
  · rw [PlantCall.firstFault_append _ ((PlantCall.firstFault_eq_ok_iff _).mp
      (follows.firstFault_eq n)), writesAfter, follows.firstFault_eq, before] at result
    exact result
  · rw [before] at plant
    exact {
      plant := ⟨body.write.1, plant, on.write⟩
      approaches := follows.approaches.iterate n
      target_eq := advances.target_eq.trans follows.target_eq
      running := advances.paused_eq.trans follows.running
      limits_eq := (congrArg Settings.limits advances.settings_eq).trans follows.limits_eq
      errorScale_eq :=
        (congrArg Settings.errorScale advances.settings_eq).trans follows.errorScale_eq
      internalPeriod_eq :=
        (congrArg Settings.internalPeriod advances.settings_eq).trans follows.internalPeriod_eq }

theorem isTrip (follows : c.Follows course target direction axis) {n : ℕ}
    (count : c.settings.substeps.toNat = n) (spans : List (Duration × Duration)) :
    c.IsTrip n target.toExact
      (fun k => ((Course.next direction axis)^[k] course).pose.toExact) spans := by
  induction spans generalizing c course with
  | nil =>
      rcases follows.plant with ⟨body, plant, on⟩
      apply IsTrip.nil
      change Plant.pose c.plant.plant = course.pose.toExact
      rw [plant, on.toExact_pose]
  | cons span spans inductionHypothesis =>
      rcases follows.update count span.1 span.2 with ⟨succeeded, calls, later⟩
      have settings := (update_settings c span.1 span.2).2
      have others := inductionHypothesis later (by rw [settings, count])
      -- the rest starts `n` steps further on the same course
      simp only [← Function.iterate_add_apply] at others
      exact .cons succeeded calls others

end Follows

/-! ## From the first start -/

variable {config : Config Exact} {initial target : Pose ℝ} {sink : π}
  {interface : Interface} {c : Controller Exact (Recorded Exact (PointMass Exact)) π}
  {event : Event Exact}

/-- After a start and an event that sets the target, the body is on a course from
rest. -/
theorem start_follows {direction axis : Vec3 ℝ} {distance angle : ℝ}
    (approaches : (⟨initial, ⟨distance, 0⟩, ⟨angle, 0⟩⟩ : Course).Approaches target direction axis)
    (limits : config.limits = Config.standard.limits)
    (errorScale : config.errorScale = Config.standard.errorScale)
    (internalPeriodSecs : config.internalPeriodSecs = Config.standard.internalPeriodSecs)
    (created : create config ⟨(PointMass.create interface).withPose initial.toExact, []⟩ sink =
      .ok c)
    (sets : c.start.1.reference.Sets event target.toExact) (now : ℕ) :
    c.start.2.1 = .ok () ∧
      (c.start.1.handle event now).1.settings.substeps = config.substeps ∧
      (c.start.1.handle event now).1.Follows ⟨initial, ⟨distance, 0⟩, ⟨angle, 0⟩⟩ target
        direction axis := by
  have reached := sets.handle_target now
  rcases exists_settings_of_create created with ⟨settings, checked, made⟩
  have checks := (Config.check_eq_ok_iff config settings).mp checked
  have body : c.plant.plant = ((PointMass.create interface).withPose initial).toExact := by
    rw [made, PointMass.toExact_create_withPose]
  have started := start_of_synced (sync_eq body)
  have period : settings.internalPeriod = Config.standardPeriod := by
    have same := checks.internalPeriod
    rw [internalPeriodSecs, Config.standard_internalPeriod] at same
    injection same with same
    exact same.symm
  rw [started] at reached ⊢
  refine ⟨rfl, ?_, ?_⟩
  · change c.settings.substeps = config.substeps
    rw [made, ← checks.substeps_eq]
  · exact {
      plant := ⟨_, rfl, .start interface initial direction axis distance angle⟩
      approaches := approaches
      target_eq := reached
      running := by
        change c.paused = false
        rw [made]
      limits_eq := by
        change c.settings.limits = _
        rw [made, checks.limits_eq, limits]
      errorScale_eq := by
        change c.settings.errorScale = _
        rw [made, checks.errorScale_eq, errorScale]
        rfl
      internalPeriod_eq := by
        change c.settings.internalPeriod = _
        rw [made, period] }

variable [Sink Exact π]

/-- A controller with the standard ceilings, gain and step length, on any
interface and with any number of steps per tick, brings the standard body from
any pose to any target that an event sets, and no update ever fails. -/
theorem start_converges (initialUnit : initial.rotation.IsRotation)
    (targetUnit : target.rotation.IsRotation)
    (limits : config.limits = Config.standard.limits)
    (errorScale : config.errorScale = Config.standard.errorScale)
    (internalPeriodSecs : config.internalPeriodSecs = Config.standard.internalPeriodSecs)
    (created : create config ⟨(PointMass.create interface).withPose initial.toExact, []⟩ sink =
      .ok c)
    (sets : c.start.1.reference.Sets event target.toExact) (now : ℕ) :
    c.start.2.1 = .ok () ∧ ∃ poses distance angle,
      poses 0 = initial ∧ Converges target poses distance angle ∧
      ∀ spans, (c.start.1.handle event now).1.IsTrip config.substeps.toNat target.toExact
        (fun k => (poses k).toExact) spans := by
  rcases Course.exists_approaches targetUnit initialUnit with
    ⟨direction, axis, distance, angle, approaches⟩
  rcases start_follows approaches limits errorScale internalPeriodSecs created sets now with
    ⟨succeeded, substeps, follows⟩
  refine ⟨succeeded, _, _, _, rfl, approaches.converges, ?_⟩
  intro spans
  exact follows.isTrip (congrArg UInt32.toNat substeps) spans

/-- A half turn and a way of five, with three steps per tick. -/
theorem start_converges_halfTurn :
    ∃ c : Controller Exact (Recorded Exact (PointMass Exact)) (PoseHistory Exact),
      create (.position 3)
          ⟨(PointMass.create .position).withPose (Pose.toExact ⟨0, 1⟩), []⟩ ⟨[]⟩ = .ok c ∧
      c.start.2.1 = .ok () ∧ ∃ poses distance angle,
        poses 0 = ⟨0, 1⟩ ∧ Converges ⟨⟨3, 4, 0⟩, ⟨1, 0, 0, 0⟩⟩ poses distance angle ∧
        ∀ spans, (c.start.1.handle (.setTarget (Pose.toExact ⟨⟨3, 4, 0⟩, ⟨1, 0, 0, 0⟩⟩)) 0).1.IsTrip
          3 (Pose.toExact ⟨⟨3, 4, 0⟩, ⟨1, 0, 0, 0⟩⟩) (fun k => (poses k).toExact) spans := by
  have initialUnit : (⟨0, 1⟩ : Pose ℝ).rotation.IsRotation := .one
  have targetUnit : (⟨⟨3, 4, 0⟩, ⟨1, 0, 0, 0⟩⟩ : Pose ℝ).rotation.IsRotation :=
    Quat.halfTurn_isPolar.isRotation
  have limits : (Config.position 3 : Config Exact).limits = Config.standard.limits := rfl
  have created := create_of_checked (Config.check_position 3 (by decide))
    (⟨(PointMass.create .position).withPose (Pose.toExact ⟨0, 1⟩), []⟩ :
      Recorded Exact (PointMass Exact)) (⟨[]⟩ : PoseHistory Exact)
  exact ⟨_, created, start_converges initialUnit targetUnit limits rfl rfl created
    (.setTarget _) 0⟩

end Controller
end MotionControl
