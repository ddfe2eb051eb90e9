import MotionControl.Proofs.Config.Exact
import MotionControl.Proofs.Controller.Configuration
import MotionControl.Proofs.Controller.Writers
import MotionControl.Proofs.PointMass.Motion

/-!
# Starting without a jump

A start takes target and published pose from the plant after it has
synchronised, so there is nothing to correct at first.  Over a point mass nothing
comes up later either: as long as no event takes effect, the body is at rest at
its target, every error is zero, and a step without error leaves a body at rest
alone.  `Rests` is that invariant.  It does not matter whether the steps are
carried out; a workspace that the pose lies outside of makes them all fail.
-/

namespace MotionControl

/-- A call at the given pose; a step has no error to follow. -/
def PlantCall.IsIdle (pose : Pose Exact) : PlantCall Exact → Prop
  | .synthesize place error _ _ => place = pose ∧ error = 0
  | .write _ | .sync _ => True

namespace Controller

/-- What a start does, over any plant. -/
structure StartsInPlace {α σ π : Type} [Plant α σ] (c : Controller α σ π) : Prop where
  result_eq : c.start.2.1 = (Plant.sync c.plant).2
  failed : c.start.2.1 ≠ .ok () → c.start.1 = { c with plant := (Plant.sync c.plant).1 }
  plant_eq : c.start.1.plant = (Plant.sync c.plant).1
  target_eq : c.start.2.1 = .ok () → c.start.1.reference.target = Plant.pose c.start.1.plant
  lastPublished_eq : c.start.2.1 = .ok () →
    c.start.1.reference.lastPublished = Plant.pose c.start.1.plant

/-- No event among the operations takes effect. -/
def Refuses {α σ π : Type} [Scalar α] (c : Controller α σ π) (operations : List (Operation α)) :
    Prop :=
  ∀ event now, .event event now ∈ operations → ¬ event.TakesEffect c.reference.baseLink

theorem startsInPlace {α σ π : Type} [Plant α σ] (c : Controller α σ π) : c.StartsInPlace := by
  cases synced : Plant.sync c.plant with
  | mk plant result =>
      cases result with
      | ok done =>
          have started := start_of_synced synced
          exact {
            result_eq := by rw [started, synced]
            failed := by
              intro fails
              rw [started] at fails
              exact absurd rfl fails
            plant_eq := by rw [started, synced]
            target_eq := by
              intro _
              rw [started]
              rfl
            lastPublished_eq := by
              intro _
              rw [started]
              rfl }
      | error fault =>
          have started := start_of_fault synced
          exact {
            result_eq := by rw [started, synced]
            failed := by
              intro _
              rw [started, synced]
            plant_eq := by rw [started, synced]
            target_eq := by
              intro succeeds
              rw [started] at succeeds
              cases succeeds
            lastPublished_eq := by
              intro succeeds
              rw [started] at succeeds
              cases succeeds }

/-! ## The invariant -/

theorem Consistent.errorScale_real {σ π : Type} {c : Controller Exact σ π}
    (consistent : c.Consistent) : ∃ k, c.settings.errorScale = .real k := by
  have accepted := consistent.errorScale
  rw [consistent.errorScale_eq]
  cases scale : c.config.errorScale with
  | real k => exact ⟨k, rfl⟩
  | nan =>
      rw [scale] at accepted
      cases accepted
  | infinite negative =>
      rw [scale] at accepted
      cases accepted

section PointMass

variable {π : Type}

/-- The body is at rest at the target. -/
structure Rests (c : Controller Exact (Recorded Exact (PointMass Exact)) π)
    (body : PointMass ℝ) : Prop where
  plant_eq : c.plant.plant = body.toExact
  resting : body.IsResting
  target_eq : c.reference.target = body.pose.toExact
  consistent : c.Consistent

/-- The second controller is what idle calls make of the first: the body `later`
that it has is at rest in the place of `body`. -/
structure StaysIdle (before after : Controller Exact (Recorded Exact (PointMass Exact)) π)
    (body later : PointMass ℝ) : Prop where
  rests : after.Rests later
  idles : body.Idles later
  calls : ∃ calls, after.plant.calls = before.plant.calls ++ calls ∧
    ∀ call ∈ calls, call.IsIdle body.pose.toExact

theorem StaysIdle.trans {first second third : Controller Exact (Recorded Exact (PointMass Exact)) π}
    {body middle later : PointMass ℝ} (early : StaysIdle first second body middle)
    (late : StaysIdle second third middle later) : StaysIdle first third body later where
  rests := late.rests
  idles := early.idles.trans late.idles
  calls := by
    rcases early.calls with ⟨front, frontEq, frontIdle⟩
    rcases late.calls with ⟨back, backEq, backIdle⟩
    rw [early.idles.pose_eq] at backIdle
    refine ⟨front ++ back, ?_, ?_⟩
    · rw [backEq, frontEq, List.append_assoc]
    · intro call member
      rcases List.mem_append.mp member with inside | inside
      · exact frontIdle call inside
      · exact backIdle call inside

variable {c : Controller Exact (Recorded Exact (PointMass Exact)) π} {body : PointMass ℝ}

theorem writesAfter_isIdle (c : Controller Exact (Recorded Exact (PointMass Exact)) π) (k : ℕ)
    (pose : Pose Exact) : ∀ call ∈ c.writesAfter k, call.IsIdle pose := by
  intro call member
  rw [writesAfter] at member
  split at member
  · rw [List.mem_singleton.mp member]
    trivial
  · cases member

theorem sync_eq (plant : c.plant.plant = body.toExact) :
    Plant.sync c.plant =
      (⟨body.sync.1.toExact, c.plant.calls ++ [.sync (.ok ())]⟩, .ok ()) := by
  have synced : c.plant.plant.sync = PointMass.exactAttempt body.sync := by
    rw [plant]
    exact PointMass.toExact_sync body
  change Recorded.afterCall c.plant c.plant.plant.sync .sync = _
  rw [synced]
  rfl

namespace Rests

theorem error_eq (rests : c.Rests body) :
    motionError c.reference.target body.pose.toExact c.settings.limits =
      SpatialVector.toExact 0 := by
  rw [rests.target_eq]
  exact motionError_self rests.resting.rotation c.settings.limits

theorem measure_eq [Sink Exact π] (rests : c.Rests body) : c.measure.2 = 0 := by
  have pose : Plant.pose c.plant = body.pose.toExact := congrArg PointMass.pose rests.plant_eq
  change motionError c.reference.target (Plant.pose c.plant) c.settings.limits = 0
  rw [pose]
  exact rests.error_eq

theorem requestAt_eq (rests : c.Rests body) :
    c.requestAt body.pose.toExact = SpatialVector.toExact 0 := by
  rcases rests.consistent.errorScale_real with ⟨k, scale⟩
  rw [requestAt, rests.error_eq, scale]
  exact congrArg SpatialVector.toExact (SpatialVector.zero_scale k)

/-- Steps never move a body that rests at its target. -/
theorem plantBefore_eq (rests : c.Rests body) (i : ℕ) : c.plantBefore i = body.toExact := by
  induction i with
  | zero => exact rests.plant_eq
  | succ i inductionHypothesis =>
      have pose : Plant.pose body.toExact = body.pose.toExact := rfl
      have step : body.toExact.synthesize (SpatialVector.toExact 0) c.settings.internalPeriod =
          PointMass.exactAttempt (body.synthesize 0 c.settings.internalPeriod) :=
        PointMass.toExact_synthesize rests.resting.toIsSolid
      -- carried out or refused, a step without error changes nothing
      rw [plantBefore, inductionHypothesis, pose, rests.requestAt_eq]
      refine (congrArg Prod.fst step).trans ?_
      rw [PointMass.exactAttempt, rests.resting.synthesize_eq]

theorem stepCall_isIdle (rests : c.Rests body) (i : ℕ) :
    (c.stepCall i).IsIdle body.pose.toExact := by
  have place : c.poseBefore i = body.pose.toExact := by
    rw [poseBefore, rests.plantBefore_eq]
    rfl
  rw [stepCall, place]
  exact ⟨rfl, rests.requestAt_eq⟩

/-- What leaves plant and target alone leaves the body at rest. -/
theorem staysIdle_of_eq (rests : c.Rests body)
    {after : Controller Exact (Recorded Exact (PointMass Exact)) π}
    (plant : after.plant = c.plant) (target : after.reference.target = c.reference.target)
    (consistent : after.Consistent) : StaysIdle c after body body where
  rests := by
    refine ⟨?_, rests.resting, ?_, consistent⟩
    · rw [plant, rests.plant_eq]
    · rw [target, rests.target_eq]
  idles := .refl body
  calls := by
    refine ⟨[], ?_, ?_⟩
    · rw [plant, List.append_nil]
    · intro call member
      cases member

theorem start_staysIdle [Sink Exact π] (rests : c.Rests body) :
    StaysIdle c (c.perform .start).1 body body := by
  have synced := sync_eq rests.plant_eq
  have consistent := perform_consistent rests.consistent .start
  rw [rests.resting.sync] at synced
  rw [perform_start_of_synced synced] at consistent ⊢
  exact {
    rests := {
      plant_eq := rfl
      resting := rests.resting
      target_eq := rfl
      consistent := consistent }
    idles := .refl body
    calls := by
      refine ⟨[.sync (.ok ())], rfl, ?_⟩
      intro call member
      rw [List.mem_singleton.mp member]
      trivial }

/-- A tick makes idle steps and, if all of them are carried out, one write. -/
theorem tick_staysIdle [Sink Exact π] (rests : c.Rests body) (period elapsed : Duration)
    (running : c.paused = false) :
    ∃ later, StaysIdle c (c.perform (.update period elapsed)).1 body later := by
  rcases exists_halts c c.settings.substeps.toNat with ⟨k, halts, -, -⟩
  have plant := tick_plant halts
  have target := update_target c period elapsed
  have consistent := perform_consistent rests.consistent (.update period elapsed)
  have calls : ∃ calls, c.tick.1.plant.calls = c.plant.calls ++ calls ∧
      ∀ call ∈ calls, call.IsIdle body.pose.toExact := by
    refine ⟨c.stepCalls k ++ c.writesAfter k, tick_calls halts, ?_⟩
    intro call member
    rcases List.mem_append.mp member with step | write
    · have steps := (forall_mem_stepCalls c k (PlantCall.IsIdle body.pose.toExact)).mpr
        fun i _ => rests.stepCall_isIdle i
      exact steps call step
    · exact writesAfter_isIdle c k _ call write
  have reached : (c.perform (.update period elapsed)).1.plant = c.tick.1.plant := by
    change (c.update period elapsed).1.plant = c.tick.1.plant
    rw [update_of_running running]
  -- a workspace that the body is outside of makes its steps fail; only a full tick writes
  cases ended : PlantCall.firstFault (c.stepCalls k) with
  | ok done =>
      refine ⟨body.write.1, ⟨?_, rests.resting.write, ?_, consistent⟩, .write rests.resting, ?_⟩
      · rw [reached, plant, ended, rests.plantBefore_eq]
        exact congrArg Prod.fst (PointMass.toExact_write body)
      · exact target.trans rests.target_eq
      · rwa [reached]
  | error fault =>
      refine ⟨body, ⟨?_, rests.resting, ?_, consistent⟩, .refl body, ?_⟩
      · rw [reached, plant, ended, rests.plantBefore_eq]
      · exact target.trans rests.target_eq
      · rwa [reached]

/-- Every operation but an event that takes effect leaves the body at rest. -/
theorem perform_staysIdle [Sink Exact π] (rests : c.Rests body) {operation : Operation Exact}
    (refused : ∀ event now, operation = .event event now →
      ¬ event.TakesEffect c.reference.baseLink) :
    ∃ later, StaysIdle c (c.perform operation).1 body later := by
  have consistent := perform_consistent rests.consistent operation
  cases operation with
  | start => exact ⟨body, rests.start_staysIdle⟩
  | update period elapsed =>
      cases switch : c.paused with
      | false => exact rests.tick_staysIdle period elapsed switch
      | true =>
          refine ⟨body, rests.staysIdle_of_eq ?_ (update_target c period elapsed) consistent⟩
          change (c.update period elapsed).1.plant = c.plant
          rw [update_of_paused switch]
          rfl
  | reconfigure iterations errorScale =>
      refine ⟨body, rests.staysIdle_of_eq ?_ ?_ consistent⟩
      all_goals
        cases checked : (c.retuned iterations errorScale).check with
        | ok settings => rw [perform_reconfigure_of_ok checked]
        | error problem => rw [perform_reconfigure_of_error checked]
  | event event now =>
      have handled := Reference.handle_isHandled c.reference event now
      exact ⟨body, rests.staysIdle_of_eq rfl (handled.kept (refused event now rfl)) consistent⟩
  | stop | measure | pause | resume => exact ⟨body, rests.staysIdle_of_eq rfl rfl consistent⟩

/-- At the start of every step of an update there is no error, whatever became of
the steps before it. -/
theorem afterSubsteps_measure [Sink Exact π] (rests : c.Rests body) (i : ℕ) :
    (c.afterSubsteps i).measure.2 = 0 := by
  have advances := afterSubsteps_advances c i
  have plant : (c.afterSubsteps i).plant.plant = body.toExact := by
    rw [afterSubsteps_plant]
    exact rests.plantBefore_eq i
  have later : (c.afterSubsteps i).Rests body := {
    plant_eq := plant
    resting := rests.resting
    target_eq := advances.target_eq.trans rests.target_eq
    consistent := by
      rw [Consistent, advances.config_eq, advances.settings_eq]
      exact rests.consistent }
  exact later.measure_eq

theorem perform_measured [Sink Exact π] (rests : c.Rests body) {operation : Operation Exact}
    {error : SpatialVector Exact} (measured : (c.perform operation).2.answer = .measured error) :
    error = 0 := by
  cases operation with
  | measure =>
      injection measured with found
      exact found.symm.trans rests.measure_eq
  | start =>
      rw [perform_start_of_synced (sync_eq rests.plant_eq)] at measured
      cases measured
  | update period elapsed =>
      have answer : (c.perform (.update period elapsed)).2.answer =
          plantAnswer (c.update period elapsed).2 := rfl
      rw [answer] at measured
      cases result : (c.update period elapsed).2 with
      | ok done =>
          rw [result] at measured
          cases measured
      | error fault =>
          rw [result] at measured
          cases measured
  | reconfigure iterations errorScale =>
      cases checked : (c.retuned iterations errorScale).check with
      | ok settings =>
          rw [perform_reconfigure_of_ok checked] at measured
          cases measured
      | error problem =>
          rw [perform_reconfigure_of_error checked] at measured
          cases measured
  | stop | pause | resume | event => cases measured

/-- The invariant holds after any number of operations, and none of them has
found an error. -/
theorem run_staysIdle [Sink Exact π] (rests : c.Rests body) {operations : List (Operation Exact)}
    (refuses : c.Refuses operations) :
    (∃ later, StaysIdle c (c.run operations).1 body later) ∧
      ∀ report ∈ (c.run operations).2, ∀ error, report.answer = .measured error → error = 0 := by
  -- a write changes the body, so the invariant has to be kept for every body
  induction operations generalizing c body with
  | nil =>
      refine ⟨⟨body, rests.staysIdle_of_eq rfl rfl rests.consistent⟩, ?_⟩
      intro report member
      cases member
  | cons operation rest inductionHypothesis =>
      have refused : ∀ event now, operation = .event event now →
          ¬ event.TakesEffect c.reference.baseLink := by
        rintro event now rfl
        exact refuses event now List.mem_cons_self
      have others : (c.perform operation).1.Refuses rest := by
        intro event now member
        rw [perform_baseLink]
        exact refuses event now (List.mem_cons_of_mem operation member)
      rcases rests.perform_staysIdle refused with ⟨middle, first⟩
      rcases inductionHypothesis first.rests others with ⟨⟨later, last⟩, reports⟩
      refine ⟨⟨later, first.trans last⟩, ?_⟩
      intro report member error measured
      rcases List.mem_cons.mp member with rfl | member
      · exact rests.perform_measured measured
      · exact reports report member error measured

end Rests

/-! ## After a start -/

/-- What operations after a start have left of it.  The body is at the given pose
without velocity, which is also the target; the error is zero, now and before any
step of a next update, and none was found before.  A command that was written
since the start carries the position, the rotation vector and no velocity, and
every call was idle. -/
structure IsStill [Sink Exact π]
    (started last : Controller Exact (Recorded Exact (PointMass Exact)) π)
    (reports : List (Report Exact)) (pose : Pose Exact) : Prop where
  pose_eq : last.plant.plant.pose = pose
  velocity_eq : last.plant.plant.velocity = 0
  target_eq : last.reference.target = pose
  error_eq : ∀ i, (last.afterSubsteps i).measure.2 = 0
  measured_eq : ∀ report ∈ reports, ∀ error, report.answer = .measured error → error = 0
  written : (last.plant.plant.written = started.plant.plant.written ∧
      last.plant.plant.writes = started.plant.plant.writes) ∨
    last.plant.plant.written = some
      { positions := ⟨pose.position, pose.rotation.rotationVector⟩
        velocities := 0 }
  calls : ∃ calls, last.plant.calls = started.plant.calls ++ calls ∧
    ∀ call ∈ calls, call.IsIdle pose

theorem Rests.run_isStill [Sink Exact π] (rests : c.Rests body)
    {operations : List (Operation Exact)} (refuses : c.Refuses operations) :
    IsStill c (c.run operations).1 (c.run operations).2 body.pose.toExact := by
  rcases rests.run_staysIdle refuses with ⟨⟨later, idle⟩, reports⟩
  have reached := idle.rests
  have place := idle.idles.pose_eq
  exact {
    pose_eq := by
      rw [reached.plant_eq, ← place]
      rfl
    velocity_eq := by
      rw [reached.plant_eq]
      exact congrArg SpatialVector.toExact reached.resting.velocity_eq
    target_eq := by rw [reached.target_eq, place]
    error_eq := reached.afterSubsteps_measure
    measured_eq := reports
    written := by
      have rest : some (JointCommand.ofState body.pose.toExact 0) =
          (some (JointCommand.ofState body.pose 0)).map JointCommand.toExact :=
        congrArg some (JointCommand.toExact_ofState body.pose 0)
      rw [reached.plant_eq, rests.plant_eq]
      rcases idle.idles.written with ⟨command, count⟩ | command
      · exact .inl ⟨congrArg (Option.map _) command, count⟩
      · exact .inr ((congrArg (Option.map _) command).trans rest.symm)
    calls := idle.calls }

theorem start_rests (consistent : c.Consistent) (plant : c.plant.plant = body.toExact)
    (solid : body.IsSolid) : c.start.2.1 = .ok () ∧ c.start.1.Rests body.sync.1 := by
  rw [start_of_synced (sync_eq plant)]
  refine ⟨rfl, ?_⟩
  exact {
    plant_eq := rfl
    resting := solid.sync_isResting
    target_eq := rfl
    consistent := consistent }

/-- A start follows the plant and changes nothing if that fails.  Over a point
mass it succeeds, whatever its velocity, and from then on the body stays where it
is until an event takes effect. -/
theorem start_staysInPlace :
    (∀ {α σ π : Type} [Plant α σ] (c : Controller α σ π), c.StartsInPlace) ∧
    ∀ {π : Type} [Sink Exact π] {c : Controller Exact (Recorded Exact (PointMass Exact)) π}
      {body : PointMass ℝ}, c.Reachable → c.plant.plant = body.toExact → body.IsSolid →
      c.start.2.1 = .ok () ∧ ∀ operations, c.Refuses operations →
        IsStill c.start.1 (c.start.1.run operations).1 (c.start.1.run operations).2
          body.pose.toExact := by
  refine ⟨startsInPlace, ?_⟩
  intro π _ c body reachable plant solid
  rcases start_rests reachable.consistent plant solid with ⟨succeeded, rests⟩
  refine ⟨succeeded, ?_⟩
  intro operations refuses
  have same : c.start.1.reference.baseLink = c.reference.baseLink := perform_baseLink c .start
  apply rests.run_isStill
  intro event now member
  rw [same]
  exact refuses event now member

/-- A body of negative mass on its way out of a workspace that it is not in. -/
noncomputable def driftingBody : PointMass ℝ where
  interface := .position
  pose := ⟨⟨3, 4, 0⟩, ⟨1, 0, 0, 0⟩⟩
  velocity := ⟨⟨1, 0, -1⟩, ⟨0, 3, 0⟩⟩
  mass := -4
  inertia := 5
  stiffness := 40
  damping := -1
  workspaceRadius := some 1
  simulated := .ofState .identity 0
  written := none
  writes := 0

theorem driftingBody_isSolid : driftingBody.IsSolid where
  mass := by norm_num [driftingBody]
  inertia := by norm_num [driftingBody]
  rotation := Quat.halfTurn_isPolar.isRotation

/-- An update between a change of the gain and one that is refused, and then a
message in a foreign frame. -/
noncomputable def idleRun : List (Operation Exact) :=
  [.reconfigure 5 3, .update 0 0, .reconfigure 0 1, .pause, .measure,
    .event (.targetPose ⟨"map", 0, 1, 0⟩) 0, .start, .resume, .update 0 0]

theorem start_staysInPlace_driftingBody :
    ∃ c : Controller Exact (Recorded Exact (PointMass Exact)) (PoseHistory Exact),
      create (.position 3) ⟨driftingBody.toExact, []⟩ ⟨[]⟩ = .ok c ∧
      c.start.2.1 = .ok () ∧
      IsStill c.start.1 (c.start.1.run idleRun).1 (c.start.1.run idleRun).2
        driftingBody.pose.toExact := by
  have created := create_of_checked (Config.check_position 3 (by decide))
    (⟨driftingBody.toExact, []⟩ : Recorded Exact (PointMass Exact)) (⟨[]⟩ : PoseHistory Exact)
  rcases start_staysInPlace.2 (.create created) rfl driftingBody_isSolid with ⟨succeeded, still⟩
  refine ⟨_, created, succeeded, still idleRun ?_⟩
  intro event now member
  simp only [idleRun, List.mem_cons, reduceCtorEq, List.not_mem_nil, or_false, false_or,
    Operation.event.injEq] at member
  rcases member with ⟨rfl, -⟩
  intro effective
  have foreign : ("map" : String) = "base_link" := effective.1
  revert foreign
  decide

end PointMass

end Controller
end MotionControl
