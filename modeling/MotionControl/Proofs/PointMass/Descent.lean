import Mathlib.Topology.Order.MonotoneConvergence
import MotionControl.Proofs.Config.Exact
import MotionControl.Proofs.PointMass.Motion

/-!
# The standard body on its way to a target

Under the standard gains, ceilings and step length, translation and rotation are
two copies of one motion in one dimension: what is left of a way, and the rate at
which it is closed.  The rate never points away from the target and stays below
five times what is left (`Closing.IsDamped`).  Of this invariant everything
follows: nothing overshoots, each step takes at least a hundredth of what is left
or of one, whichever is less, and so nothing remains in the end.  It holds on
both sides of the ceiling, so the moment at which the error ceases to be clipped
is not a case of its own.

`Course` carries the two copies along the poses themselves.
-/

namespace MotionControl

open Filter Topology

/-- What is left of a way, and the rate at which it is closed. -/
structure Closing where
  gap : ℝ
  rate : ℝ

namespace Closing

/-- A step under the standard gains.  The spring feels at most one of the gap. -/
noncomputable def next (closing : Closing) : Closing where
  gap := closing.gap - 0.02 * PointMass.nextSpeed 25 10 1 0.02 (min closing.gap 1) closing.rate
  rate := PointMass.nextSpeed 25 10 1 0.02 (min closing.gap 1) closing.rate

theorem next_rate (closing : Closing) :
    closing.next.rate = 0.8 * closing.rate + 0.5 * min closing.gap 1 := by
  simp only [next, PointMass.nextSpeed]
  ring

theorem next_gap (closing : Closing) :
    closing.next.gap = closing.gap - 0.02 * closing.next.rate :=
  rfl

/-- Not moving away from the end, and too slow to pass it. -/
structure IsDamped (closing : Closing) : Prop where
  rate_nonneg : 0 ≤ closing.rate
  rate_le : closing.rate ≤ 5 * closing.gap

namespace IsDamped

variable {closing : Closing}

theorem gap_nonneg (damped : closing.IsDamped) : 0 ≤ closing.gap := by
  linarith [damped.rate_nonneg, damped.rate_le]

theorem min_nonneg (damped : closing.IsDamped) : 0 ≤ min closing.gap 1 :=
  le_min damped.gap_nonneg zero_le_one

theorem next_rate_nonneg (damped : closing.IsDamped) : 0 ≤ closing.next.rate := by
  rw [next_rate]
  linarith [damped.rate_nonneg, damped.min_nonneg]

/-- Even the fastest step leaves nine tenths of the gap. -/
theorem next_rate_le (damped : closing.IsDamped) : closing.next.rate ≤ 4.5 * closing.gap := by
  rw [next_rate]
  linarith [damped.rate_le, min_le_left closing.gap 1]

theorem next (damped : closing.IsDamped) : closing.next.IsDamped where
  rate_nonneg := damped.next_rate_nonneg
  rate_le := by
    rw [next_gap]
    linarith [damped.next_rate_le, damped.gap_nonneg]

theorem walked_le (damped : closing.IsDamped) : 0.02 * closing.next.rate ≤ closing.gap := by
  linarith [damped.next_rate_le, damped.gap_nonneg]

theorem next_gap_le (damped : closing.IsDamped) :
    closing.next.gap ≤ closing.gap - 0.01 * min closing.gap 1 := by
  rw [next_gap, next_rate]
  linarith [damped.rate_nonneg]

end IsDamped

theorem isDamped_of_still {gap : ℝ} (nonneg : 0 ≤ gap) : (⟨gap, 0⟩ : Closing).IsDamped where
  rate_nonneg := le_rfl
  rate_le := mul_nonneg (by norm_num) nonneg

end Closing

/-! ## Sequences that keep losing -/

section Losing

variable {gap : ℕ → ℝ} (nonneg : ∀ k, 0 ≤ gap k)
  (loses : ∀ k, gap (k + 1) ≤ gap k - 0.01 * min (gap k) 1)

include nonneg loses

theorem antitone_of_losing : Antitone gap := by
  apply antitone_nat_of_succ_le
  intro k
  linarith [loses k, le_min (nonneg k) zero_le_one]

/-- What keeps losing a hundredth of itself or of one, whichever is less,
vanishes: at a positive limit it would go on losing. -/
theorem tendsto_zero_of_losing : Tendsto gap atTop (𝓝 0) := by
  have bounded : BddBelow (Set.range gap) := ⟨0, Set.forall_mem_range.mpr nonneg⟩
  have limit := tendsto_atTop_ciInf (antitone_of_losing nonneg loses) bounded
  generalize iInf gap = floor at limit
  have floorNonneg : 0 ≤ floor := ge_of_tendsto' limit nonneg
  have later : Tendsto (fun k => gap (k + 1)) atTop (𝓝 floor) :=
    limit.comp (tendsto_add_atTop_nat 1)
  have losing : Tendsto (fun k => gap k - 0.01 * min (gap k) 1) atTop
      (𝓝 (floor - 0.01 * min floor 1)) :=
    limit.sub ((limit.min tendsto_const_nhds).const_mul 0.01)
  -- the inequality survives the limit, where only zero satisfies it
  have kept : floor ≤ floor - 0.01 * min floor 1 := le_of_tendsto_of_tendsto' later losing loses
  have least : min floor 1 ≤ 0 := by
    linarith
  have zero : floor = 0 := by
    rcases min_le_iff.mp least with below | impossible
    · exact le_antisymm below floorNonneg
    · linarith
  rwa [zero] at limit

end Losing

/-- The shorter of two ways in one direction is a part of the longer one. -/
theorem Vec3.exists_part (direction : Vec3 ℝ) {short long : ℝ} (nonneg : 0 ≤ short)
    (ordered : short ≤ long) :
    ∃ part, 0 ≤ part ∧ part ≤ 1 ∧ direction.scale short = (direction.scale long).scale part := by
  rcases (nonneg.trans ordered).eq_or_lt with zero | positive
  · have none : short = 0 := le_antisymm (zero ▸ ordered) nonneg
    refine ⟨0, le_rfl, zero_le_one, ?_⟩
    rw [none, scale_zero, scale_scale, mul_zero, scale_zero]
  · refine ⟨short / long, div_nonneg nonneg positive.le, (div_le_one positive).mpr ordered, ?_⟩
    rw [scale_scale, mul_div_cancel₀ short positive.ne']

/-! ## Poses -/

/-- Where a body is, and what is left of its two ways. -/
structure Course where
  pose : Pose ℝ
  way : Closing
  turn : Closing

namespace Course

variable {target : Pose ℝ} {direction axis : Vec3 ℝ} {course : Course}

noncomputable def velocity (course : Course) (direction axis : Vec3 ℝ) : SpatialVector ℝ :=
  .along direction axis course.way.rate course.turn.rate

/-- One step of twenty milliseconds along a direction and about an axis. -/
noncomputable def next (direction axis : Vec3 ℝ) (course : Course) : Course where
  pose := course.pose.displace
    ((SpatialVector.along direction axis course.way.next.rate course.turn.next.rate).scale 0.02)
  way := course.way.next
  turn := course.turn.next

/-- The gaps are what the pose is short of the target by, and both are damped. -/
structure Approaches (course : Course) (target : Pose ℝ) (direction axis : Vec3 ℝ) : Prop where
  unit : course.pose.rotation.IsRotation
  offset : Pose.Offset target course.pose direction axis course.way.gap course.turn.gap
  way_isDamped : course.way.IsDamped
  turn_isDamped : course.turn.IsDamped

/-- Whatever is between two poses is a course from rest. -/
theorem exists_approaches {initial : Pose ℝ} (targetUnit : target.rotation.IsRotation)
    (initialUnit : initial.rotation.IsRotation) :
    ∃ direction axis distance angle,
      (⟨initial, ⟨distance, 0⟩, ⟨angle, 0⟩⟩ : Course).Approaches target direction axis := by
  rcases Pose.exists_offset targetUnit initialUnit with ⟨direction, axis, distance, angle, offset⟩
  exact ⟨direction, axis, distance, angle, initialUnit, offset,
    Closing.isDamped_of_still offset.nonneg, Closing.isDamped_of_still offset.polar.nonneg⟩

theorem Approaches.next (approaches : course.Approaches target direction axis) :
    (course.next direction axis).Approaches target direction axis where
  unit := Pose.displace_isRotation approaches.unit _
  offset := by
    have turned := mul_nonneg (by norm_num : (0 : ℝ) ≤ 0.02)
      approaches.turn_isDamped.next_rate_nonneg
    rw [Course.next, SpatialVector.along_scale]
    exact approaches.offset.displace approaches.way_isDamped.walked_le turned
      approaches.turn_isDamped.walked_le
  way_isDamped := approaches.way_isDamped.next
  turn_isDamped := approaches.turn_isDamped.next

theorem Approaches.iterate (approaches : course.Approaches target direction axis) (k : ℕ) :
    ((Course.next direction axis)^[k] course).Approaches target direction axis := by
  induction k with
  | zero => exact approaches
  | succ k inductionHypothesis =>
      rw [Function.iterate_succ_apply']
      exact inductionHypothesis.next

theorem Approaches.motionError_eq (approaches : course.Approaches target direction axis) :
    motionError target.toExact course.pose.toExact Config.standard.limits =
      (SpatialVector.along direction axis (min course.way.gap 1)
        (min course.turn.gap 1)).toExact := by
  have clipped (size : ℝ) : (1 : Exact).clip size = min size 1 :=
    Exact.clip_real zero_le_one size
  refine (approaches.offset.motionError_eq _).trans ?_
  change (SpatialVector.along direction axis ((1 : Exact).clip _) ((1 : Exact).clip _)).toExact = _
  rw [clipped, clipped]

end Course

/-- Poses on a straight way to a target, each nearer than the one before.  What
remains is a part of the first translation and a turn about one axis; every step
takes at least a hundredth of it, or of one, so that nothing remains in the
end. -/
structure Converges (target : Pose ℝ) (poses : ℕ → Pose ℝ) (distance angle : ℕ → ℝ) : Prop where
  distance_eq : ∀ k, (target.position - (poses k).position).norm = distance k
  angle_eq : ∀ k, (target.rotation * (poses k).rotation.conjugate).IsTurningAngle (angle k)
  straight : ∀ k, ∃ part, 0 ≤ part ∧ part ≤ 1 ∧
    target.position - (poses k).position = (target.position - (poses 0).position).scale part
  axis : ∃ axis : Vec3 ℝ, axis.norm = 1 ∧ ∀ k,
    (target.rotation * (poses k).rotation.conjugate).SameRotation (.turn axis (angle k))
  distance_succ : ∀ k, distance (k + 1) ≤ distance k - 0.01 * min (distance k) 1
  angle_succ : ∀ k, angle (k + 1) ≤ angle k - 0.01 * min (angle k) 1
  distance_tendsto : Tendsto distance atTop (𝓝 0)
  angle_tendsto : Tendsto angle atTop (𝓝 0)

theorem Course.Approaches.converges {target : Pose ℝ} {direction axis : Vec3 ℝ} {course : Course}
    (approaches : course.Approaches target direction axis) :
    Converges target (fun k => ((Course.next direction axis)^[k] course).pose)
      (fun k => ((Course.next direction axis)^[k] course).way.gap)
      (fun k => ((Course.next direction axis)^[k] course).turn.gap) := by
  have here := approaches.iterate
  have distanceNonneg (k : ℕ) := (here k).way_isDamped.gap_nonneg
  have angleNonneg (k : ℕ) := (here k).turn_isDamped.gap_nonneg
  have distanceLoses (k : ℕ) : ((Course.next direction axis)^[k + 1] course).way.gap ≤
      ((Course.next direction axis)^[k] course).way.gap -
        0.01 * min ((Course.next direction axis)^[k] course).way.gap 1 := by
    rw [Function.iterate_succ_apply']
    exact (here k).way_isDamped.next_gap_le
  have angleLoses (k : ℕ) : ((Course.next direction axis)^[k + 1] course).turn.gap ≤
      ((Course.next direction axis)^[k] course).turn.gap -
        0.01 * min ((Course.next direction axis)^[k] course).turn.gap 1 := by
    rw [Function.iterate_succ_apply']
    exact (here k).turn_isDamped.next_gap_le
  exact {
    distance_eq := fun k => (here k).offset.norm_eq
    angle_eq := fun k => (here k).offset.polar.isTurningAngle
    straight := by
      intro k
      rw [(here k).offset.linear, (here 0).offset.linear]
      exact direction.exists_part (distanceNonneg k)
        (antitone_of_losing distanceNonneg distanceLoses k.zero_le)
    axis := ⟨axis, approaches.offset.polar.unit, fun k => (here k).offset.polar.sameRotation⟩
    distance_succ := distanceLoses
    angle_succ := angleLoses
    distance_tendsto := tendsto_zero_of_losing distanceNonneg distanceLoses
    angle_tendsto := tendsto_zero_of_losing angleNonneg angleLoses }

/-! ## The body -/

/-- A standard body in the middle of a course: its gains and masses, no bound on
the workspace, and pose and velocity of the course. -/
structure PointMass.IsOn (body : PointMass ℝ) (course : Course) (direction axis : Vec3 ℝ) :
    Prop where
  mass : body.mass = 1
  inertia : body.inertia = 1
  stiffness : body.stiffness = 25
  damping : body.damping = 10
  workspaceRadius : body.workspaceRadius = none
  pose_eq : body.pose = course.pose
  velocity_eq : body.velocity = course.velocity direction axis

namespace PointMass.IsOn

variable {body : PointMass ℝ} {target : Pose ℝ} {direction axis : Vec3 ℝ} {course : Course}

theorem toExact_pose (on : body.IsOn course direction axis) :
    Plant.pose body.toExact = course.pose.toExact :=
  congrArg Pose.toExact on.pose_eq

theorem isSolid (on : body.IsOn course direction axis)
    (approaches : course.Approaches target direction axis) : body.IsSolid where
  mass := by
    rw [on.mass]
    exact one_ne_zero
  inertia := by
    rw [on.inertia]
    exact one_ne_zero
  rotation := by
    rw [on.pose_eq]
    exact approaches.unit

theorem start (interface : Interface) (pose : Pose ℝ) (direction axis : Vec3 ℝ)
    (distance angle : ℝ) : ((create interface).withPose pose).sync.1.IsOn
      ⟨pose, ⟨distance, 0⟩, ⟨angle, 0⟩⟩ direction axis where
  mass := rfl
  inertia := rfl
  stiffness := by
    change ((25 : ℕ) : ℝ) = 25
    norm_num
  damping := by
    change ((10 : ℕ) : ℝ) = 10
    norm_num
  workspaceRadius := rfl
  pose_eq := rfl
  velocity_eq := (SpatialVector.along_zero direction axis).symm

theorem write (on : body.IsOn course direction axis) : body.write.1.IsOn course direction axis :=
  ⟨on.mass, on.inertia, on.stiffness, on.damping, on.workspaceRadius, on.pose_eq, on.velocity_eq⟩

theorem stepped (on : body.IsOn course direction axis)
    (approaches : course.Approaches target direction axis) :
    (body.stepped (.along direction axis (min course.way.gap 1) (min course.turn.gap 1))
      0.02).IsOn (course.next direction axis) direction axis := by
  have velocity : body.nextVelocity
      (.along direction axis (min course.way.gap 1) (min course.turn.gap 1)) 0.02 =
      (course.next direction axis).velocity direction axis := by
    rw [nextVelocity_along on.velocity_eq, on.mass, on.inertia, on.stiffness, on.damping]
    rfl
  have pose : body.nextPose ((course.next direction axis).velocity direction axis) 0.02 =
      (course.next direction axis).pose := by
    rw [nextPose_eq_displace (on.isSolid approaches), on.pose_eq]
    rfl
  exact {
    mass := on.mass
    inertia := on.inertia
    stiffness := on.stiffness
    damping := on.damping
    workspaceRadius := on.workspaceRadius
    pose_eq := by
      rw [← pose, ← velocity]
      rfl
    velocity_eq := velocity }

/-- A step of the exact plant succeeds and advances the course by one. -/
theorem synthesize (on : body.IsOn course direction axis)
    (approaches : course.Approaches target direction axis) :
    ∃ next : PointMass ℝ, next.IsOn (course.next direction axis) direction axis ∧
      body.toExact.synthesize
          (motionError target.toExact course.pose.toExact Config.standard.limits)
          Config.standardPeriod = (next.toExact, .ok ()) := by
  have next := on.stepped approaches
  rw [← Config.standardPeriod_seconds] at next
  have inside (position : Vec3 ℝ) : body.violatedRadius? position = none := by
    rw [violatedRadius?, on.workspaceRadius]
    rfl
  refine ⟨_, next, ?_⟩
  rw [approaches.motionError_eq, toExact_synthesize (on.isSolid approaches),
    synthesize_of_inside (inside _)]
  rfl

end PointMass.IsOn
end MotionControl
