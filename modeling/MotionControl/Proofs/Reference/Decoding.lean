import MotionControl.Proofs.Geometry.Normalisation
import MotionControl.Proofs.MotionError.Offset
import MotionControl.Proofs.Reference.Batch

/-!
# Pose messages are decoded to what was encoded

An outbound message carries the seven numbers of a pose as they are stored, and an inbound one
sends its orientation through the gate `ofComponents?`.  `Quat.IsGate` says what that gate is
among the exact numbers: it lets the finite orientations through that are not too short, and
turns each into the unit quaternion in its own direction.  A unit quaternion is in its own
direction already, so a pose that was sent arrives as it was, the sign of its quaternion
included, and nothing is left of the way to it.
-/

namespace MotionControl

namespace Quat

/-- The quaternion of unit length among the positive multiples of another. -/
structure IsUnitOf (u o : Quat ℝ) : Prop where
  isRotation : u.IsRotation
  multiple : ∃ k, 0 < k ∧ u = o.scale k

/-- A gate for orientations.  Which ones it lets through is a matter of their length alone, and
what it makes of them a matter of their direction alone. -/
structure IsGate (read : Quat Exact → Option (Quat Exact)) : Prop where
  accepts : ∀ q, (∃ r, read q = some r) ↔ ∃ o : Quat ℝ, q = o.toExact ∧ 1 / 10 ^ 9 ≤ o.norm
  normalises : ∀ (o : Quat ℝ) (r : Quat Exact), read o.toExact = some r →
    ∃ u : Quat ℝ, r = u.toExact ∧ u.IsUnitOf o
  idempotent : ∀ q r, read q = some r → read r = some r
  scaled : ∀ (o : Quat ℝ) (k : ℝ), 0 < k → 1 / 10 ^ 9 ≤ o.norm → 1 / 10 ^ 9 ≤ (o.scale k).norm →
    read (o.scale k).toExact = read o.toExact

/-! ## The gate for orientations -/

theorem unscale_norm_isUnitOf {o : Quat ℝ} (positive : 0 < o.norm) :
    (o.unscale o.norm).IsUnitOf o :=
  ⟨unscale_norm_isRotation positive, o.norm⁻¹, inv_pos.mpr positive, unscale_eq_scale o o.norm⟩

theorem ofComponents?_isGate : IsGate ofComponents? where
  accepts := by
    intro q
    constructor
    · rintro ⟨r, made⟩
      rcases exists_of_ofComponents? made with ⟨o, same, long, -⟩
      exact ⟨o, same, long⟩
    · rintro ⟨o, rfl, long⟩
      exact ⟨_, ofComponents?_of_long long⟩
  normalises := by
    intro o r made
    rcases exists_of_ofComponents? made with ⟨o', same, long, rfl⟩
    have sent : o = o' := toExact_injective same
    subst sent
    exact ⟨_, rfl, unscale_norm_isUnitOf (norm_pos_of_long long)⟩
  idempotent := by
    intro q r made
    rcases exists_of_ofComponents? made with ⟨o, -, long, rfl⟩
    exact (unscale_norm_isRotation (norm_pos_of_long long)).ofComponents?
  scaled := by
    intro o k positive long longScaled
    rw [ofComponents?_of_long long, ofComponents?_of_long longScaled,
      unscale_norm_scale o positive.ne', if_neg positive.not_gt]

end Quat

/-- The seven numbers of a pose in the order in which messages carry them. -/
def Pose.numbers (pose : Pose ℝ) : List Exact :=
  (pose.position.toList ++ pose.rotation.toList).map .real

namespace Reference

/-- A pose is read back as it was sent, given the answer to its message: it is applied without a
warning and sets the target to the pose, number by number, observers are told the same seven
numbers, and the target leaves no motion error. -/
structure ReadsBack (reference : Reference Exact) (pose : Pose ℝ) (stamp : UInt64)
    (answer : Reference Exact × Outcome × List (LogEntry Exact)) : Prop where
  applied : answer = (reference.setTarget pose.toExact, .applied, [])
  target_numbers : answer.1.target.position.toList ++ answer.1.target.rotation.toList =
    pose.numbers
  observed_numbers : (CurrentPose.ofPose pose.toExact stamp).position.toList ++
    (CurrentPose.ofPose pose.toExact stamp).orientation.toList = pose.numbers
  arrived : ∀ limits : ErrorLimits Exact, motionError answer.1.target pose.toExact limits = 0

theorem poseOf?_ofPose {pose : Pose ℝ} (unit : pose.rotation.IsRotation) (frame : String)
    (stamp : UInt64) : poseOf? (.ofPose frame pose.toExact stamp) = some pose.toExact := by
  have finite : ∀ component ∈ pose.toExact.position.toList,
      Scalar.isFinite component = true := by
    rw [← Vec3.isFinite_iff]
    rfl
  exact (poseOf?_eq_some_iff _ _).mpr
    ⟨finite, rfl, (Quat.ofComponents?_eq_some_iff _ _).mp unit.ofComponents?⟩

theorem onTargetPose_ofPose {pose : Pose ℝ} (unit : pose.rotation.IsRotation)
    (reference : Reference Exact) (stamp : UInt64) (now : ℕ) :
    reference.onTargetPose (.ofPose reference.baseLink pose.toExact stamp) now =
      (reference.setTarget pose.toExact, .applied, []) := by
  have read := poseOf?_ofPose unit reference.baseLink stamp
  have frame : (PoseStamped.ofPose reference.baseLink pose.toExact stamp).frame =
      reference.baseLink := rfl
  simp [onTargetPose, frame, read]

/-- The gate for orientations turns what it accepts into the unit quaternion in its direction;
hence every pose with a unit rotation is read back. -/
theorem onTargetPose_readsBack {pose : Pose ℝ} (unit : pose.rotation.IsRotation) :
    Quat.IsGate Quat.ofComponents? ∧
      ∀ (reference : Reference Exact) (stamp : UInt64) (now : ℕ),
        reference.ReadsBack pose stamp
          (reference.onTargetPose (.ofPose reference.baseLink pose.toExact stamp) now) := by
  refine ⟨Quat.ofComponents?_isGate, ?_⟩
  intro reference stamp now
  rw [onTargetPose_ofPose unit]
  exact {
    applied := rfl
    target_numbers := rfl
    observed_numbers := rfl
    arrived := motionError_self unit }

/-- Off the origin, and turned by a full turn, so that the quaternion of the identity is stored
with the other sign. -/
noncomputable def fullTurn : Pose ℝ :=
  ⟨⟨1, 0, -1⟩, ⟨0, 0, 0, -1⟩⟩

theorem onTargetPose_readsBack_fullTurn :
    fullTurn.rotation.IsRotation ∧
      ((create "base" (Pose.toExact ⟨0, 1⟩)).onTargetPose
          (.ofPose "base" fullTurn.toExact 7) 0).1.target =
        ⟨⟨.real 1, .real 0, .real (-1)⟩, ⟨.real 0, .real 0, .real 0, .real (-1)⟩⟩ ∧
      motionError ((create "base" (Pose.toExact ⟨0, 1⟩)).onTargetPose
          (.ofPose "base" fullTurn.toExact 7) 0).1.target fullTurn.toExact .standard = 0 := by
  have unit : fullTurn.rotation.IsRotation := by
    norm_num [fullTurn, Quat.IsRotation, Quat.normSq]
  have readsBack := (onTargetPose_readsBack unit).2 (create "base" (Pose.toExact ⟨0, 1⟩)) 7 0
  exact ⟨unit, congrArg (fun answer => answer.1.target) readsBack.applied,
    readsBack.arrived .standard⟩

end Reference
end MotionControl
