import MotionControl.Proofs.Geometry.Normalisation
import MotionControl.Proofs.MotionError.Sign
import MotionControl.Proofs.Reference.Batch

/-!
# Length and sign of a commanded orientation

Sources are free to send orientations of any length and either sign.  Among the
exact numbers an accepted message carries a real orientation of at least the
least length (`exists_real_of_applied`), and the target that it sets is made of
the quaternion that this length leaves (`onTargetPose_of_real`).  Multiplying the
orientation therefore changes nothing but, at most, the sign of that quaternion,
and the motion error ignores signs.
-/

namespace MotionControl

/-- The message with its orientation multiplied by a number. -/
def PoseStamped.scaleOrientation {α : Type} [Scalar α] (message : PoseStamped α) (k : α) :
    PoseStamped α :=
  { message with orientation := message.orientation.scale k }

/-- Two targets, the second of them made by multiplying an orientation by `k`,
as seen from any pose, whose rotation is stored with either sign: under all
limits the motion errors are the same, except that a half turn is made in the
other direction if exactly one sign is flipped, and both go the short way. -/
def Pose.LeadsLike (target target' : Pose ℝ) (k : ℝ) : Prop :=
  ∀ current current' : Pose ℝ, current.rotation.IsRotation → current'.SamePlace current →
    ∀ limits : ErrorLimits Exact, ∃ error error' : SpatialVector ℝ,
      motionError target.toExact current.toExact limits = error.toExact ∧
      motionError target'.toExact current'.toExact limits = error'.toExact ∧
      error.AgreesWith error' (target.rotation * current.rotation.conjugate)
        (¬ (k < 0 ↔ current'.rotation = -current.rotation)) ∧
      error.angular.IsShortWay (target.rotation * current.rotation.conjugate) limits.maxAngle ∧
      error'.angular.IsShortWay (target'.rotation * current'.rotation.conjugate) limits.maxAngle

/-- Normalisation forgets a factor, but for its sign. -/
theorem Quat.scale_sameRotation {o : Quat ℝ} (positive : 0 < o.norm) {k : ℝ} (nonzero : k ≠ 0) :
    ((o.scale k).unscale (o.scale k).norm).SameRotation (o.unscale o.norm) ∧
      ((o.scale k).unscale (o.scale k).norm = -o.unscale o.norm ↔ k < 0) := by
  rw [o.unscale_norm_scale nonzero]
  split_ifs with negative
  · exact ⟨.inr rfl, iff_of_true rfl negative⟩
  · exact ⟨.inl rfl, iff_of_false (unscale_norm_isRotation positive).ne_neg negative⟩

theorem Pose.leadsLike_of_scale (p : Vec3 ℝ) {o : Quat ℝ} (positive : 0 < o.norm) {k : ℝ}
    (nonzero : k ≠ 0) :
    LeadsLike ⟨p, o.unscale o.norm⟩ ⟨p, (o.scale k).unscale (o.scale k).norm⟩ k := by
  intro current current' currentUnit currentSame limits
  rcases Quat.scale_sameRotation positive nonzero with ⟨same, sign⟩
  have unit : (Pose.mk p (o.unscale o.norm)).rotation.IsRotation :=
    Quat.unscale_norm_isRotation positive
  have place : SamePlace ⟨p, (o.scale k).unscale (o.scale k).norm⟩ ⟨p, o.unscale o.norm⟩ :=
    ⟨rfl, same⟩
  have errors := motionError_ignoresSigns unit currentUnit place currentSame limits
  simp only [sign] at errors
  exact errors

namespace Reference

theorem exists_real_of_applied {reference : Reference Exact} {message : PoseStamped Exact}
    {now : ℕ} (applied : (reference.onTargetPose message now).2.1 = .applied) :
    message.frame = reference.baseLink ∧ ∃ (p : Vec3 ℝ) (o : Quat ℝ),
      message.position = p.toExact ∧ message.orientation = o.toExact ∧ 1 / 10 ^ 9 ≤ o.norm := by
  have answered := (onTargetPose_isHandled reference message now).answered.2.2
  rcases answered.mp (congrArg some applied) with ⟨frame, finite, size, rotation, normalised⟩
  have made := (Quat.ofComponents?_eq_some_iff _ _).mpr ⟨size, normalised⟩
  rcases Vec3.exists_toExact finite with ⟨p, position⟩
  rcases Quat.exists_of_ofComponents? made with ⟨o, orientation, long, -⟩
  exact ⟨frame, p, o, position, orientation, long⟩

/-- A message with a real position and a long enough orientation is accepted in
the base frame, and its target has the orientation divided by its length. -/
theorem onTargetPose_of_real {reference : Reference Exact} {message : PoseStamped Exact}
    {p : Vec3 ℝ} {o : Quat ℝ} (now : ℕ) (frame : message.frame = reference.baseLink)
    (position : message.position = p.toExact) (orientation : message.orientation = o.toExact)
    (long : 1 / 10 ^ 9 ≤ o.norm) :
    (reference.onTargetPose message now).2.1 = .applied ∧
      (reference.onTargetPose message now).1.target = Pose.toExact ⟨p, o.unscale o.norm⟩ := by
  have normalised := (Quat.ofComponents?_eq_some_iff _ _).mp (Quat.ofComponents?_of_long long)
  rw [← orientation] at normalised
  have finite : ∀ component ∈ message.position.toList, Scalar.isFinite component = true := by
    rw [position, ← Vec3.isFinite_iff]
    rfl
  have read : poseOf? message = some (Pose.toExact ⟨p, o.unscale o.norm⟩) :=
    (poseOf?_eq_some_iff _ _).mpr ⟨finite, position, normalised⟩
  simp [onTargetPose, frame, read, setTarget]

/-- Length and sign of a commanded orientation do not matter.  A factor that
leaves the orientation long enough is not zero. -/
theorem onTargetPose_ignoresScale {reference : Reference Exact} {message : PoseStamped Exact}
    {now : ℕ} (applied : (reference.onTargetPose message now).2.1 = .applied) :
    ∃ o : Quat ℝ, message.orientation = o.toExact ∧
      ∀ (k : ℝ), 1 / 10 ^ 9 ≤ |k| * o.norm →
        ∀ (reference' : Reference Exact) (now' : ℕ), reference'.baseLink = reference.baseLink →
          (reference'.onTargetPose (message.scaleOrientation (.real k)) now').2.1 = .applied ∧
          ∃ target target' : Pose ℝ,
            (reference.onTargetPose message now).1.target = target.toExact ∧
            (reference'.onTargetPose (message.scaleOrientation (.real k)) now').1.target =
              target'.toExact ∧
            target.rotation.IsRotation ∧ target'.SamePlace target ∧
            target.LeadsLike target' k := by
  rcases exists_real_of_applied applied with ⟨frame, p, o, position, orientation, long⟩
  refine ⟨o, orientation, ?_⟩
  intro k scaledLong reference' now' baseLink
  have positive : 0 < o.norm := lt_of_lt_of_le (by norm_num) long
  have nonzero : k ≠ 0 := by
    rintro rfl
    rw [abs_zero, zero_mul] at scaledLong
    norm_num at scaledLong
  have scaled : (message.scaleOrientation (.real k)).orientation = (o.scale k).toExact := by
    rw [PoseStamped.scaleOrientation, orientation]
    rfl
  have sameFrame : (message.scaleOrientation (.real k)).frame = reference'.baseLink :=
    frame.trans baseLink.symm
  have scaledNorm : 1 / 10 ^ 9 ≤ (o.scale k).norm := by
    rwa [Quat.norm_scale, mul_comm]
  have first := onTargetPose_of_real now frame position orientation long
  have second := onTargetPose_of_real now' sameFrame position scaled scaledNorm
  exact ⟨second.1, _, _, first.2, second.2, Quat.unscale_norm_isRotation positive,
    ⟨rfl, (Quat.scale_sameRotation positive nonzero).1⟩, Pose.leadsLike_of_scale p positive nonzero⟩

/-- A half turn about x, sent with length two. -/
noncomputable def halfTurnMessage : PoseStamped Exact :=
  ⟨"base", (Vec3.mk (1 : ℝ) 0 0).toExact, (Quat.mk ((2 : ℕ) : ℝ) 0 0 0).toExact, 0⟩

/-- The same message with length one and the other sign sends the end effector
from the base frame the same way, and round in the opposite direction. -/
theorem onTargetPose_ignoresScale_halfTurn :
    ((create "base" (Pose.toExact ⟨0, 1⟩)).onTargetPose halfTurnMessage 0).2.1 = .applied ∧
      ((create "base" (Pose.toExact ⟨0, 1⟩)).onTargetPose
        (halfTurnMessage.scaleOrientation (.real (-1 / 2))) 1).2.1 = .applied ∧
      ∃ (target target' : Pose ℝ) (error error' : SpatialVector ℝ),
        ((create "base" (Pose.toExact ⟨0, 1⟩)).onTargetPose halfTurnMessage 0).1.target =
          target.toExact ∧
        ((create "base" (Pose.toExact ⟨0, 1⟩)).onTargetPose
          (halfTurnMessage.scaleOrientation (.real (-1 / 2))) 1).1.target = target'.toExact ∧
        motionError target.toExact (Pose.toExact ⟨0, 1⟩) .standard = error.toExact ∧
        motionError target'.toExact (Pose.toExact ⟨0, 1⟩) .standard = error'.toExact ∧
        error'.linear = error.linear ∧ error'.angular = error.angular.scale (-1) := by
  have square : (Quat.mk ((2 : ℕ) : ℝ) 0 0 0).normSq = 2 * 2 := by
    norm_num [Quat.normSq]
  have length : (Quat.mk ((2 : ℕ) : ℝ) 0 0 0).norm = 2 :=
    (congrArg Real.sqrt square).trans (Real.sqrt_mul_self two_pos.le)
  have unit : (Quat.mk ((2 : ℕ) : ℝ) 0 0 0).unscale 2 = ⟨1, 0, 0, 0⟩ := by
    norm_num [Quat.unscale]
  have first : ((create "base" (Pose.toExact ⟨0, 1⟩)).onTargetPose halfTurnMessage 0).2.1 =
        .applied ∧
      ((create "base" (Pose.toExact ⟨0, 1⟩)).onTargetPose halfTurnMessage 0).1.target =
        Pose.toExact ⟨⟨1, 0, 0⟩, (Quat.mk ((2 : ℕ) : ℝ) 0 0 0).unscale
          (Quat.mk ((2 : ℕ) : ℝ) 0 0 0).norm⟩ :=
    onTargetPose_of_real 0 rfl rfl rfl (by rw [length]; norm_num)
  rw [length, unit] at first
  rcases onTargetPose_ignoresScale first.1 with ⟨o, same, scaled⟩
  have sent : Quat.mk ((2 : ℕ) : ℝ) 0 0 0 = o := Quat.toExact_injective same
  subst sent
  rcases scaled (-1 / 2) (by rw [length]; norm_num [abs_of_neg]) (create "base" _) 1 rfl with
    ⟨applied, target, target', firstTarget, secondTarget, -, -, leads⟩
  have target_eq : (⟨⟨1, 0, 0⟩, ⟨1, 0, 0, 0⟩⟩ : Pose ℝ) = target :=
    Pose.toExact_injective (first.2.symm.trans firstTarget)
  subst target_eq
  rcases leads ⟨0, 1⟩ ⟨0, 1⟩ .one ⟨rfl, .inl rfl⟩ .standard with
    ⟨error, error', errorEq, errorEq', agrees, -, -⟩
  have flipped : ¬ ((-1 / 2 : ℝ) < 0 ↔ (1 : Quat ℝ) = -1) := fun both =>
    Quat.IsRotation.one.ne_neg (both.mp (by norm_num))
  have halfTurn : ((⟨1, 0, 0, 0⟩ : Quat ℝ) * (1 : Quat ℝ).conjugate).IsTurningAngle Real.pi := by
    rw [Quat.mul_one_conjugate]
    exact Quat.halfTurn_isPolar.isTurningAngle
  exact ⟨first.1, applied, _, target', error, error', first.2, secondTarget, errorEq, errorEq',
    agrees.linear, agrees.opposite flipped halfTurn⟩

end Reference
end MotionControl
