import MotionControl.Proofs.MotionError.Offset

/-!
# Signs of stored rotations

A rotation is stored as one of two quaternions, which differ in the sign, and
nothing chooses between them.  `motionError_ignoresSigns` says what the motion
error makes of the choice: nothing, except for a half turn.  There both ways
round are equally short, the stored quaternions decide which one is taken, and
flipping one of them takes the other.

The proof follows the short way round, which `Quat.IsPolar` reads off a
quaternion of either sign: below the half turn negation keeps the axis, at the
half turn it reverses it.
-/

namespace MotionControl

/-! ## Signs of a relative rotation -/

namespace Quat

variable {q : Quat ℝ} {axis : Vec3 ℝ} {angle : ℝ}

theorem IsPolar.neg (polar : q.IsPolar axis angle) (below : angle < Real.pi) :
    (-q).IsPolar axis angle where
  unit := polar.unit
  nonneg := polar.nonneg
  le_pi := polar.le_pi
  sign := by
    rcases polar.sign with rfl | ⟨rfl, -⟩
    · exact .inr ⟨rfl, below⟩
    · exact .inl (neg_neg _)

/-- The negated quaternion of a half turn is the half turn about the opposite
axis. -/
theorem IsPolar.neg_halfTurn (polar : q.IsPolar axis Real.pi) :
    (-q).IsPolar (axis.scale (-1)) Real.pi where
  unit := axis.norm_opposite.trans polar.unit
  nonneg := polar.nonneg
  le_pi := polar.le_pi
  sign := by
    rcases polar.sign with rfl | ⟨-, below⟩
    · exact .inl (by ext <;> simp [turn_eq])
    · exact (lt_irrefl _ below).elim

theorem IsRotation.ne_neg (unit : q.IsRotation) : q ≠ -q := by
  intro same
  have square : (q.x * q.x + q.z * q.z) + (q.y * q.y + q.w * q.w) = 1 := unit
  have x : q.x = -q.x := congrArg Quat.x same
  have y : q.y = -q.y := congrArg Quat.y same
  have z : q.z = -q.z := congrArg Quat.z same
  have w : q.w = -q.w := congrArg Quat.w same
  rw [self_eq_neg.mp x, self_eq_neg.mp y, self_eq_neg.mp z, self_eq_neg.mp w] at square
  norm_num at square

/-- A relative rotation is negated by flipping the sign of one of its two
rotations, and by nothing else. -/
theorem relative_of_signs {a a' b b' : Quat ℝ} (left : a.IsRotation) (right : b.IsRotation)
    (leftSame : a'.SameRotation a) (rightSame : b'.SameRotation b) :
    a' * b'.conjugate =
      if a' = -a ↔ b' = -b then a * b.conjugate else -(a * b.conjugate) := by
  have aSign := left.ne_neg
  have bSign := right.ne_neg
  rcases leftSame with rfl | rfl <;> rcases rightSame with rfl | rfl
  · simp [aSign, bSign]
  · simp [aSign, conjugate_neg]
  · simp [bSign]
  · simp [conjugate_neg]

/-- The short way round of a relative rotation is about the same axis for all
signs of the two rotations, except that flipping one of them reverses the axis
of a half turn. -/
theorem IsPolar.of_signs {a a' b b' : Quat ℝ} (polar : (a * b.conjugate).IsPolar axis angle)
    (left : a.IsRotation) (right : b.IsRotation) (leftSame : a'.SameRotation a)
    (rightSame : b'.SameRotation b) :
    ∃ axis', (a' * b'.conjugate).IsPolar axis' angle ∧
      (¬ (¬ (a' = -a ↔ b' = -b) ∧ angle = Real.pi) → axis' = axis) ∧
      (¬ (a' = -a ↔ b' = -b) → angle = Real.pi → axis' = axis.scale (-1)) := by
  rw [relative_of_signs left right leftSame rightSame]
  split_ifs with kept
  · exact ⟨axis, polar, fun _ => rfl, fun flipped => (flipped kept).elim⟩
  · rcases polar.le_pi.lt_or_eq with below | rfl
    · exact ⟨axis, polar.neg below, fun _ => rfl, fun _ halfTurn => (below.ne halfTurn).elim⟩
    · exact ⟨axis.scale (-1), polar.neg_halfTurn, fun only => (only ⟨kept, rfl⟩).elim,
        fun _ _ => rfl⟩

end Quat

/-! ## Errors of either sign -/

/-- The angular part of an error turns the short way round: it is what a ceiling
lets through of a least turn that makes the rotation, and never more than a half
turn. -/
structure Vec3.IsShortWay (angular : Vec3 ℝ) (relative : Quat ℝ) (ceiling : Exact) : Prop where
  le_pi : angular.norm ≤ Real.pi
  turns : ∃ axis angle, axis.norm = 1 ∧ relative.IsTurningAngle angle ∧
    (Quat.turn axis angle).SameRotation relative ∧ angular = axis.scale (ceiling.clip angle)

theorem Quat.IsPolar.isShortWay {relative : Quat ℝ} {axis : Vec3 ℝ} {angle : ℝ}
    (polar : relative.IsPolar axis angle) (ceiling : Exact) :
    (axis.scale (ceiling.clip angle)).IsShortWay relative ceiling where
  le_pi := by
    rw [Vec3.norm_unit_scale polar.unit (ceiling.clip_nonneg polar.nonneg)]
    exact (ceiling.clip_le polar.nonneg).trans polar.le_pi
  turns := ⟨axis, angle, polar.unit, polar.isTurningAngle, polar.sameRotation.symm, rfl⟩

/-- Two motion errors between the same places.  They are equal, unless the way
is a half turn and one sign is flipped; then their angular parts are opposite. -/
structure SpatialVector.AgreesWith (error error' : SpatialVector ℝ) (relative : Quat ℝ)
    (flipped : Prop) : Prop where
  linear : error'.linear = error.linear
  angular : ¬ (flipped ∧ relative.IsTurningAngle Real.pi) → error'.angular = error.angular
  opposite : flipped → relative.IsTurningAngle Real.pi →
    error'.angular = error.angular.scale (-1)

namespace Pose.Offset

variable {target pose target' pose' : Pose ℝ} {direction axis axis' : Vec3 ℝ}
  {distance angle : ℝ}

/-- The same places with other quaternions have the same offset, about the axis
that those quaternions tell. -/
theorem restored (offset : Offset target pose direction axis distance angle)
    (targetPosition : target'.position = target.position)
    (posePosition : pose'.position = pose.position)
    (polar : (target'.rotation * pose'.rotation.conjugate).IsPolar axis' angle) :
    Offset target' pose' direction axis' distance angle where
  unit := offset.unit
  nonneg := offset.nonneg
  linear := by rw [targetPosition, posePosition, offset.linear]
  polar := polar

end Pose.Offset

/-- The quaternions that stand for two rotations do not matter to the motion
error between them, up to the choice of the way round at a half turn. -/
theorem motionError_ignoresSigns {target target' current current' : Pose ℝ}
    (targetUnit : target.rotation.IsRotation) (currentUnit : current.rotation.IsRotation)
    (targetSame : target'.SamePlace target) (currentSame : current'.SamePlace current)
    (limits : ErrorLimits Exact) :
    ∃ error error' : SpatialVector ℝ,
      motionError target.toExact current.toExact limits = error.toExact ∧
      motionError target'.toExact current'.toExact limits = error'.toExact ∧
      error.AgreesWith error' (target.rotation * current.rotation.conjugate)
        (¬ (target'.rotation = -target.rotation ↔ current'.rotation = -current.rotation)) ∧
      error.angular.IsShortWay (target.rotation * current.rotation.conjugate) limits.maxAngle ∧
      error'.angular.IsShortWay (target'.rotation * current'.rotation.conjugate)
        limits.maxAngle := by
  rcases Pose.exists_offset targetUnit currentUnit with ⟨direction, axis, distance, angle, offset⟩
  rcases offset.polar.of_signs targetUnit currentUnit targetSame.rotation currentSame.rotation with
    ⟨axis', polar', kept, reversed⟩
  have offset' := offset.restored targetSame.position currentSame.position polar'
  refine ⟨_, _, offset.motionError_eq limits, offset'.motionError_eq limits, ?_,
    offset.polar.isShortWay _, polar'.isShortWay _⟩
  exact {
    linear := rfl
    angular := by
      intro exception
      have axisEq : axis' = axis :=
        kept fun halfTurn => exception ⟨halfTurn.1, halfTurn.2 ▸ offset.polar.isTurningAngle⟩
      rw [axisEq]
    opposite := by
      intro flipped halfTurn
      have axisEq : axis' = axis.scale (-1) :=
        reversed flipped (offset.polar.angle_unique halfTurn).symm
      simp only [SpatialVector.along, axisEq, Vec3.scale_scale, mul_comm] }

end MotionControl
