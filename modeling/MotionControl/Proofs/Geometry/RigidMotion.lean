import MotionControl.Proofs.Geometry.Rotation

/-!
# Rigid motions of the base frame

A unit quaternion turns vectors (`Quat.rotate`), and a pose, taken as a rigid motion, carries
every other pose along: it turns the position about the origin and shifts it, and turns the
rotation from the left.  A rotation keeps lengths and differences, and what it makes of a turn
is the turn about the turned axis (`Quat.turn_carried`).  So the short way round survives as it
is, at the half turn too: conjugation leaves the scalar part alone, whose sign chooses the axis.

Undoing a rotation (`IsPolar.conjugate`) likewise only reverses the axis.
-/

namespace MotionControl

/-- The quaternion without scalar part over a vector. -/
def Quat.ofVector {α : Type} [Scalar α] (v : Vec3 α) : Quat α :=
  ⟨v.x, v.y, v.z, 0⟩

/-- The vector turned by a unit quaternion. -/
def Quat.rotate {α : Type} [Scalar α] (q : Quat α) (v : Vec3 α) : Vec3 α :=
  (q * ofVector v * q.conjugate).vector

/-- The pose after a rigid motion of the base frame.  The motion is given by what it makes of
the frame itself. -/
def Pose.carry {α : Type} [Scalar α] (motion pose : Pose α) : Pose α where
  position := motion.position + motion.rotation.rotate pose.position
  rotation := motion.rotation * pose.rotation

namespace Quat

/-! ## Turned vectors -/

theorem normSq_ofVector (v : Vec3 ℝ) : (ofVector v).normSq = v.normSq := by
  simp only [ofVector, normSq, Vec3.normSq]
  ring

/-- A turned vector is again one without scalar part. -/
theorem ofVector_rotate (q : Quat ℝ) (v : Vec3 ℝ) :
    ofVector (q.rotate v) = q * ofVector v * q.conjugate := by
  have scalar : (q * ofVector v * q.conjugate).w = 0 := by
    simp only [ofVector, mul_x, mul_y, mul_z, mul_w, conjugate_x, conjugate_y, conjugate_z,
      conjugate_w]
    ring
  exact Quat.ext rfl rfl rfl scalar.symm

theorem rotate_sub (q : Quat ℝ) (v w : Vec3 ℝ) : q.rotate (v - w) = q.rotate v - q.rotate w := by
  ext <;> simp [rotate, ofVector, vector] <;> ring

theorem rotate_scale (q : Quat ℝ) (v : Vec3 ℝ) (k : ℝ) :
    q.rotate (v.scale k) = (q.rotate v).scale k := by
  ext <;> simp [rotate, ofVector, vector] <;> ring

theorem norm_rotate {q : Quat ℝ} (unit : q.IsRotation) (v : Vec3 ℝ) :
    (q.rotate v).norm = v.norm := by
  have square : (q.rotate v).normSq = v.normSq := by
    rw [← normSq_ofVector, ofVector_rotate, normSq_mul, normSq_mul, normSq_ofVector, unit,
      unit.conjugate, one_mul, mul_one]
  exact congrArg Real.sqrt square

/-! ## Turned and undone turns -/

/-- A turn, seen after a rotation of the frame, is one by the same angle about the turned
axis. -/
theorem turn_carried {q : Quat ℝ} (unit : q.IsRotation) (axis : Vec3 ℝ) (angle : ℝ) :
    q * turn axis angle * q.conjugate = turn (q.rotate axis) angle := by
  have square : (q.x * q.x + q.z * q.z) + (q.y * q.y + q.w * q.w) = 1 := unit
  ext <;> simp only [mul_x, mul_y, mul_z, mul_w, conjugate_x, conjugate_y, conjugate_z,
    conjugate_w, turn_eq, rotate, ofVector, vector]
  · ring
  · ring
  · ring
  · linear_combination Real.cos (angle / 2) * square

namespace IsPolar

variable {q : Quat ℝ} {axis : Vec3 ℝ} {angle : ℝ}

theorem carried (polar : IsPolar q axis angle) {r : Quat ℝ} (unit : r.IsRotation) :
    IsPolar (r * q * r.conjugate) (r.rotate axis) angle where
  unit := (norm_rotate unit axis).trans polar.unit
  nonneg := polar.nonneg
  le_pi := polar.le_pi
  sign := by
    rcases polar.sign with rfl | ⟨rfl, below⟩
    · exact .inl (turn_carried unit axis angle)
    · exact .inr ⟨by rw [mul_neg, neg_mul, turn_carried unit], below⟩

theorem conjugate (polar : IsPolar q axis angle) :
    IsPolar q.conjugate (axis.scale (-1)) angle where
  unit := axis.norm_opposite.trans polar.unit
  nonneg := polar.nonneg
  le_pi := polar.le_pi
  sign := by
    rcases polar.sign with rfl | ⟨rfl, below⟩
    · exact .inl (by rw [turn_conjugate, turn_neg])
    · exact .inr ⟨by rw [conjugate_neg, turn_conjugate, turn_neg], below⟩

end IsPolar

end Quat
end MotionControl
