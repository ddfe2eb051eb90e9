import MotionControl.Proofs.Geometry.Construction
import MotionControl.Proofs.Geometry.Exact

/-!
# Roll, pitch and yaw

Three angles stand for three turns about the fixed axes of the base frame, about x first and
about z last (`rollPitchYaw`).  The products of half-angle sines and cosines that stand for them
over any numbers are that quaternion, sign included (`isRollPitchYaw_iff`).  Its short way round
is in general about none of the three axes; but if only one angle is used, and is at most a half
turn, it is that angle about that axis (`rotationVector_rollPitchYaw`).
-/

namespace MotionControl

/-- The three axes of the base frame. -/
def Vec3.axes : List (Vec3 ℝ) :=
  [⟨1, 0, 0⟩, ⟨0, 1, 0⟩, ⟨0, 0, 1⟩]

/-- Along one of the three axes. -/
def Vec3.IsAxial (v : Vec3 ℝ) : Prop :=
  ∃ axis ∈ Vec3.axes, ∃ length, v = axis.scale length

namespace Quat

/-- The rotation by three angles: roll about x, then pitch about y, then yaw about z. -/
noncomputable def rollPitchYaw (angles : Vec3 ℝ) : Quat ℝ :=
  turn ⟨0, 0, 1⟩ angles.z * turn ⟨0, 1, 0⟩ angles.y * turn ⟨1, 0, 0⟩ angles.x

theorem rollPitchYaw_isRollPitchYaw (angles : Vec3 ℝ) :
    (rollPitchYaw angles).IsRollPitchYaw angles := by
  constructor <;> simp only [rollPitchYaw, mul_x, mul_y, mul_z, mul_w, turn,
    Scalar.sin_real, Scalar.cos_real] <;> ring

theorem ofRollPitchYaw_eq (angles : Vec3 ℝ) :
    ofRollPitchYaw angles.x angles.y angles.z = rollPitchYaw angles :=
  ((isRollPitchYaw_iff_eq _ angles).mp (rollPitchYaw_isRollPitchYaw angles)).symm

/-- Over the reals the half-angle products are the product of the three turns. -/
theorem isRollPitchYaw_iff (q : Quat ℝ) (angles : Vec3 ℝ) :
    q.IsRollPitchYaw angles ↔ q = rollPitchYaw angles := by
  rw [isRollPitchYaw_iff_eq, ofRollPitchYaw_eq]

theorem toExact_ofRollPitchYaw (roll pitch yaw : ℝ) :
    ofRollPitchYaw (.real roll) (.real pitch) (.real yaw) =
      (ofRollPitchYaw roll pitch yaw).toExact := by
  have half (angle : ℝ) : Exact.real angle / ((2 : ℕ) : Exact) = .real (angle / ((2 : ℕ) : ℝ)) :=
    Exact.real_div angle (by norm_num)
  simp only [ofRollPitchYaw, half, Exact.sin_real, Exact.cos_real, Exact.real_mul,
    Exact.real_add, Exact.real_sub]
  rfl

theorem axis_norm {axis : Vec3 ℝ} (member : axis ∈ Vec3.axes) : axis.norm = 1 := by
  simp only [Vec3.axes, List.mem_cons, List.not_mem_nil, or_false] at member
  rcases member with rfl | rfl | rfl <;> norm_num [Vec3.norm, Vec3.normSq]

theorem rollPitchYaw_isRotation (angles : Vec3 ℝ) : (rollPitchYaw angles).IsRotation := by
  have turned {axis : Vec3 ℝ} (member : axis ∈ Vec3.axes) (angle : ℝ) :
      (turn axis angle).IsRotation :=
    turn_isRotation (axis_norm member) angle
  exact ((turned (by simp [Vec3.axes]) _).mul (turned (by simp [Vec3.axes]) _)).mul
    (turned (by simp [Vec3.axes]) _)

/-- A single turn of at most a half turn is its own short way round, in either direction. -/
theorem rotationVector_turn {axis : Vec3 ℝ} (unit : axis.norm = 1) {angle : ℝ}
    (short : |angle| ≤ Real.pi) : (turn axis angle).rotationVector = axis.scale angle := by
  rcases le_total 0 angle with forward | backward
  · rw [abs_of_nonneg forward] at short
    have polar : IsPolar (turn axis angle) axis angle := ⟨unit, forward, short, .inl rfl⟩
    exact polar.rotationVector_eq
  · rw [abs_of_nonpos backward] at short
    have polar : IsPolar (turn axis angle) (axis.scale (-1)) (-angle) :=
      ⟨axis.norm_opposite.trans unit, neg_nonneg.mpr backward, short,
        .inl (by rw [← turn_neg, neg_neg])⟩
    rw [polar.rotationVector_eq, Vec3.scale_scale, neg_mul_neg, one_mul]

/-- An angle about one of the three axes makes the turn about that axis. -/
theorem rollPitchYaw_axial {axis : Vec3 ℝ} (member : axis ∈ Vec3.axes) (angle : ℝ) :
    rollPitchYaw (axis.scale angle) = turn axis angle := by
  simp only [Vec3.axes, List.mem_cons, List.not_mem_nil, or_false] at member
  rcases member with rfl | rfl | rfl <;> simp [rollPitchYaw, turn_zero]

theorem rotationVector_rollPitchYaw {angles : Vec3 ℝ} (axial : angles.IsAxial)
    (short : angles.norm ≤ Real.pi) : (rollPitchYaw angles).rotationVector = angles := by
  rcases axial with ⟨axis, member, angle, rfl⟩
  have unit := axis_norm member
  rw [Vec3.norm_scale, unit, one_mul] at short
  rw [rollPitchYaw_axial member, rotationVector_turn unit short]

end Quat
end MotionControl
