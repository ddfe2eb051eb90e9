import Mathlib.Analysis.SpecialFunctions.Trigonometric.Inverse
import MotionControl.Proofs.Geometry.Vector

/-!
# Rotations over the reals

A unit quaternion is, up to its sign, a turn by an angle between zero and a half
turn about a unit axis.  `IsPolar` says so with the sign made explicit: the
negated quaternion of a half turn is again a half turn, about the opposite axis,
so the negative sign is kept for angles below the half turn.  In this form axis
and angle of the short way round are read off (`axis?_of_pos`, `angle_eq`), turns
about one axis add up (`turn_mul_turn`), and every unit quaternion has the form
(`exists_isPolar`).

`IsTurningAngle` is the angle of a rotation said without any formula: the least
one by which some turn makes it.
-/

namespace MotionControl
namespace Quat

section Components

variable {α : Type} [Scalar α]

instance : Neg (Quat α) where
  neg q := ⟨-q.x, -q.y, -q.z, -q.w⟩

@[simp] theorem one_x : (1 : Quat α).x = 0 := rfl
@[simp] theorem one_y : (1 : Quat α).y = 0 := rfl
@[simp] theorem one_z : (1 : Quat α).z = 0 := rfl
@[simp] theorem one_w : (1 : Quat α).w = 1 := rfl
@[simp] theorem neg_x (q : Quat α) : (-q).x = -q.x := rfl
@[simp] theorem neg_y (q : Quat α) : (-q).y = -q.y := rfl
@[simp] theorem neg_z (q : Quat α) : (-q).z = -q.z := rfl
@[simp] theorem neg_w (q : Quat α) : (-q).w = -q.w := rfl
@[simp] theorem conjugate_x (q : Quat α) : q.conjugate.x = -q.x := rfl
@[simp] theorem conjugate_y (q : Quat α) : q.conjugate.y = -q.y := rfl
@[simp] theorem conjugate_z (q : Quat α) : q.conjugate.z = -q.z := rfl
@[simp] theorem conjugate_w (q : Quat α) : q.conjugate.w = q.w := rfl

@[simp] theorem mul_x (a b : Quat α) :
    (a * b).x = a.w * b.x + a.x * b.w + a.y * b.z - a.z * b.y := rfl

@[simp] theorem mul_y (a b : Quat α) :
    (a * b).y = a.w * b.y - a.x * b.z + a.y * b.w + a.z * b.x := rfl

@[simp] theorem mul_z (a b : Quat α) :
    (a * b).z = a.w * b.z + a.x * b.y - a.y * b.x + a.z * b.w := rfl

@[simp] theorem mul_w (a b : Quat α) :
    (a * b).w = a.w * b.w - a.x * b.x - a.y * b.y - a.z * b.z := rfl

end Components

/-! ## Algebra -/

noncomputable instance : Monoid (Quat ℝ) where
  mul_assoc a b c := by ext <;> simp <;> ring
  one_mul a := by ext <;> simp
  mul_one a := by ext <;> simp

noncomputable instance : HasDistribNeg (Quat ℝ) where
  neg_neg a := by ext <;> simp
  neg_mul a b := by ext <;> simp <;> ring
  mul_neg a b := by ext <;> simp <;> ring

theorem conjugate_mul (a b : Quat ℝ) : (a * b).conjugate = b.conjugate * a.conjugate := by
  ext <;> simp <;> ring

theorem conjugate_conjugate (q : Quat ℝ) : q.conjugate.conjugate = q := by
  ext <;> simp

theorem conjugate_neg (q : Quat ℝ) : (-q).conjugate = -q.conjugate := by
  ext <;> simp

theorem mul_one_conjugate (q : Quat ℝ) : q * (1 : Quat ℝ).conjugate = q := by
  ext <;> simp

theorem normSq_mul (a b : Quat ℝ) : (a * b).normSq = a.normSq * b.normSq := by
  simp [normSq]
  ring

theorem normSq_neg (q : Quat ℝ) : (-q).normSq = q.normSq := by
  simp [normSq]

theorem normSq_conjugate (q : Quat ℝ) : q.conjugate.normSq = q.normSq := by
  simp [normSq]

/-- A quaternion of unit length, which stands for a rotation. -/
def IsRotation (q : Quat ℝ) : Prop :=
  q.normSq = 1

namespace IsRotation

theorem one : IsRotation (1 : Quat ℝ) := by
  simp [IsRotation, normSq]

theorem mul {a b : Quat ℝ} (left : a.IsRotation) (right : b.IsRotation) :
    (a * b).IsRotation := by
  rw [IsRotation, normSq_mul, left, right, mul_one]

theorem conjugate {q : Quat ℝ} (unit : q.IsRotation) : q.conjugate.IsRotation :=
  (normSq_conjugate q).trans unit

theorem neg {q : Quat ℝ} (unit : q.IsRotation) : (-q).IsRotation :=
  (normSq_neg q).trans unit

theorem mul_conjugate {q : Quat ℝ} (unit : q.IsRotation) : q * q.conjugate = 1 := by
  have square : (q.x * q.x + q.z * q.z) + (q.y * q.y + q.w * q.w) = 1 := unit
  ext <;> simp
  all_goals linarith

theorem conjugate_mul {q : Quat ℝ} (unit : q.IsRotation) : q.conjugate * q = 1 := by
  have turned := unit.conjugate.mul_conjugate
  rwa [conjugate_conjugate] at turned

theorem vector_normSq {q : Quat ℝ} (unit : q.IsRotation) :
    q.vector.normSq = 1 - q.w ^ 2 := by
  have square : (q.x * q.x + q.z * q.z) + (q.y * q.y + q.w * q.w) = 1 := unit
  simp only [vector, Vec3.normSq]
  linarith

end IsRotation

/-- The same rotation: equal quaternions, up to sign. -/
def SameRotation (a b : Quat ℝ) : Prop :=
  a = b ∨ a = -b

namespace SameRotation

theorem symm {a b : Quat ℝ} (same : SameRotation a b) : SameRotation b a := by
  rcases same with rfl | rfl
  · exact .inl rfl
  · exact .inr (neg_neg b).symm

theorem mul_right {a b : Quat ℝ} (same : SameRotation a b) (c : Quat ℝ) :
    SameRotation (a * c) (b * c) := by
  rcases same with rfl | rfl
  · exact .inl rfl
  · exact .inr (neg_mul b c)

end SameRotation

/-- The relative rotation is the identity exactly between equal rotations. -/
theorem sameRotation_one_iff {a b : Quat ℝ} (unit : b.IsRotation) :
    SameRotation (a * b.conjugate) 1 ↔ SameRotation a b := by
  constructor
  · intro same
    have turned := same.mul_right b
    rwa [mul_assoc, unit.conjugate_mul, mul_one, one_mul] at turned
  · intro same
    have turned := same.mul_right b.conjugate
    rwa [unit.mul_conjugate] at turned

/-! ## Turns about an axis -/

/-- The turn by an angle about an axis, which is meant to have unit length. -/
noncomputable def turn (axis : Vec3 ℝ) (angle : ℝ) : Quat ℝ where
  x := axis.x * Real.sin (angle / ((2 : ℕ) : ℝ))
  y := axis.y * Real.sin (angle / ((2 : ℕ) : ℝ))
  z := axis.z * Real.sin (angle / ((2 : ℕ) : ℝ))
  w := Real.cos (angle / ((2 : ℕ) : ℝ))

theorem turn_eq (axis : Vec3 ℝ) (angle : ℝ) : turn axis angle =
    ⟨axis.x * Real.sin (angle / 2), axis.y * Real.sin (angle / 2), axis.z * Real.sin (angle / 2),
      Real.cos (angle / 2)⟩ := by
  simp only [turn, Nat.cast_ofNat]

theorem turn_zero (axis : Vec3 ℝ) : turn axis 0 = 1 := by
  ext <;> simp [turn_eq]

theorem turn_conjugate (axis : Vec3 ℝ) (angle : ℝ) :
    (turn axis angle).conjugate = turn axis (-angle) := by
  ext <;> simp [turn_eq, neg_div]

/-- A turn in the other direction is one about the opposite axis. -/
theorem turn_neg (axis : Vec3 ℝ) (angle : ℝ) :
    turn axis (-angle) = turn (axis.scale (-1)) angle := by
  ext <;> simp [turn_eq, neg_div]

theorem turn_isRotation {axis : Vec3 ℝ} (unit : axis.norm = 1) (angle : ℝ) :
    (turn axis angle).IsRotation := by
  have square : axis.x * axis.x + axis.y * axis.y + axis.z * axis.z = 1 :=
    Vec3.normSq_of_unit unit
  have circle := Real.sin_sq_add_cos_sq (angle / 2)
  simp only [IsRotation, normSq, turn_eq]
  linear_combination (Real.sin (angle / 2)) ^ 2 * square + circle

theorem turn_mul_turn {axis : Vec3 ℝ} (unit : axis.norm = 1) (a b : ℝ) :
    turn axis a * turn axis b = turn axis (a + b) := by
  have square : axis.x * axis.x + axis.y * axis.y + axis.z * axis.z = 1 :=
    Vec3.normSq_of_unit unit
  ext <;> simp only [mul_x, mul_y, mul_z, mul_w] <;>
    simp only [turn_eq, add_div, Real.sin_add, Real.cos_add]
  · ring
  · ring
  · ring
  · linear_combination -(Real.sin (a / 2) * Real.sin (b / 2)) * square

/-- The exponential map turns by the length of a vector about its direction. -/
theorem ofRotationVector_scale {axis : Vec3 ℝ} (unit : axis.norm = 1) (angle : ℝ) :
    ofRotationVector (axis.scale angle) = turn axis angle := by
  have half : (axis.scale angle).unscale ((2 : ℕ) : ℝ) = axis.scale (angle / 2) := by
    rw [Vec3.unscale_eq_scale, Vec3.scale_scale]
    norm_num [div_eq_mul_inv]
  have length : (axis.scale (angle / 2)).normSq = angle / 2 * (angle / 2) := by
    rw [Vec3.normSq_scale, Vec3.normSq_of_unit unit, one_mul]
  by_cases still : angle = 0
  · subst still
    rw [turn_zero]
    simp only [ofRotationVector, half, length]
    simp
    rfl
  · have positive : ¬ angle / 2 * (angle / 2) ≤ 0 := by
      have nonzero : angle / 2 ≠ 0 := by simpa using still
      exact not_le.mpr (mul_self_pos.mpr nonzero)
    have sine : angle / 2 * (Real.sin |angle / 2| / |angle / 2|) = Real.sin (angle / 2) := by
      have nonzero : angle / 2 ≠ 0 := by simpa using still
      rcases abs_cases (angle / 2) with ⟨size, -⟩ | ⟨size, -⟩
      · rw [size]
        field_simp
      · rw [size, Real.sin_neg]
        field_simp
    simp only [ofRotationVector, half, length, Scalar.epsilon_real, mul_zero, positive, if_false,
      Scalar.sqrt_real, Scalar.sin_real, Scalar.cos_real, Real.sqrt_mul_self_eq_abs,
      Vec3.scale_scale, sine, Real.cos_abs, turn_eq]
    rfl

theorem ofRotationVector_isRotation (v : Vec3 ℝ) : (ofRotationVector v).IsRotation := by
  rcases v.exists_direction with ⟨axis, unit, vector⟩
  rw [vector, ofRotationVector_scale unit]
  exact turn_isRotation unit v.norm

/-! ## Axis and angle of the short way round -/

/-- Axis and angle of a unit quaternion of either sign. -/
structure IsPolar (q : Quat ℝ) (axis : Vec3 ℝ) (angle : ℝ) : Prop where
  unit : axis.norm = 1
  nonneg : 0 ≤ angle
  le_pi : angle ≤ Real.pi
  sign : q = turn axis angle ∨ (q = -turn axis angle ∧ angle < Real.pi)

/-- Cosine and sine of half the angle are the magnitudes of the scalar and the
vector part. -/
theorem exists_angle {q : Quat ℝ} (unit : q.IsRotation) :
    ∃ angle, 0 ≤ angle ∧ angle ≤ Real.pi ∧ (q.w ≠ 0 → angle < Real.pi) ∧
      Real.cos (angle / 2) = |q.w| ∧ Real.sin (angle / 2) = q.vector.norm := by
  have square := unit.vector_normSq
  have bound : |q.w| ≤ 1 := by
    have below : q.w ^ 2 ≤ 1 := by linarith [q.vector.normSq_nonneg]
    exact (sq_le_one_iff_abs_le_one q.w).mp below
  have small : Real.arccos |q.w| ≤ Real.pi / 2 := Real.arccos_le_pi_div_two.mpr (abs_nonneg q.w)
  refine ⟨2 * Real.arccos |q.w|, mul_nonneg two_pos.le (Real.arccos_nonneg _), by linarith,
    fun nonzero => ?_, ?_, ?_⟩
  · have below : Real.arccos |q.w| < Real.pi / 2 :=
      Real.arccos_lt_pi_div_two.mpr (abs_pos.mpr nonzero)
    linarith
  · rw [mul_div_cancel_left₀ _ two_ne_zero]
    exact Real.cos_arccos (by linarith [abs_nonneg q.w]) bound
  · rw [mul_div_cancel_left₀ _ two_ne_zero, Real.sin_arccos, sq_abs, ← square]
    rfl

theorem exists_isPolar {q : Quat ℝ} (unit : q.IsRotation) :
    ∃ axis angle, IsPolar q axis angle := by
  rcases exists_angle unit with ⟨angle, nonneg, le_pi, lt_pi, cosine, sine⟩
  rcases q.vector.exists_direction with ⟨direction, directionUnit, vector⟩
  have x : q.x = direction.x * q.vector.norm := congrArg Vec3.x vector
  have y : q.y = direction.y * q.vector.norm := congrArg Vec3.y vector
  have z : q.z = direction.z * q.vector.norm := congrArg Vec3.z vector
  by_cases negative : q.w < 0
  · -- the quaternion of the long way round is the negated one about the opposite axis
    have opposite : q = -turn (direction.scale (-1)) angle := by
      apply Quat.ext
      · simp only [neg_x, turn_eq, Vec3.scale_x, sine, x]
        ring
      · simp only [neg_y, turn_eq, Vec3.scale_y, sine, y]
        ring
      · simp only [neg_z, turn_eq, Vec3.scale_z, sine, z]
        ring
      · simp only [neg_w, turn_eq, cosine, abs_of_neg negative, neg_neg]
    exact ⟨direction.scale (-1), angle, direction.norm_opposite.trans directionUnit, nonneg, le_pi,
      .inr ⟨opposite, lt_pi negative.ne⟩⟩
  · refine ⟨direction, angle, directionUnit, nonneg, le_pi, .inl (Quat.ext ?_ ?_ ?_ ?_)⟩
    · rw [turn_eq, sine, x]
    · rw [turn_eq, sine, y]
    · rw [turn_eq, sine, z]
    · rw [turn_eq, cosine, abs_of_nonneg (not_lt.mp negative)]

namespace IsPolar

variable {q : Quat ℝ} {axis : Vec3 ℝ} {angle : ℝ}

theorem sameRotation (polar : IsPolar q axis angle) : SameRotation q (turn axis angle) :=
  polar.sign.imp_right And.left

theorem isRotation (polar : IsPolar q axis angle) : q.IsRotation := by
  rcases polar.sign with rfl | ⟨rfl, -⟩
  · exact turn_isRotation polar.unit angle
  · exact (turn_isRotation polar.unit angle).neg

theorem sin_nonneg (polar : IsPolar q axis angle) : 0 ≤ Real.sin (angle / 2) :=
  Real.sin_nonneg_of_nonneg_of_le_pi (by linarith [polar.nonneg])
    (by linarith [polar.nonneg, polar.le_pi])

theorem cos_nonneg (polar : IsPolar q axis angle) : 0 ≤ Real.cos (angle / 2) :=
  Real.cos_nonneg_of_neg_pi_div_two_le_of_le (by linarith [polar.nonneg, Real.pi_pos])
    (by linarith [polar.le_pi])

theorem abs_w (polar : IsPolar q axis angle) : |q.w| = Real.cos (angle / 2) := by
  rcases polar.sign with rfl | ⟨rfl, -⟩
  · rw [turn_eq]
    exact abs_of_nonneg polar.cos_nonneg
  · rw [neg_w, abs_neg, turn_eq]
    exact abs_of_nonneg polar.cos_nonneg

theorem short_vector (polar : IsPolar q axis angle) :
    (if q.w < 0 then -q.vector else q.vector) = axis.scale (Real.sin (angle / 2)) := by
  rcases polar.sign with rfl | ⟨rfl, below⟩
  · have upright : ¬ (turn axis angle).w < 0 := by
      rw [turn_eq]
      exact not_lt.mpr polar.cos_nonneg
    rw [if_neg upright, turn_eq]
    rfl
  · have positive : 0 < Real.cos (angle / 2) :=
      Real.cos_pos_of_mem_Ioo ⟨by linarith [polar.nonneg, Real.pi_pos], by linarith⟩
    have flipped : (-turn axis angle).w < 0 := by
      rw [neg_w, turn_eq]
      exact neg_neg_of_pos positive
    rw [if_pos flipped]
    ext <;> simp [vector, turn_eq]

theorem vector_norm (polar : IsPolar q axis angle) :
    q.vector.norm = Real.sin (angle / 2) := by
  have length : (axis.scale (Real.sin (angle / 2))).norm = Real.sin (angle / 2) :=
    Vec3.norm_unit_scale polar.unit polar.sin_nonneg
  rw [← polar.short_vector] at length
  split_ifs at length with negative
  · rwa [show -q.vector = q.vector.scale (-1) by ext <;> simp, Vec3.norm_opposite] at length
  · exact length

theorem angle_eq (polar : IsPolar q axis angle) : q.angle = angle := by
  have circle : (⟨Real.cos (angle / 2), Real.sin (angle / 2)⟩ : ℂ) =
      Complex.cos ((angle / 2 : ℝ) : ℂ) + Complex.sin ((angle / 2 : ℝ) : ℂ) * Complex.I := by
    rw [← Complex.ofReal_cos, ← Complex.ofReal_sin]
    exact Complex.mk_eq_add_mul_I _ _
  have half : Complex.arg ⟨|q.w|, q.vector.norm⟩ = angle / 2 := by
    rw [polar.abs_w, polar.vector_norm, circle]
    exact Complex.arg_cos_add_sin_mul_I
      ⟨by linarith [polar.nonneg, Real.pi_pos], by linarith [polar.le_pi, polar.nonneg]⟩
  have twice : q.angle = Complex.arg ⟨|q.w|, q.vector.norm⟩ * ((2 : ℕ) : ℝ) := rfl
  rw [twice, half]
  norm_num

theorem sin_pos (polar : IsPolar q axis angle) (positive : 0 < angle) :
    0 < Real.sin (angle / 2) :=
  Real.sin_pos_of_pos_of_lt_pi (by linarith) (by linarith [polar.le_pi])

theorem axis?_of_pos (polar : IsPolar q axis angle) (positive : 0 < angle) :
    q.axis? = some axis := by
  have sine := polar.sin_pos positive
  have length : (axis.scale (Real.sin (angle / 2))).norm = Real.sin (angle / 2) :=
    Vec3.norm_unit_scale polar.unit sine.le
  have nonzero : axis.scale (Real.sin (angle / 2)) ≠ 0 := by
    rw [← Vec3.norm_pos_iff, length]
    exact sine
  have direction : (axis.scale (Real.sin (angle / 2))).unscale (Real.sin (angle / 2)) = axis := by
    rw [Vec3.unscale_eq_scale, Vec3.scale_scale, mul_inv_cancel₀ sine.ne', Vec3.scale_one]
  simp only [axis?, polar.short_vector, Vec3.direction?_of_ne_zero nonzero, length, direction,
    Option.map_some]

theorem axis?_of_zero (polar : IsPolar q axis angle) (zero : angle = 0) : q.axis? = none := by
  have none : axis.scale (Real.sin (angle / 2)) = 0 := by
    rw [zero, zero_div, Real.sin_zero, Vec3.scale_zero]
  simp only [axis?, polar.short_vector, none, Vec3.direction?_zero, Option.map_none]

/-- The rotation vector is the logarithm: axis times angle, zero for the
identity of either sign. -/
theorem rotationVector_eq (polar : IsPolar q axis angle) :
    q.rotationVector = axis.scale angle := by
  rcases polar.nonneg.eq_or_lt with zero | positive
  · rw [rotationVector, polar.axis?_of_zero zero.symm, ← zero, Vec3.scale_zero]
  · rw [rotationVector, polar.axis?_of_pos positive, polar.angle_eq]

/-- Turning back by part of the angle leaves the rest of it about the same
axis. -/
theorem turn_back (polar : IsPolar q axis angle) {part : ℝ} (nonneg : 0 ≤ part)
    (le : part ≤ angle) : IsPolar (q * turn axis (-part)) axis (angle - part) where
  unit := polar.unit
  nonneg := by linarith
  le_pi := by linarith [polar.le_pi]
  sign := by
    rcases polar.sign with rfl | ⟨rfl, below⟩
    · exact .inl (by rw [turn_mul_turn polar.unit, ← sub_eq_add_neg])
    · exact .inr ⟨by rw [neg_mul, turn_mul_turn polar.unit, ← sub_eq_add_neg], by linarith⟩

/-- A rotation by no angle at all is the identity, of either sign. -/
theorem angle_eq_zero_iff (polar : IsPolar q axis angle) : angle = 0 ↔ SameRotation q 1 := by
  constructor
  · rintro rfl
    rw [← turn_zero axis]
    exact polar.sameRotation
  · intro same
    have vector : q.vector = 0 := by
      rcases same with rfl | rfl
      · rfl
      · ext <;> simp [vector]
    have sine := polar.vector_norm
    rw [vector, (Vec3.norm_eq_zero_iff 0).mpr rfl] at sine
    by_contra nonzero
    exact (polar.sin_pos (polar.nonneg.lt_of_ne' nonzero)).ne sine

end IsPolar

theorem halfTurn_isPolar : IsPolar ⟨1, 0, 0, 0⟩ ⟨1, 0, 0⟩ Real.pi where
  unit := by simp [Vec3.norm, Vec3.normSq]
  nonneg := Real.pi_pos.le
  le_pi := le_rfl
  sign := .inl (by ext <;> simp [turn_eq])

/-! ## The angle of a rotation -/

/-- The least angle by which some turn makes the rotation. -/
def IsTurningAngle (q : Quat ℝ) (angle : ℝ) : Prop :=
  IsLeast { turned : ℝ | 0 ≤ turned ∧
    ∃ axis : Vec3 ℝ, axis.norm = 1 ∧ SameRotation (turn axis turned) q } angle

theorem IsPolar.isTurningAngle {q : Quat ℝ} {axis : Vec3 ℝ} {angle : ℝ}
    (polar : IsPolar q axis angle) : IsTurningAngle q angle := by
  refine ⟨⟨polar.nonneg, axis, polar.unit, polar.sameRotation.symm⟩, ?_⟩
  rintro turned ⟨nonneg, other, -, same⟩
  have cosine : |Real.cos (turned / 2)| = Real.cos (angle / 2) := by
    rw [← polar.abs_w]
    rcases same with equal | equal
    · exact congrArg abs (congrArg Quat.w equal)
    · exact (congrArg abs (congrArg Quat.w equal)).trans (abs_neg q.w)
  by_contra less
  -- a smaller angle would have a larger cosine of its half
  have larger : Real.cos (angle / 2) < Real.cos (turned / 2) :=
    Real.cos_lt_cos_of_nonneg_of_le_pi (by linarith) (by linarith [polar.le_pi, polar.nonneg])
      (by linarith)
  linarith [le_abs_self (Real.cos (turned / 2))]

theorem IsPolar.angle_unique {q : Quat ℝ} {axis : Vec3 ℝ} {angle other : ℝ}
    (polar : IsPolar q axis angle) (least : IsTurningAngle q other) : other = angle :=
  least.unique polar.isTurningAngle

/-- The exponential of the logarithm of a rotation is that rotation. -/
theorem IsRotation.ofRotationVector_rotationVector {q : Quat ℝ} (unit : q.IsRotation) :
    (ofRotationVector q.rotationVector).SameRotation q := by
  rcases exists_isPolar unit with ⟨axis, angle, polar⟩
  rw [polar.rotationVector_eq, ofRotationVector_scale polar.unit]
  exact polar.sameRotation.symm

/-- The length of that logarithm is the angle of the rotation. -/
theorem IsRotation.isTurningAngle_norm {q : Quat ℝ} (unit : q.IsRotation) :
    q.IsTurningAngle q.rotationVector.norm := by
  rcases exists_isPolar unit with ⟨axis, angle, polar⟩
  rw [polar.rotationVector_eq, Vec3.norm_unit_scale polar.unit polar.nonneg]
  exact polar.isTurningAngle

end Quat
end MotionControl
