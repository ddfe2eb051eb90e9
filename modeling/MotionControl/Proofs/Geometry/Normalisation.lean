import MotionControl.Proofs.Geometry.Construction
import MotionControl.Proofs.Geometry.Exact

/-!
# Unit length over the reals

Two operations restore unit length: `renormalize` divides by the length, and
`ofComponents?` divides by the largest component before that and refuses what is
too short.  Over the reals the detour through the largest component changes
nothing (`ofComponents?_eq`): the length alone decides what is accepted, and a
multiple of an orientation is normalised to the same quaternion, up to the sign
of the factor (`unscale_norm_scale`).
-/

namespace MotionControl
namespace Quat

/-- The multiple of a quaternion. -/
def scale {α : Type} [Scalar α] (q : Quat α) (k : α) : Quat α :=
  ⟨q.x * k, q.y * k, q.z * k, q.w * k⟩

section Components

variable {α : Type} [Scalar α]

@[simp] theorem scale_x (q : Quat α) (k : α) : (q.scale k).x = q.x * k := rfl
@[simp] theorem scale_y (q : Quat α) (k : α) : (q.scale k).y = q.y * k := rfl
@[simp] theorem scale_z (q : Quat α) (k : α) : (q.scale k).z = q.z * k := rfl
@[simp] theorem scale_w (q : Quat α) (k : α) : (q.scale k).w = q.w * k := rfl

end Components

/-! ## Multiples and their lengths -/

theorem scale_scale (q : Quat ℝ) (a b : ℝ) : (q.scale a).scale b = q.scale (a * b) := by
  ext <;> simp <;> ring

theorem scale_one (q : Quat ℝ) : q.scale 1 = q := by
  ext <;> simp

theorem scale_neg (q : Quat ℝ) (k : ℝ) : q.scale (-k) = -q.scale k := by
  ext <;> simp

theorem unscale_eq_scale (q : Quat ℝ) (k : ℝ) : q.unscale k = q.scale k⁻¹ := by
  ext <;> simp [unscale, div_eq_mul_inv]

theorem normSq_nonneg (q : Quat ℝ) : 0 ≤ q.normSq :=
  add_nonneg (add_nonneg (mul_self_nonneg q.x) (mul_self_nonneg q.z))
    (add_nonneg (mul_self_nonneg q.y) (mul_self_nonneg q.w))

theorem normSq_scale (q : Quat ℝ) (k : ℝ) : (q.scale k).normSq = q.normSq * (k * k) := by
  simp [normSq]
  ring

theorem norm_scale (q : Quat ℝ) (k : ℝ) : (q.scale k).norm = q.norm * |k| := by
  change Real.sqrt (q.scale k).normSq = Real.sqrt q.normSq * |k|
  rw [normSq_scale, Real.sqrt_mul q.normSq_nonneg, Real.sqrt_mul_self_eq_abs]

theorem isRotation_iff (q : Quat ℝ) : q.IsRotation ↔ q.norm = 1 :=
  Real.sqrt_eq_one.symm

theorem unscale_norm_isRotation {q : Quat ℝ} (positive : 0 < q.norm) :
    (q.unscale q.norm).IsRotation := by
  rw [isRotation_iff, unscale_eq_scale, norm_scale, abs_of_pos (inv_pos.mpr positive),
    mul_inv_cancel₀ positive.ne']

/-- A multiple has the same unit quaternion, with the sign of the factor. -/
theorem unscale_norm_scale (q : Quat ℝ) {k : ℝ} (nonzero : k ≠ 0) :
    (q.scale k).unscale (q.scale k).norm =
      if k < 0 then -q.unscale q.norm else q.unscale q.norm := by
  rw [unscale_eq_scale, unscale_eq_scale, norm_scale, scale_scale, mul_inv]
  split_ifs with negative
  · rw [← scale_neg, abs_of_neg negative]
    congr 1
    field_simp
  · rw [abs_of_nonneg (not_lt.mp negative)]
    congr 1
    field_simp

/-! ## Restoring unit length -/

theorem IsRotation.renormalize {q : Quat ℝ} (unit : q.IsRotation) : q.renormalize = q := by
  rw [Quat.renormalize, q.isRotation_iff.mp unit, unscale_eq_scale, inv_one, scale_one]

/-! ## The gate for orientations -/

@[simp] theorem isFinite_real (q : Quat ℝ) : q.isFinite = true := rfl

theorem maxMagnitude_eq (q : Quat ℝ) : q.maxMagnitude = max q.vector.maxMagnitude |q.w| := by
  simp [maxMagnitude]

theorem norm_of_maxMagnitude {q : Quat ℝ} (none : q.maxMagnitude ≤ 0) : q.norm = 0 := by
  rw [maxMagnitude_eq] at none
  have vector : q.vector = 0 :=
    q.vector.maxMagnitude_eq_zero_iff.mp
      (((le_max_left _ _).trans none).antisymm q.vector.maxMagnitude_nonneg)
  have x : q.x = 0 := congrArg Vec3.x vector
  have y : q.y = 0 := congrArg Vec3.y vector
  have z : q.z = 0 := congrArg Vec3.z vector
  have w : q.w = 0 := abs_nonpos_iff.mp ((le_max_right _ _).trans none)
  have square : q.normSq = 0 := by
    simp [normSq, x, y, z, w]
  exact (congrArg Real.sqrt square).trans Real.sqrt_zero

theorem minNorm_real : (minNorm : ℝ) = 1 / 10 ^ 9 := by
  norm_num [minNorm, Scalar.ratio]

/-- Scaling by the largest component first changes neither the length that is
tested nor the quaternion that is found. -/
theorem ofComponents?_eq (q : Quat ℝ) :
    q.ofComponents? = if q.norm < minNorm then none else some (q.unscale q.norm) := by
  by_cases zero : q.maxMagnitude ≤ 0
  · have short : q.norm < minNorm := by
      rw [norm_of_maxMagnitude zero, minNorm_real]
      positivity
    simp [ofComponents?, zero, short]
  · have size : 0 < q.maxMagnitude := not_le.mp zero
    have length : (q.unscale q.maxMagnitude).norm = q.norm * q.maxMagnitude⁻¹ := by
      rw [unscale_eq_scale, norm_scale, abs_of_pos (inv_pos.mpr size)]
    have back : q.norm * q.maxMagnitude⁻¹ * q.maxMagnitude = q.norm :=
      inv_mul_cancel_right₀ size.ne' _
    have unit : (q.unscale q.maxMagnitude).unscale (q.norm * q.maxMagnitude⁻¹) =
        q.unscale q.norm := by
      rw [unscale_eq_scale, unscale_eq_scale, scale_scale, unscale_eq_scale]
      congr 1
      field_simp
    simp [ofComponents?, zero, length, back, unit]

/-- Over the reals normalising divides by the length, once this is a billionth or more. -/
theorem normalises_iff (q unit : Quat ℝ) :
    (∃ size, q.Normalises size unit) ↔ 1 / 10 ^ 9 ≤ q.norm ∧ unit = q.unscale q.norm := by
  rw [← ofComponents?_eq_some_iff, ofComponents?_eq, minNorm_real]
  split_ifs with short
  · exact iff_of_false not_false fun long => long.1.not_gt short
  · rw [Option.some_inj, eq_comm, and_iff_right (not_lt.mp short)]

/-! ## Among the exact numbers -/

theorem toExact_unscale (q : Quat ℝ) {k : ℝ} (nonzero : k ≠ 0) :
    q.toExact.unscale (.real k) = (q.unscale k).toExact := by
  simp [unscale, toExact, Exact.real_div _ nonzero]

@[simp] theorem toExact_norm (q : Quat ℝ) : q.toExact.norm = .real q.norm :=
  Exact.sqrt_real q.normSq_nonneg

@[simp] theorem toExact_maxMagnitude (q : Quat ℝ) :
    q.toExact.maxMagnitude = .real q.maxMagnitude := by
  rw [maxMagnitude_eq, ← Exact.largerMagnitude_real, ← Vec3.toExact_maxMagnitude]
  rfl

theorem IsRotation.toExact_renormalize {q : Quat ℝ} (unit : q.IsRotation) :
    q.toExact.renormalize = q.toExact := by
  have length : q.norm = 1 := q.isRotation_iff.mp unit
  rw [Quat.renormalize, toExact_norm, toExact_unscale q (length ▸ one_ne_zero)]
  exact congrArg toExact unit.renormalize

theorem toExact_ofComponents? (q : Quat ℝ) :
    q.toExact.ofComponents? = q.ofComponents?.map toExact := by
  have finite : q.toExact.isFinite = true := rfl
  have least : (minNorm : Exact) = .real minNorm := by
    simp only [minNorm, Scalar.ratio, Exact.natCast_eq]
    exact Exact.real_div _ (by norm_num)
  by_cases zero : q.maxMagnitude ≤ 0
  · simp [ofComponents?, finite, zero]
  · have size : q.maxMagnitude ≠ 0 := fun vanishes => zero vanishes.le
    by_cases short : (q.unscale q.maxMagnitude).norm * q.maxMagnitude < minNorm
    · simp [ofComponents?, finite, zero, toExact_unscale _ size, least, short]
    · have length : (q.unscale q.maxMagnitude).norm ≠ 0 := by
        intro vanishes
        rw [vanishes, zero_mul, minNorm_real] at short
        exact short (by positivity)
      simp [ofComponents?, finite, zero, toExact_unscale _ size, least, short,
        toExact_unscale _ length]

theorem norm_pos_of_long {o : Quat ℝ} (long : 1 / 10 ^ 9 ≤ o.norm) : 0 < o.norm :=
  lt_of_lt_of_le (by norm_num) long

theorem ofComponents?_of_long {o : Quat ℝ} (long : 1 / 10 ^ 9 ≤ o.norm) :
    o.toExact.ofComponents? = some (o.unscale o.norm).toExact := by
  rw [toExact_ofComponents?, ofComponents?_eq, minNorm_real, if_neg (not_lt.mpr long),
    Option.map_some]

/-- Whatever passes the gate was real and long enough. -/
theorem exists_of_ofComponents? {q r : Quat Exact} (made : q.ofComponents? = some r) :
    ∃ o : Quat ℝ, q = o.toExact ∧ 1 / 10 ^ 9 ≤ o.norm ∧ r = (o.unscale o.norm).toExact := by
  rcases exists_toExact ((isFinite_iff q).mp (isFinite_of_ofComponents? made)) with ⟨o, rfl⟩
  rw [toExact_ofComponents?, ofComponents?_eq, minNorm_real] at made
  by_cases short : o.norm < 1 / 10 ^ 9
  · rw [if_pos short] at made
    cases made
  · rw [if_neg short, Option.map_some, Option.some_inj] at made
    exact ⟨o, rfl, not_lt.mp short, made.symm⟩

theorem IsRotation.ofComponents? {u : Quat ℝ} (unit : u.IsRotation) :
    u.toExact.ofComponents? = some u.toExact := by
  have length : u.norm = 1 := u.isRotation_iff.mp unit
  have kept : u.unscale u.norm = u := unit.renormalize
  rw [ofComponents?_of_long (by rw [length]; norm_num), kept]

end Quat
end MotionControl
