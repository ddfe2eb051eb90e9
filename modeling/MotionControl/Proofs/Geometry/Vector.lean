import Mathlib.Tactic.FieldSimp
import Mathlib.Tactic.Ring
import MotionControl.MotionError
import MotionControl.Proofs.Scalar.Real

/-!
# Vectors over the reals

Every real vector is a length times a unit direction, and `exists_direction` is
the form in which later modules take vectors apart: it treats the zero vector
like any other, with an arbitrary direction.  The scaled normalisation of
`directionDistance` finds the same length and, where there is one, the same
direction.
-/

namespace MotionControl
namespace Vec3

section Components

variable {α : Type} [Scalar α]

@[simp] theorem zero_x : (0 : Vec3 α).x = 0 := rfl
@[simp] theorem zero_y : (0 : Vec3 α).y = 0 := rfl
@[simp] theorem zero_z : (0 : Vec3 α).z = 0 := rfl
@[simp] theorem add_x (a b : Vec3 α) : (a + b).x = a.x + b.x := rfl
@[simp] theorem add_y (a b : Vec3 α) : (a + b).y = a.y + b.y := rfl
@[simp] theorem add_z (a b : Vec3 α) : (a + b).z = a.z + b.z := rfl
@[simp] theorem sub_x (a b : Vec3 α) : (a - b).x = a.x - b.x := rfl
@[simp] theorem sub_y (a b : Vec3 α) : (a - b).y = a.y - b.y := rfl
@[simp] theorem sub_z (a b : Vec3 α) : (a - b).z = a.z - b.z := rfl
@[simp] theorem neg_x (a : Vec3 α) : (-a).x = -a.x := rfl
@[simp] theorem neg_y (a : Vec3 α) : (-a).y = -a.y := rfl
@[simp] theorem neg_z (a : Vec3 α) : (-a).z = -a.z := rfl
@[simp] theorem scale_x (a : Vec3 α) (k : α) : (a.scale k).x = a.x * k := rfl
@[simp] theorem scale_y (a : Vec3 α) (k : α) : (a.scale k).y = a.y * k := rfl
@[simp] theorem scale_z (a : Vec3 α) (k : α) : (a.scale k).z = a.z * k := rfl

end Components

/-! ## Scaling -/

theorem scale_scale (v : Vec3 ℝ) (a b : ℝ) : (v.scale a).scale b = v.scale (a * b) := by
  ext <;> simp <;> ring

theorem scale_one (v : Vec3 ℝ) : v.scale 1 = v := by
  ext <;> simp

theorem scale_zero (v : Vec3 ℝ) : v.scale 0 = 0 := by
  ext <;> simp

theorem scale_sub (v : Vec3 ℝ) (a b : ℝ) : v.scale a - v.scale b = v.scale (a - b) := by
  ext <;> simp <;> ring

theorem unscale_eq_scale (v : Vec3 ℝ) (k : ℝ) : v.unscale k = v.scale k⁻¹ := by
  ext <;> simp [unscale, div_eq_mul_inv]

/-! ## Length -/

theorem normSq_nonneg (v : Vec3 ℝ) : 0 ≤ v.normSq :=
  add_nonneg (add_nonneg (mul_self_nonneg v.x) (mul_self_nonneg v.y)) (mul_self_nonneg v.z)

theorem norm_nonneg (v : Vec3 ℝ) : 0 ≤ v.norm :=
  Real.sqrt_nonneg _

theorem normSq_eq_zero_iff (v : Vec3 ℝ) : v.normSq = 0 ↔ v = 0 := by
  constructor
  · intro vanishes
    have squares : v.x * v.x + v.y * v.y + v.z * v.z = 0 := vanishes
    have x : v.x = 0 := by nlinarith [mul_self_nonneg v.x, mul_self_nonneg v.y, mul_self_nonneg v.z]
    have y : v.y = 0 := by nlinarith [mul_self_nonneg v.x, mul_self_nonneg v.y, mul_self_nonneg v.z]
    have z : v.z = 0 := by nlinarith [mul_self_nonneg v.x, mul_self_nonneg v.y, mul_self_nonneg v.z]
    exact Vec3.ext x y z
  · rintro rfl
    simp [normSq]

theorem norm_eq_zero_iff (v : Vec3 ℝ) : v.norm = 0 ↔ v = 0 := by
  rw [← normSq_eq_zero_iff]
  exact Real.sqrt_eq_zero v.normSq_nonneg

theorem norm_pos_iff (v : Vec3 ℝ) : 0 < v.norm ↔ v ≠ 0 := by
  rw [v.norm_nonneg.lt_iff_ne', ne_eq, norm_eq_zero_iff]

theorem normSq_scale (v : Vec3 ℝ) (k : ℝ) : (v.scale k).normSq = v.normSq * (k * k) := by
  simp [normSq]
  ring

theorem norm_scale (v : Vec3 ℝ) (k : ℝ) : (v.scale k).norm = v.norm * |k| := by
  change Real.sqrt (v.scale k).normSq = Real.sqrt v.normSq * |k|
  rw [normSq_scale, Real.sqrt_mul v.normSq_nonneg, Real.sqrt_mul_self_eq_abs]

theorem norm_opposite (v : Vec3 ℝ) : (v.scale (-1)).norm = v.norm := by
  rw [norm_scale, abs_neg, abs_one, mul_one]

theorem norm_unit_scale {direction : Vec3 ℝ} (unit : direction.norm = 1) {length : ℝ}
    (nonneg : 0 ≤ length) : (direction.scale length).norm = length := by
  rw [norm_scale, unit, one_mul, abs_of_nonneg nonneg]

theorem normSq_of_unit {direction : Vec3 ℝ} (unit : direction.norm = 1) :
    direction.normSq = 1 := by
  have square : Real.sqrt direction.normSq = 1 := unit
  rwa [Real.sqrt_eq_one] at square

theorem norm_threeFour : ((⟨3, 4, 0⟩ : Vec3 ℝ) - 0).norm = 5 := by
  have square : ((⟨3, 4, 0⟩ : Vec3 ℝ) - 0).normSq = 5 * 5 := by
    norm_num [normSq]
  exact (congrArg Real.sqrt square).trans (Real.sqrt_mul_self (by norm_num))

/-! ## Direction and length -/

theorem norm_unscale_norm {v : Vec3 ℝ} (nonzero : v ≠ 0) : (v.unscale v.norm).norm = 1 := by
  have positive := v.norm_pos_iff.mpr nonzero
  rw [unscale_eq_scale, norm_scale, abs_of_pos (inv_pos.mpr positive)]
  exact mul_inv_cancel₀ positive.ne'

theorem unscale_norm_scale_norm {v : Vec3 ℝ} (nonzero : v ≠ 0) :
    (v.unscale v.norm).scale v.norm = v := by
  have positive := v.norm_pos_iff.mpr nonzero
  rw [unscale_eq_scale, scale_scale, inv_mul_cancel₀ positive.ne', scale_one]

theorem scale_eq_zero_iff {direction : Vec3 ℝ} (unit : direction.norm = 1) (length : ℝ) :
    direction.scale length = 0 ↔ length = 0 := by
  rw [← norm_eq_zero_iff, norm_scale, unit, one_mul, abs_eq_zero]

theorem unscale_norm_of_scale {direction : Vec3 ℝ} (unit : direction.norm = 1)
    {length : ℝ} (nonneg : 0 ≤ length) (nonzero : direction.scale length ≠ 0) :
    (direction.scale length).unscale (direction.scale length).norm = direction := by
  have positive : length ≠ 0 := by
    rintro rfl
    exact nonzero (scale_zero direction)
  rw [norm_unit_scale unit nonneg, unscale_eq_scale, scale_scale, mul_inv_cancel₀ positive,
    scale_one]

/-- Every vector is its length times a unit direction. -/
theorem exists_direction (v : Vec3 ℝ) :
    ∃ direction : Vec3 ℝ, direction.norm = 1 ∧ v = direction.scale v.norm := by
  by_cases zero : v = 0
  · refine ⟨⟨1, 0, 0⟩, by simp [norm, normSq], ?_⟩
    rw [(norm_eq_zero_iff v).mpr zero, scale_zero, zero]
  · exact ⟨v.unscale v.norm, norm_unscale_norm zero, (unscale_norm_scale_norm zero).symm⟩

theorem direction?_of_ne_zero {v : Vec3 ℝ} (nonzero : v ≠ 0) :
    v.direction? = some (v.unscale v.norm, v.norm) := by
  have positive : 0 < v.normSq :=
    v.normSq_nonneg.lt_of_ne' (mt (normSq_eq_zero_iff v).mp nonzero)
  exact if_pos positive

theorem direction?_zero : (0 : Vec3 ℝ).direction? = none := by
  simp [direction?, normSq]

theorem maxMagnitude_eq (v : Vec3 ℝ) : v.maxMagnitude = max (max |v.x| |v.y|) |v.z| := by
  simp [maxMagnitude]

theorem maxMagnitude_nonneg (v : Vec3 ℝ) : 0 ≤ v.maxMagnitude := by
  rw [maxMagnitude_eq]
  exact le_max_of_le_right (abs_nonneg v.z)

theorem maxMagnitude_eq_zero_iff (v : Vec3 ℝ) : v.maxMagnitude = 0 ↔ v = 0 := by
  constructor
  · intro vanishes
    rw [maxMagnitude_eq] at vanishes
    have x : |v.x| ≤ 0 := vanishes ▸ (le_max_left _ _).trans (le_max_left _ _)
    have y : |v.y| ≤ 0 := vanishes ▸ (le_max_right _ _).trans (le_max_left _ _)
    have z : |v.z| ≤ 0 := vanishes ▸ le_max_right _ _
    exact Vec3.ext (abs_nonpos_iff.mp x) (abs_nonpos_iff.mp y) (abs_nonpos_iff.mp z)
  · rintro rfl
    simp [maxMagnitude_eq]

/-- Scaling by the largest component first changes neither the direction nor
the length that are found. -/
theorem directionDistance_of_ne_zero {v : Vec3 ℝ} (nonzero : v ≠ 0) :
    v.directionDistance = (v.unscale v.norm, v.norm) := by
  have size : 0 < v.maxMagnitude :=
    v.maxMagnitude_nonneg.lt_of_ne' (mt (maxMagnitude_eq_zero_iff v).mp nonzero)
  have scaled : v.unscale v.maxMagnitude ≠ 0 := by
    intro vanishes
    rw [← norm_eq_zero_iff, unscale_eq_scale, norm_scale, mul_eq_zero, norm_eq_zero_iff] at vanishes
    rcases vanishes with zero | inverse
    · exact nonzero zero
    · exact (abs_pos.mpr (inv_ne_zero size.ne')).ne' inverse
  have length : (v.unscale v.maxMagnitude).norm = v.norm * v.maxMagnitude⁻¹ := by
    rw [unscale_eq_scale, norm_scale, abs_of_pos (inv_pos.mpr size)]
  have back : v.norm * v.maxMagnitude⁻¹ * v.maxMagnitude = v.norm := by
    field_simp
  have direction : (v.unscale v.maxMagnitude).unscale (v.norm * v.maxMagnitude⁻¹) =
      v.unscale v.norm := by
    rw [unscale_eq_scale, unscale_eq_scale, scale_scale, unscale_eq_scale]
    congr 1
    field_simp
  simp only [directionDistance, Scalar.isFinite_real, Bool.not_true, Bool.false_or,
    decide_eq_true_eq, not_le.mpr size, if_false, direction?_of_ne_zero scaled, length, back,
    direction]

theorem directionDistance_zero : (0 : Vec3 ℝ).directionDistance = (0, 0) := by
  simp [directionDistance, maxMagnitude_eq]

theorem directionDistance_scale {direction : Vec3 ℝ} (unit : direction.norm = 1)
    {distance : ℝ} (positive : 0 < distance) :
    (direction.scale distance).directionDistance = (direction, distance) := by
  have length : (direction.scale distance).norm = distance :=
    norm_unit_scale unit positive.le
  have nonzero : direction.scale distance ≠ 0 := by
    rw [← norm_pos_iff, length]
    exact positive
  rw [directionDistance_of_ne_zero nonzero, length, unscale_eq_scale, scale_scale,
    mul_inv_cancel₀ positive.ne', scale_one]

end Vec3
end MotionControl
