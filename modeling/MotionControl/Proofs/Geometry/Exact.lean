import MotionControl.Proofs.Geometry.Finite
import MotionControl.Proofs.Geometry.Rotation
import MotionControl.Proofs.Scalar.Exact

/-!
# Real geometry among the exact numbers

`toExact` embeds real vectors, rotations and poses.  It commutes with every
geometric operation of the control law, so a computation on finite values is a
computation on reals.  Division is the one operation with a side condition: the
law divides only by lengths that are not zero.
-/

namespace MotionControl

/-! ## Vectors -/

namespace Vec3

/-- A real vector as an exact one. -/
def toExact (v : Vec3 ℝ) : Vec3 Exact :=
  ⟨.real v.x, .real v.y, .real v.z⟩

theorem exists_toExact {v : Vec3 Exact}
    (finite : ∀ component ∈ v.toList, Scalar.isFinite component = true) :
    ∃ p : Vec3 ℝ, v = p.toExact := by
  rw [forall_iff] at finite
  rcases finite with ⟨x, y, z⟩
  rcases Exact.exists_real x with ⟨x, xEq⟩
  rcases Exact.exists_real y with ⟨y, yEq⟩
  rcases Exact.exists_real z with ⟨z, zEq⟩
  exact ⟨⟨x, y, z⟩, Vec3.ext xEq yEq zEq⟩

@[simp] theorem toExact_add (a b : Vec3 ℝ) : a.toExact + b.toExact = (a + b).toExact := rfl

@[simp] theorem toExact_sub (a b : Vec3 ℝ) : a.toExact - b.toExact = (a - b).toExact := by
  ext <;> simp [toExact]

@[simp] theorem toExact_neg (a : Vec3 ℝ) : -a.toExact = (-a).toExact := rfl

@[simp] theorem toExact_scale (v : Vec3 ℝ) (k : ℝ) :
    v.toExact.scale (.real k) = (v.scale k).toExact := rfl

theorem toExact_unscale (v : Vec3 ℝ) {k : ℝ} (nonzero : k ≠ 0) :
    v.toExact.unscale (.real k) = (v.unscale k).toExact := by
  simp [unscale, toExact, Exact.real_div _ nonzero]

@[simp] theorem toExact_normSq (v : Vec3 ℝ) : v.toExact.normSq = .real v.normSq := rfl

@[simp] theorem toExact_norm (v : Vec3 ℝ) : v.toExact.norm = .real v.norm :=
  Exact.sqrt_real v.normSq_nonneg

@[simp] theorem toExact_maxMagnitude (v : Vec3 ℝ) :
    v.toExact.maxMagnitude = .real v.maxMagnitude := by
  simp [maxMagnitude, toExact]

theorem toExact_direction? (v : Vec3 ℝ) :
    v.toExact.direction? = v.direction?.map fun found => (found.1.toExact, .real found.2) := by
  have positive : (0 : Exact) < v.toExact.normSq ↔ 0 < v.normSq := Exact.real_lt
  by_cases square : 0 < v.normSq
  · have length : v.norm ≠ 0 := (Real.sqrt_pos.mpr square).ne'
    simp only [direction?, positive, square, if_true, toExact_norm, toExact_unscale _ length,
      Option.map_some]
  · simp only [direction?, positive, square, if_false, Option.map_none]

theorem toExact_directionDistance (v : Vec3 ℝ) :
    v.toExact.directionDistance =
      (v.directionDistance.1.toExact, .real v.directionDistance.2) := by
  have size : Exact.real v.maxMagnitude ≤ (0 : Exact) ↔ v.maxMagnitude ≤ 0 := Exact.real_le
  by_cases zero : v.maxMagnitude ≤ 0
  · simp only [directionDistance, toExact_maxMagnitude, size, zero, decide_true, Bool.or_true,
      if_true]
    rfl
  · have nonzero : v.maxMagnitude ≠ 0 := fun vanishes => zero vanishes.le
    simp only [directionDistance, toExact_maxMagnitude, size, zero, decide_false, Bool.or_false,
      Exact.isFinite_real, Scalar.isFinite_real, Bool.not_true, Bool.false_eq_true, if_false,
      toExact_unscale _ nonzero, toExact_direction?]
    cases (v.unscale v.maxMagnitude).direction? with
    | none => rfl
    | some found => rfl

end Vec3

/-! ## Rotations -/

namespace Quat

/-- A real quaternion as an exact one. -/
def toExact (q : Quat ℝ) : Quat Exact :=
  ⟨.real q.x, .real q.y, .real q.z, .real q.w⟩

theorem toExact_injective : Function.Injective toExact := by
  intro a b same
  simpa [toExact, Quat.ext_iff] using same

theorem exists_toExact {q : Quat Exact}
    (finite : ∀ component ∈ q.toList, Scalar.isFinite component = true) :
    ∃ o : Quat ℝ, q = o.toExact := by
  rw [forall_iff] at finite
  rcases finite with ⟨x, y, z, w⟩
  rcases Exact.exists_real x with ⟨x, xEq⟩
  rcases Exact.exists_real y with ⟨y, yEq⟩
  rcases Exact.exists_real z with ⟨z, zEq⟩
  rcases Exact.exists_real w with ⟨w, wEq⟩
  exact ⟨⟨x, y, z, w⟩, Quat.ext xEq yEq zEq wEq⟩

@[simp] theorem toExact_mul (a b : Quat ℝ) : a.toExact * b.toExact = (a * b).toExact := by
  ext <;> simp [toExact]

@[simp] theorem toExact_conjugate (q : Quat ℝ) :
    q.toExact.conjugate = q.conjugate.toExact := rfl

@[simp] theorem toExact_vector (q : Quat ℝ) : q.toExact.vector = q.vector.toExact := rfl

theorem toExact_axis? (q : Quat ℝ) : q.toExact.axis? = q.axis?.map Vec3.toExact := by
  have negative : q.toExact.w < (0 : Exact) ↔ q.w < 0 := Exact.real_lt
  have vector : (if q.toExact.w < (0 : Exact) then -q.toExact.vector else q.toExact.vector) =
      (if q.w < 0 then -q.vector else q.vector).toExact := by
    simp only [negative, toExact_vector, Vec3.toExact_neg]
    split_ifs <;> rfl
  simp only [axis?, vector, Vec3.toExact_direction?, Option.map_map]
  rfl

@[simp] theorem toExact_angle (q : Quat ℝ) : q.toExact.angle = .real q.angle := by
  simp only [angle, toExact_vector, Vec3.toExact_norm]
  rfl

theorem toExact_rotationVector (q : Quat ℝ) :
    q.toExact.rotationVector = q.rotationVector.toExact := by
  simp only [rotationVector, toExact_axis?, toExact_angle]
  cases q.axis? with
  | none => rfl
  | some axis => rfl

theorem toExact_axisAngle (q : Quat ℝ) :
    q.toExact.axisAngle = (q.axisAngle.1.toExact, .real q.axisAngle.2) := by
  simp only [axisAngle, toExact_axis?, toExact_angle, Exact.isFinite_real, Scalar.isFinite_real,
    if_true]
  cases q.axis? with
  | none => rfl
  | some axis => rfl

theorem toExact_ofRotationVector (v : Vec3 ℝ) :
    ofRotationVector v.toExact = (ofRotationVector v).toExact := by
  have half : v.toExact.unscale ((2 : ℕ) : Exact) = (v.unscale ((2 : ℕ) : ℝ)).toExact :=
    Vec3.toExact_unscale v (by norm_num)
  have still : Exact.real (v.unscale ((2 : ℕ) : ℝ)).normSq ≤
        (Scalar.epsilon : Exact) * Scalar.epsilon ↔
      (v.unscale ((2 : ℕ) : ℝ)).normSq ≤ (Scalar.epsilon : ℝ) * Scalar.epsilon := Exact.real_le
  by_cases short : (v.unscale ((2 : ℕ) : ℝ)).normSq ≤ (Scalar.epsilon : ℝ) * Scalar.epsilon
  · simp only [ofRotationVector, half, Vec3.toExact_normSq, still, short, if_true]
    rfl
  · have nonneg := (v.unscale ((2 : ℕ) : ℝ)).normSq_nonneg
    have length : Real.sqrt (v.unscale ((2 : ℕ) : ℝ)).normSq ≠ 0 := by
      simp only [Scalar.epsilon_real, mul_zero, not_le] at short
      exact (Real.sqrt_pos.mpr short).ne'
    simp only [ofRotationVector, half, Vec3.toExact_normSq, still, short, if_false,
      Exact.sqrt_real nonneg, Exact.sin_real, Exact.cos_real]
    rw [Exact.real_div _ length]
    rfl

end Quat

/-! ## Poses and spatial vectors -/

/-- A real spatial vector as an exact one. -/
def SpatialVector.toExact (v : SpatialVector ℝ) : SpatialVector Exact :=
  ⟨v.linear.toExact, v.angular.toExact⟩

/-- A real pose as an exact one. -/
def Pose.toExact (pose : Pose ℝ) : Pose Exact :=
  ⟨pose.position.toExact, pose.rotation.toExact⟩

@[simp] theorem SpatialVector.toExact_scale (v : SpatialVector ℝ) (k : ℝ) :
    v.toExact.scale (.real k) = (v.scale k).toExact := rfl

theorem Pose.toExact_injective : Function.Injective Pose.toExact := by
  intro a b same
  simpa [toExact, Vec3.toExact, Quat.toExact, Pose.ext_iff, Vec3.ext_iff, Quat.ext_iff] using same

theorem SpatialVector.toExact_injective : Function.Injective SpatialVector.toExact := by
  intro a b same
  simpa [toExact, Vec3.toExact, SpatialVector.ext_iff, Vec3.ext_iff] using same

theorem Pose.toExact_displace (pose : Pose ℝ) (error : SpatialVector ℝ) :
    pose.toExact.displace error.toExact = (pose.displace error).toExact := by
  simp only [displace, toExact, SpatialVector.toExact, Vec3.toExact_add,
    Quat.toExact_ofRotationVector, Quat.toExact_mul]

end MotionControl
