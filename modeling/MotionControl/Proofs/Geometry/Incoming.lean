import MotionControl.Proofs.Geometry.Bounded

/-!
# Rotations made of incoming numbers

Rotations enter in two ways.  An orientation is scaled by its largest component before
it is normalised, so its size does not matter.  The increments of a twist are turned
into sines and cosines, whose products have nearly the length that the three circles
give them.  Both ways lead to a rotation that is tame, whatever the finite numbers were.
-/

namespace MotionControl

open Rounded

variable {α : Type} [Scalar α] [Rounded α]

/-! ## Largest components -/

theorem largerMagnitude_value {a b : α} (left : Scalar.isFinite a = true)
    (right : Scalar.isFinite b = true) :
    Scalar.isFinite (Scalar.largerMagnitude a b) = true ∧
      value (Scalar.largerMagnitude a b) = max (value a) |value b| := by
  have size := Rounded.abs b
  have finite := size.1.trans right
  rw [Scalar.largerMagnitude]
  by_cases smaller : Scalar.abs b ≤ a
  · rw [if_pos smaller]
    rw [Rounded.le_iff _ _ finite left, size.2] at smaller
    exact ⟨left, (max_eq_left smaller).symm⟩
  · rw [if_neg smaller]
    rw [Rounded.le_iff _ _ finite left, size.2, not_le] at smaller
    exact ⟨finite, by rw [size.2, max_eq_right smaller.le]⟩

namespace Quat

variable {q : Quat α}

theorem maxMagnitude_value (finite : ∀ c ∈ q.toList, Scalar.isFinite c = true) :
    Scalar.isFinite q.maxMagnitude = true ∧ (∀ c ∈ q.toList, |value c| ≤ value q.maxMagnitude) ∧
      ∃ c ∈ q.toList, |value c| = value q.maxMagnitude := by
  rw [forall_iff] at finite
  rcases finite with ⟨x, y, z, w⟩
  have first := Rounded.abs q.x
  have second := largerMagnitude_value (first.1.trans x) y
  have third := largerMagnitude_value second.1 z
  have fourth := largerMagnitude_value third.1 w
  have size : value q.maxMagnitude =
      max (max (max |value q.x| |value q.y|) |value q.z|) |value q.w| := by
    rw [← first.2, ← second.2, ← third.2, ← fourth.2]
    rfl
  refine ⟨fourth.1, ?_, ?_⟩
  · rw [forall_iff, size]
    simp only [le_max_iff, le_refl, true_or, or_true, and_self]
  · rw [size]
    rcases max_choice (max (max |value q.x| |value q.y|) |value q.z|) |value q.w| with inner | last
    · rw [inner]
      rcases max_choice (max |value q.x| |value q.y|) |value q.z| with inner | last
      · rw [inner]
        rcases max_choice |value q.x| |value q.y| with only | last
        · exact ⟨q.x, by simp [toList], only.symm⟩
        · exact ⟨q.y, by simp [toList], last.symm⟩
      · exact ⟨q.z, by simp [toList], last.symm⟩
    · exact ⟨q.w, by simp [toList], last.symm⟩

/-! ## Orientations -/

/-- Whatever passes the gate for orientations is tame, of any size. -/
theorem ofComponents?_isTame {r : Quat α} (made : q.ofComponents? = some r) : r.IsTame := by
  rw [ofComponents?] at made
  by_cases usable : q.isFinite = true
  · have finite := (isFinite_iff q).mp usable
    rcases maxMagnitude_value finite with ⟨sizeFinite, below, c, member, attained⟩
    by_cases none : q.maxMagnitude ≤ 0
    · simp [usable, none] at made
    · by_cases short : (q.unscale q.maxMagnitude).norm * q.maxMagnitude < minNorm
      · simp [usable, none, short] at made
      · simp [usable, none, short] at made
        rw [Rounded.le_iff _ _ sizeFinite Rounded.zero.1, Rounded.zero.2, not_le] at none
        have part {e : α} (inside : e ∈ q.toList) : Within 0 (e / q.maxMagnitude) := by
          refine within_of_approximates (Rounded.div _ _ (finite e inside) sizeFinite none.ne')
            (by norm_num) (by norm_num) ?_
          rw [abs_div, abs_of_pos none, zpow_zero]
          exact (div_le_one none).mpr (below e inside)
        have quotient := (Rounded.div _ _ (finite c member) sizeFinite none.ne').isNearest
          (part member).isFinite
        have large : 2 ^ (-7 : ℤ) ≤ |value (c / q.maxMagnitude)| := by
          refine quotient.le_magnitude (.zpow (by norm_num)) ?_
          rw [abs_div, attained, abs_of_pos none, div_self none.ne']
          norm_num
        have parts : ∀ e ∈ q.toList, Within 5 (e / q.maxMagnitude) := fun e inside =>
          (part inside).mono (by norm_num)
        rw [← made]
        have inside : c / q.maxMagnitude ∈ (q.unscale q.maxMagnitude).toList :=
          @List.mem_map_of_mem _ _ _ _ (fun e => e / q.maxMagnitude) member
        refine renormalize_isTame ?_ ⟨_, inside, large⟩
        rw [forall_iff] at parts ⊢
        exact parts
  · simp [usable] at made

/-! ## Roll, pitch and yaw -/

/-- Sine and cosine of one angle, up to rounding. -/
structure IsPoint (s c : α) : Prop where
  sin : Within 0 s
  cos : Within 0 c
  half_le : 1 / 2 ≤ value s ^ 2 + value c ^ 2

theorem isPoint_of_isFinite (sound : SoundTrigonometry α) {a : α}
    (finite : Scalar.isFinite a = true) : IsPoint (Scalar.sin a) (Scalar.cos a) :=
  ⟨sound.sin_within a finite, sound.cos_within a finite, sound.half_le a finite⟩

theorem isFinite_half {a : α} (finite : Scalar.isFinite a = true) :
    Scalar.isFinite (a / ((2 : ℕ) : α)) = true := by
  have two := @Rounded.natCast α _ _ 2 (by norm_num)
  have within : Within 1024 a := ⟨finite, Rounded.abs_value_le a⟩
  exact (within.div (k := 1) (n := 1023) two.1 (by rw [two.2]; norm_num) (by norm_num)
    (by norm_num) (by norm_num)).isFinite

/-- The product of three numbers of at most one is nearly exact. -/
theorem triple_near {a b c : α} (first : Within 0 a) (second : Within 0 b) (third : Within 0 c) :
    Near (value a * value b * value c) (2 ^ (-52 : ℤ)) (a * b * c) ∧
      |value a * value b * value c| ≤ 1 ∧ Within 0 (a * b * c) := by
  have one := third.le
  have pair : |value a * value b| ≤ 1 := by
    have left := first.le
    have right := second.le
    rw [zpow_zero] at left right
    rw [abs_mul]
    exact mul_le_one₀ left (abs_nonneg _) right
  rw [zpow_zero] at one
  have size : |value a * value b * value c| ≤ 1 := by
    rw [abs_mul]
    exact mul_le_one₀ pair (abs_nonneg _) one
  have product := near_of_approximates (Rounded.mul _ _ first.isFinite second.isFinite)
    (by norm_num : (-1021 : ℤ) ≤ 0) (by norm_num) (pair.trans_eq (zpow_zero _).symm)
  have room : |value a * value b * value c| + 2 ^ (0 - 54 : ℤ) * |value c| ≤ 2 ^ (1 : ℤ) := by
    norm_num at size one ⊢
    linarith
  refine ⟨(product.mul third.isFinite room (by norm_num) (by norm_num)).mono ?_, size, ?_⟩
  · norm_num at one ⊢
    linarith
  · have inner : Within 0 (a * b) := first.mul second (by norm_num) (by norm_num) (by norm_num)
    exact inner.mul third (by norm_num) (by norm_num) (by norm_num)

/-- A component of the quaternion, which is the sum or the difference of two such products. -/
structure IsComponent (x : ℝ) (a : α) : Prop where
  near : Near x (2 ^ (-50 : ℤ)) a
  within : Within 1 a

theorem isComponent_add {a b c d e f : α} (first : Within 0 a) (second : Within 0 b)
    (third : Within 0 c) (fourth : Within 0 d) (fifth : Within 0 e) (sixth : Within 0 f) :
    IsComponent (value a * value b * value c + value d * value e * value f)
      (a * b * c + d * e * f) := by
  rcases triple_near first second third with ⟨left, small, inside⟩
  rcases triple_near fourth fifth sixth with ⟨right, small', inside'⟩
  have sum := abs_add_le (value a * value b * value c) (value d * value e * value f)
  refine ⟨(left.add right (n := 2) ?_ (by norm_num) (by norm_num)).mono (by norm_num),
    inside.add inside' (by norm_num) (by norm_num) (by norm_num)⟩
  norm_num
  linarith

theorem isComponent_sub {a b c d e f : α} (first : Within 0 a) (second : Within 0 b)
    (third : Within 0 c) (fourth : Within 0 d) (fifth : Within 0 e) (sixth : Within 0 f) :
    IsComponent (value a * value b * value c - value d * value e * value f)
      (a * b * c - d * e * f) := by
  rcases triple_near first second third with ⟨left, small, inside⟩
  rcases triple_near fourth fifth sixth with ⟨right, small', inside'⟩
  have sum := abs_sub (value a * value b * value c) (value d * value e * value f)
  refine ⟨(left.sub right (n := 2) ?_ (by norm_num) (by norm_num)).mono (by norm_num),
    inside.sub inside' (by norm_num) (by norm_num) (by norm_num)⟩
  norm_num
  linarith

/-- Without rounding, the length would be the product of the three radii. -/
theorem normSq_of_points (sr cr sp cp sy cy : ℝ) :
    (⟨sr * cp * cy - cr * sp * sy, cr * sp * cy + sr * cp * sy, cr * cp * sy - sr * sp * cy,
      cr * cp * cy + sr * sp * sy⟩ : Quat ℝ).normSq =
        (sr ^ 2 + cr ^ 2) * (sp ^ 2 + cp ^ 2) * (sy ^ 2 + cy ^ 2) := by
  simp only [normSq]
  ring

/-- A quaternion whose components are nearly those of a longer one is not short. -/
theorem large_of_near {x y z w : ℝ} (long : 1 / 8 ≤ (⟨x, y, z, w⟩ : Quat ℝ).normSq)
    (first : IsComponent x q.x) (second : IsComponent y q.y) (third : IsComponent z q.z)
    (fourth : IsComponent w q.w) : 1 / 64 ≤ q.real.normSq := by
  by_contra short
  rw [not_le] at short
  have part {e : ℝ} {a : α} (component : IsComponent e a) (member : a ∈ q.toList) :
      e ^ 2 ≤ (1 / 7) ^ 2 := by
    have small : |value a| < 1 / 8 := by
      by_contra large
      have square := le_real_normSq member (by norm_num) (not_lt.mp large)
      norm_num at square short
      linarith
    have close := component.near.le_abs
    norm_num at close small
    rw [← sq_abs e]
    exact pow_le_pow_left₀ (abs_nonneg e) (by linarith) 2
  have xx := part first (by simp [toList])
  have yy := part second (by simp [toList])
  have zz := part third (by simp [toList])
  have ww := part fourth (by simp [toList])
  have sum : (⟨x, y, z, w⟩ : Quat ℝ).normSq = (x ^ 2 + z ^ 2) + (y ^ 2 + w ^ 2) := by
    simp only [normSq, pow_two]
  linarith

theorem ofRollPitchYaw_isWide (sound : SoundTrigonometry α) {roll pitch yaw : α}
    (rolls : Scalar.isFinite roll = true) (pitches : Scalar.isFinite pitch = true)
    (yaws : Scalar.isFinite yaw = true) :
    (∀ c ∈ (ofRollPitchYaw roll pitch yaw).toList, Within 1 c) ∧
      1 / 64 ≤ (ofRollPitchYaw roll pitch yaw).real.normSq := by
  rcases isPoint_of_isFinite sound (isFinite_half rolls) with ⟨sr, cr, r⟩
  rcases isPoint_of_isFinite sound (isFinite_half pitches) with ⟨sp, cp, p⟩
  rcases isPoint_of_isFinite sound (isFinite_half yaws) with ⟨sy, cy, y⟩
  have first := isComponent_sub sr cp cy cr sp sy
  have second := isComponent_add cr sp cy sr cp sy
  have third := isComponent_sub cr cp sy sr sp cy
  have fourth := isComponent_add cr cp cy sr sp sy
  constructor
  · rw [forall_iff]
    exact ⟨first.within, second.within, third.within, fourth.within⟩
  · refine large_of_near ?_ first second third fourth
    rw [normSq_of_points]
    have pair := mul_le_mul r p (by norm_num) (le_trans (by norm_num) r)
    have all := mul_le_mul pair y (by norm_num) (le_trans (by norm_num) pair)
    exact le_trans (by norm_num) all

/-- A tame rotation that is turned by finite angles stays tame. -/
theorem IsTame.turned (tame : q.IsTame) (sound : SoundTrigonometry α) {roll pitch yaw : α}
    (rolls : Scalar.isFinite roll = true) (pitches : Scalar.isFinite pitch = true)
    (yaws : Scalar.isFinite yaw = true) : (ofRollPitchYaw roll pitch yaw * q).renormalize.IsTame := by
  rcases ofRollPitchYaw_isWide sound rolls pitches yaws with ⟨within, large⟩
  exact renormalize_isTame (mul_within within tame.within)
    (mul_large within tame.within large tame.large)

end Quat

end MotionControl
