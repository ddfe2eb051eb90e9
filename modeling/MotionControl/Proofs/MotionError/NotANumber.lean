import MotionControl.Proofs.Double.Infinite
import MotionControl.Proofs.Geometry.Incoming
import MotionControl.Proofs.MotionError.Size
import MotionControl.Proofs.Reference.Finite

/-!
# Motion errors that are not numbers

Positions that are finite may lie so far apart that their distance overflows.  The
direction stays finite all the same, and a limit cuts the distance off before the two are
multiplied.  An infinite limit does not: the infinity reaches the product, and where the
direction has a zero the component is not a number.  No other pair of limits leads to one,
and neither does any rotation.
-/

namespace MotionControl

open Rounded
open Double (IsInfinite)

variable {t : Trigonometry}

/-- A number that is not negative, possibly the infinity. -/
def IsLength (a : Doubles t) : Prop :=
  (Scalar.isFinite a = true ∧ 0 ≤ value a) ∨ IsInfinite a

/-- The angular part consists of finite numbers.  In the linear part a component is not a
number exactly if nothing limits the distance, it overflows, and the direction has a zero. -/
structure ErrorLimits.IsGap (limits : ErrorLimits (Doubles t)) (target current : Pose (Doubles t)) :
    Prop where
  angular : ∀ component ∈ (motionError target current limits).angular.toList,
    Scalar.isFinite component = true
  linear : (∃ component ∈ (motionError target current limits).linear.toList,
      Scalar.isNaN component = true) ↔
    IsInfinite limits.maxDistance ∧
      IsInfinite (target.position - current.position).directionDistance.2 ∧
        ∃ component ∈ (target.position - current.position).directionDistance.1.toList,
          value component = 0

/-! ## Lengths -/

namespace IsLength

variable {a b : Doubles t}

theorem zero : IsLength (0 : Doubles t) :=
  .inl ⟨Rounded.zero.1, Rounded.zero.2.ge⟩

theorem not_isNaN (length : IsLength a) : Scalar.isNaN a = false := by
  rcases length with ⟨finite, -⟩ | infinite
  · exact Rounded.isNaN_eq a finite
  · exact Double.not_isNaN_of_isInfinite infinite

theorem abs (number : Scalar.isNaN a = false) : IsLength (Scalar.abs a) := by
  cases finite : Scalar.isFinite a with
  | true => exact .inl ⟨(Rounded.abs a).1.trans finite, (Rounded.abs a).2 ▸ abs_nonneg _⟩
  | false => exact .inr (Double.isInfinite_abs number finite)

theorem isFinite_of_not_le (left : IsLength a) (right : IsLength b) (above : ¬ a ≤ b) :
    Scalar.isFinite b = true := by
  rcases right with ⟨finite, -⟩ | infinite
  · exact finite
  · exact absurd ((Double.le_iff_of_isInfinite infinite).mpr left.not_isNaN) above

theorem isFinite_of_le (length : IsLength a) (finite : Scalar.isFinite b = true) (le : a ≤ b) :
    Scalar.isFinite a = true := by
  rcases length with ⟨below, -⟩ | infinite
  · exact below
  · exact absurd le (Double.not_le_of_isInfinite infinite finite)

theorem largerMagnitude (length : IsLength a) (number : Scalar.isNaN b = false) :
    IsLength (Scalar.largerMagnitude a b) := by
  rw [Scalar.largerMagnitude]
  by_cases smaller : Scalar.abs b ≤ a
  · rw [if_pos smaller]
    exact length
  · rw [if_neg smaller]
    exact .abs number

theorem isFinite_of_largerMagnitude (length : IsLength a) (number : Scalar.isNaN b = false)
    (finite : Scalar.isFinite (Scalar.largerMagnitude a b) = true) :
    Scalar.isFinite a = true ∧ Scalar.isFinite b = true := by
  have magnitude : IsLength (Scalar.abs b) := .abs number
  rw [← (Rounded.abs b).1]
  rw [Scalar.largerMagnitude] at finite
  by_cases smaller : Scalar.abs b ≤ a
  · rw [if_pos smaller] at finite
    exact ⟨finite, magnitude.isFinite_of_le finite smaller⟩
  · rw [if_neg smaller] at finite
    exact ⟨magnitude.isFinite_of_not_le length smaller, finite⟩

/-- A limit counts as the length it is, or as zero. -/
theorem greatest_zero (a : Doubles t) :
    IsLength (Scalar.greatest a 0) ∧
      (IsInfinite (Scalar.greatest a 0 : Doubles t) ↔ IsInfinite a) := by
  have number : Scalar.isNaN (0 : Doubles t) = false := Rounded.isNaN_eq _ Rounded.zero.1
  have bounded : ¬ IsInfinite (0 : Doubles t) := by
    intro infinite
    exact absurd (Rounded.zero (α := Doubles t)).1 (Bool.eq_false_iff.mp infinite.1)
  rw [Scalar.greatest, number, Bool.or_false]
  by_cases nonneg : (0 : Doubles t) ≤ a
  · rw [if_pos (decide_eq_true nonneg)]
    refine ⟨?_, Iff.rfl⟩
    cases finite : Scalar.isFinite a with
    | true =>
        rw [Rounded.le_iff _ _ Rounded.zero.1 finite, Rounded.zero.2] at nonneg
        exact .inl ⟨finite, nonneg⟩
    | false => exact .inr ⟨finite, nonneg⟩
  · rw [if_neg (by rwa [decide_eq_true_eq])]
    refine ⟨zero, iff_of_false bounded fun infinite => nonneg ?_⟩
    exact (Double.le_iff_of_isInfinite infinite).mpr number

theorem least (left : IsLength a) (right : IsLength b) :
    IsLength (Scalar.least a b) ∧
      (IsInfinite (Scalar.least a b : Doubles t) ↔ IsInfinite a ∧ IsInfinite b) := by
  rw [Scalar.least, right.not_isNaN, Bool.or_false]
  by_cases smaller : a ≤ b
  · rw [if_pos (decide_eq_true smaller)]
    refine ⟨left, fun infinite => ⟨infinite, ?_⟩, And.left⟩
    rcases right with ⟨finite, -⟩ | above
    · exact absurd smaller (Double.not_le_of_isInfinite infinite finite)
    · exact above
  · rw [if_neg (by rwa [decide_eq_true_eq])]
    have finite := left.isFinite_of_not_le right smaller
    have bounded : ¬ IsInfinite b := fun infinite =>
      absurd finite (Bool.eq_false_iff.mp infinite.1)
    exact ⟨right, iff_of_false bounded fun both => bounded both.2⟩

/-- A bounded number stays so, even if the limit is infinite. -/
theorem least_within {n : ℤ} (bounded : Within n a) (limit : IsLength b) :
    Within n (Scalar.least a b) := by
  rcases limit with ⟨finite, nonneg⟩ | infinite
  · exact MotionControl.least_within bounded finite nonneg
  · have number := Rounded.isNaN_eq a bounded.isFinite
    have smaller : a ≤ b := (Double.le_iff_of_isInfinite infinite).mpr number
    rw [Scalar.least, decide_eq_true smaller, Bool.true_or, if_pos rfl]
    exact bounded

/-- A finite number times a length. -/
theorem isNaN_mul_iff (finite : Scalar.isFinite b = true) (length : IsLength a) :
    Scalar.isNaN (b * a) = true ↔ IsInfinite a ∧ value b = 0 := by
  rcases length with ⟨bounded, -⟩ | infinite
  · have number : Scalar.isNaN (b * a) = false := Double.not_isNaN_mul finite bounded
    rw [number]
    refine iff_of_false Bool.false_ne_true fun both => ?_
    exact absurd bounded (Bool.eq_false_iff.mp both.1.1)
  · exact (Double.isNaN_mul_infinite finite infinite).trans (and_iff_right infinite).symm

end IsLength

/-! ## The linear part -/

namespace Vec3

variable {v : Vec3 (Doubles t)}

theorem isFinite_of_maxMagnitude (numbers : ∀ c ∈ v.toList, Scalar.isNaN c = false)
    (finite : Scalar.isFinite v.maxMagnitude = true) :
    ∀ c ∈ v.toList, Scalar.isFinite c = true := by
  rw [forall_iff] at numbers ⊢
  rcases numbers with ⟨x, y, z⟩
  have first : IsLength (Scalar.abs v.x) := .abs x
  rcases (first.largerMagnitude y).isFinite_of_largerMagnitude z finite with ⟨pair, last⟩
  rcases first.isFinite_of_largerMagnitude y pair with ⟨single, middle⟩
  exact ⟨(Rounded.abs v.x).1.symm.trans single, middle, last⟩

theorem abs_le_maxMagnitude (finite : ∀ c ∈ v.toList, Scalar.isFinite c = true) :
    ∀ c ∈ v.toList, |value c| ≤ value v.maxMagnitude := by
  rw [forall_iff] at finite ⊢
  rcases finite with ⟨x, y, z⟩
  have first := Rounded.abs v.x
  have second := largerMagnitude_value (first.1.trans x) y
  have third := largerMagnitude_value second.1 z
  have size : value v.maxMagnitude = max (max |value v.x| |value v.y|) |value v.z| := by
    rw [← first.2, ← second.2, ← third.2]
    rfl
  rw [size]
  exact ⟨le_max_of_le_left (le_max_left _ _), le_max_of_le_left (le_max_right _ _),
    le_max_right _ _⟩

/-- Scaled by its largest component, a vector is neither too large nor too small. -/
theorem unscale_maxMagnitude_within (finite : ∀ c ∈ v.toList, Scalar.isFinite c = true)
    (size : Scalar.isFinite v.maxMagnitude = true) (positive : 0 < value v.maxMagnitude) :
    ∀ c ∈ (v.unscale v.maxMagnitude).toList, Within 0 c := by
  have below := abs_le_maxMagnitude finite
  have part {c : Doubles t} (usable : Scalar.isFinite c = true)
      (small : |value c| ≤ value v.maxMagnitude) : Within 0 (c / v.maxMagnitude) := by
    refine within_of_approximates (Rounded.div _ _ usable size positive.ne') (by norm_num)
      (by norm_num) ?_
    rw [abs_div, abs_of_pos positive, zpow_zero]
    exact (div_le_one positive).mpr small
  rw [forall_iff] at finite below ⊢
  exact ⟨part finite.1 below.1, part finite.2.1 below.2.1, part finite.2.2 below.2.2⟩

/-- The direction of a difference is finite, and its distance a length. -/
theorem directionDistance_isLength (numbers : ∀ c ∈ v.toList, Scalar.isNaN c = false) :
    (∀ c ∈ v.directionDistance.1.toList, Scalar.isFinite c = true) ∧
      IsLength v.directionDistance.2 := by
  have none : (∀ c ∈ (0 : Vec3 (Doubles t)).toList, Scalar.isFinite c = true) ∧
      IsLength (0 : Doubles t) :=
    ⟨fun c member => (zero_within 0 c member).isFinite, .zero⟩
  rw [directionDistance]
  by_cases empty : (!Scalar.isFinite v.maxMagnitude || decide (v.maxMagnitude ≤ 0)) = true
  · rw [if_pos empty]
    exact none
  · rw [if_neg empty]
    rw [Bool.or_eq_true, not_or, Bool.not_eq_true', Bool.not_eq_false, decide_eq_true_eq] at empty
    rcases empty with ⟨size, positive⟩
    rw [Rounded.le_iff _ _ size Rounded.zero.1, Rounded.zero.2, not_le] at positive
    have scaled := unscale_maxMagnitude_within (isFinite_of_maxMagnitude numbers size) size positive
    have sum := normSq_within (n := 2) scaled (by norm_num) (by norm_num) (by norm_num)
    rw [direction?]
    by_cases long : 0 < (v.unscale v.maxMagnitude).normSq
    · rw [if_pos long]
      rw [Rounded.lt_iff _ _ Rounded.zero.1 sum.isFinite, Rounded.zero.2] at long
      refine ⟨fun c member => (unscale_norm_within sum.isFinite long c member).isFinite, ?_⟩
      have norm := isFinite_sqrt sum.isFinite long.le
      have nonneg := mul_nonneg (value_sqrt_nonneg norm) positive.le
      cases finite : Scalar.isFinite ((v.unscale v.maxMagnitude).norm * v.maxMagnitude) with
      | true =>
          have product := (Rounded.mul _ _ norm size).isNearest finite
          exact .inl ⟨finite, product.ge .zero nonneg⟩
      | false => exact .inr (Double.isInfinite_mul norm size nonneg finite)
    · rw [if_neg long]
      exact none

end Vec3

/-! ## The angular part -/

theorem Quat.axisAngle_within (sound : SoundTrigonometry (Doubles t)) {q : Quat (Doubles t)}
    (small : ∀ c ∈ q.toList, Within 5 c) :
    (∀ c ∈ q.axisAngle.1.toList, Within 1 c) ∧ Within 3 q.axisAngle.2 := by
  refine ⟨?_, (q.axisAngle_size sound).2⟩
  obtain ⟨v, short⟩ : ∃ v, v = if q.w < 0 then -q.vector else q.vector := ⟨_, rfl⟩
  have vector : ∀ c ∈ v.toList, Within 5 c := by
    rw [short]
    split
    · exact Vec3.neg_within (vector_within small)
    · exact vector_within small
  have sum := Vec3.normSq_within (n := 12) vector (by norm_num) (by norm_num) (by norm_num)
  rw [axisAngle, axis?, ← short, Vec3.direction?]
  by_cases positive : 0 < v.normSq
  · rw [if_pos positive]
    rw [Rounded.lt_iff _ _ Rounded.zero.1 sum.isFinite, Rounded.zero.2] at positive
    cases finite : Scalar.isFinite q.angle with
    | true =>
        exact Vec3.unscale_norm_within sum.isFinite positive
    | false => exact Vec3.zero_within 1
  · rw [if_neg positive]
    exact Vec3.zero_within 1

/-! ## The error -/

theorem Quat.conjugate_within {q : Quat (Doubles t)} {n : ℤ} (small : ∀ c ∈ q.toList, Within n c) :
    ∀ c ∈ q.conjugate.toList, Within n c := by
  rw [forall_iff] at small ⊢
  exact ⟨small.1.neg, small.2.1.neg, small.2.2.1.neg, small.2.2.2⟩

/-- A finite direction times a length. -/
theorem Vec3.exists_isNaN_scale_iff {v : Vec3 (Doubles t)} {k : Doubles t}
    (finite : ∀ c ∈ v.toList, Scalar.isFinite c = true) (length : IsLength k) :
    (∃ c ∈ (v.scale k).toList, Scalar.isNaN c = true) ↔
      IsInfinite k ∧ ∃ c ∈ v.toList, value c = 0 := by
  have scaled : (v.scale k).toList = v.toList.map (· * k) := rfl
  simp only [scaled, List.mem_map, exists_exists_and_eq_and]
  constructor
  · rintro ⟨c, member, undefined⟩
    rcases (length.isNaN_mul_iff (finite c member)).mp undefined with ⟨infinite, zero⟩
    exact ⟨infinite, c, member, zero⟩
  · rintro ⟨infinite, c, member, zero⟩
    exact ⟨c, member, (length.isNaN_mul_iff (finite c member)).mpr ⟨infinite, zero⟩⟩

theorem Vec3.not_isNaN_sub {a b : Vec3 (Doubles t)}
    (left : ∀ c ∈ a.toList, Scalar.isFinite c = true)
    (right : ∀ c ∈ b.toList, Scalar.isFinite c = true) :
    ∀ c ∈ (a - b).toList, Scalar.isNaN c = false := by
  rw [forall_iff] at left right ⊢
  exact ⟨Double.not_isNaN_sub left.1 right.1, Double.not_isNaN_sub left.2.1 right.2.1,
    Double.not_isNaN_sub left.2.2 right.2.2⟩

/-- With any library for sine, cosine and angle that is roughly right, and any two limits:
between poses with finite positions and normalised rotations, the error has a component
that is not a number in exactly one situation. -/
theorem motionError_isGap (sound : SoundTrigonometry (Doubles t))
    {target current : Pose (Doubles t)} (there : target.IsFinite) (here : current.IsFinite)
    (aimed : target.rotation.IsNormalised) (turned : current.rotation.IsNormalised)
    (limits : ErrorLimits (Doubles t)) : limits.IsGap target current := by
  have aim := (Quat.isTame_of_isNormalised there.2 aimed).within
  have turn := (Quat.isTame_of_isNormalised here.2 turned).within
  have product := Quat.mul_within aim (Quat.conjugate_within turn)
  rcases Quat.axisAngle_within sound product with ⟨axis, angle⟩
  rcases Vec3.directionDistance_isLength (Vec3.not_isNaN_sub there.1 here.1) with
    ⟨direction, distance⟩
  rcases IsLength.greatest_zero limits.maxDistance with ⟨ceiling, unlimited⟩
  rcases distance.least ceiling with ⟨reach, beyond⟩
  constructor
  · have bounded := IsLength.least_within angle (IsLength.greatest_zero limits.maxAngle).1
    intro component member
    exact (Vec3.scale_within (n := 4) axis bounded (by norm_num) (by norm_num) (by norm_num)
      component member).isFinite
  · have products := Vec3.exists_isNaN_scale_iff direction reach
    rw [beyond, unlimited, and_assoc, and_left_comm] at products
    exact products

/-- As far apart as no double can tell, in a plane of two axes. -/
def farApart : Pose (Doubles Controller.stillTrigonometry) :=
  ⟨⟨(1.7e308 : Float), (1.7e308 : Float), 0⟩, .identity⟩

theorem motionError_isGap_farApart :
    SoundTrigonometry (Doubles Controller.stillTrigonometry) ∧ farApart.IsFinite ∧
      (Pose.identity : Pose (Doubles Controller.stillTrigonometry)).IsFinite ∧
      (Quat.identity : Quat (Doubles Controller.stillTrigonometry)).IsNormalised ∧
      (∀ limits : ErrorLimits (Doubles Controller.stillTrigonometry),
        limits.IsGap farApart .identity) ∧
      (motionError farApart .identity (.standard : ErrorLimits _)).isFinite = true := by
  have far : farApart.IsFinite := ⟨by decide +kernel, by decide +kernel⟩
  have near : (Pose.identity : Pose (Doubles Controller.stillTrigonometry)).IsFinite :=
    ⟨by decide +kernel, by decide +kernel⟩
  have unit : (Quat.identity : Quat (Doubles Controller.stillTrigonometry)).IsNormalised :=
    Reference.identity_isNormalised
  exact ⟨Controller.stillTrigonometry_sound, far, near, unit,
    motionError_isGap Controller.stillTrigonometry_sound far near unit unit, by decide +kernel⟩

/-- On the machine, with an infinite limit for the distance. -/
theorem not_isNaN_fails_unlimited :
    let target : Pose (Doubles .machine) := ⟨⟨(1.7e308 : Float), (1.7e308 : Float), 0⟩, .identity⟩
    let current : Pose (Doubles .machine) := .identity
    let limits : ErrorLimits (Doubles .machine) := ⟨1, (1 / 0 : Float)⟩
    target.IsFinite ∧ current.IsFinite ∧ target.rotation.IsNormalised ∧
      current.rotation.IsNormalised ∧
        Scalar.isNaN (motionError target current limits).linear.z = true := by
  intro target current limits
  have far : target.IsFinite := ⟨by decide +kernel, by decide +kernel⟩
  have near : current.IsFinite := ⟨by decide +kernel, by decide +kernel⟩
  exact ⟨far, near, Reference.identity_isNormalised, Reference.identity_isNormalised,
    by decide +kernel⟩

end MotionControl
