import Mathlib.Data.Finset.Max
import MotionControl.Proofs.Geometry.Finite
import MotionControl.Proofs.Geometry.Rotation
import MotionControl.Proofs.Scalar.Bounds

/-!
# Vectors and rotations of rounded numbers

A rounded norm loses its relative accuracy when the squares underflow, but a vector
divided by its norm keeps components of at most two whatever happened.  For a
quaternion the other direction matters as well: `IsTame` keeps its length away from
zero, so that a product of two can be normalised again.
-/

namespace MotionControl

open Rounded

variable {α : Type} [Scalar α] [Rounded α] {j n : ℤ}

/-- Of some numbers that are not all zero, a largest one gives the scale of all. -/
theorem exists_scale {numbers : List α} (finite : ∀ c ∈ numbers, Scalar.isFinite c = true)
    (nonzero : ∃ c ∈ numbers, value c ≠ 0) :
    ∃ j : ℤ, (∀ c ∈ numbers, Within (j + 1) c) ∧ ∃ c ∈ numbers, 2 ^ j ≤ |value c| := by
  classical
  rcases nonzero with ⟨d, member, nonzero⟩
  obtain ⟨c, inside, largest⟩ := numbers.toFinset.exists_max_image (fun c => |value c|)
    ⟨d, List.mem_toFinset.mpr member⟩
  have positive : 0 < |value c| :=
    (abs_pos.mpr nonzero).trans_le (largest d (List.mem_toFinset.mpr member))
  obtain ⟨j, lower, upper⟩ := exists_mem_Ico_zpow positive (one_lt_two : (1 : ℝ) < 2)
  refine ⟨j, fun e entry => ⟨finite e entry, ?_⟩, c, List.mem_toFinset.mp inside, lower⟩
  exact (largest e (List.mem_toFinset.mpr entry)).trans upper.le

namespace Vec3

variable {v : Vec3 α}

theorem zero_within (n : ℤ) : ∀ c ∈ (0 : Vec3 α).toList, Within n c :=
  (forall_iff _ _).mpr ⟨.zero n, .zero n, .zero n⟩

theorem scale_within {k : α} {i : ℤ} (small : ∀ c ∈ v.toList, Within j c)
    (factor : Within i k) (fits : j + i ≤ n) (low : -1074 ≤ n) (high : n ≤ 1023) :
    ∀ c ∈ (v.scale k).toList, Within n c := by
  rw [forall_iff] at small ⊢
  exact ⟨small.1.mul factor fits low high, small.2.1.mul factor fits low high,
    small.2.2.mul factor fits low high⟩

theorem neg_within (small : ∀ c ∈ v.toList, Within j c) : ∀ c ∈ (-v).toList, Within j c := by
  rw [forall_iff] at small ⊢
  exact ⟨small.1.neg, small.2.1.neg, small.2.2.neg⟩

theorem normSq_within (small : ∀ c ∈ v.toList, Within j c) (fits : 2 * j + 2 ≤ n)
    (low : -537 ≤ j) (high : n ≤ 1023) : Within n v.normSq := by
  rw [forall_iff] at small
  rcases small with ⟨x, y, z⟩
  have square {c : α} (within : Within j c) : Within (2 * j) (c * c) :=
    within.mul within (by omega) (by omega) (by omega)
  have pair : Within (2 * j + 1) (v.x * v.x + v.y * v.y) :=
    (square x).add (square y) ⟨le_refl _, le_refl _⟩ (by omega) (by omega)
  exact pair.add (square z) (by omega) (by omega) high

/-- Each square is at most the sum of all. -/
theorem le_normSq (finite : Scalar.isFinite v.normSq = true) :
    ∀ c ∈ v.toList, Scalar.isFinite (c * c) = true ∧ value (c * c) ≤ value v.normSq := by
  have outer := Rounded.isFinite_of_add _ _ finite
  have inner := Rounded.isFinite_of_add _ _ outer.1
  have xx := value_mul_self_nonneg inner.1
  have yy := value_mul_self_nonneg inner.2
  have zz := value_mul_self_nonneg outer.2
  have x := le_value_add outer.1 yy
  have y := le_value_add' outer.1 xx
  have pair := le_value_add finite zz
  rw [forall_iff]
  exact ⟨⟨inner.1, x.trans pair⟩, ⟨inner.2, y.trans pair⟩, outer.2,
    le_value_add' finite (xx.trans x)⟩

theorem normSq_nonneg_of_isFinite (finite : Scalar.isFinite v.normSq = true) :
    0 ≤ value v.normSq := by
  have squares := le_normSq finite
  rw [forall_iff] at squares
  exact (value_mul_self_nonneg squares.1.1).trans squares.1.2

/-- Dividing by the norm leaves components of at most two. -/
theorem unscale_norm_within (finite : Scalar.isFinite v.normSq = true)
    (positive : 0 < value v.normSq) : ∀ c ∈ (v.unscale v.norm).toList, Within 1 c := by
  have squares := le_normSq finite
  have part {c : α} (square : Scalar.isFinite (c * c) = true ∧ value (c * c) ≤ value v.normSq) :
      Within 1 (c / v.norm) :=
    div_sqrt_within (Rounded.isFinite_of_mul _ _ square.1).1 square.1 finite positive square.2
  rw [forall_iff] at squares ⊢
  exact ⟨part squares.1, part squares.2.1, part squares.2.2⟩

/-- The norm of a vector that is neither very short nor very long has the size of its
largest component. -/
theorem exists_norm_scale (small : ∀ c ∈ v.toList, Within 509 c)
    (long : 2 ^ (-104 : ℤ) < value v.normSq) :
    ∃ j : ℤ, -61 ≤ j ∧ j ≤ 509 ∧ (∀ c ∈ v.toList, Within (j + 1) c) ∧
      (∃ c ∈ v.toList, 2 ^ j ≤ |value c|) ∧ Within (j + 2) v.norm ∧ 2 ^ j ≤ value v.norm := by
  -- components that are all tiny would make the sum of squares too small
  have notTiny : ¬ ∀ c ∈ v.toList, Within (-60) c := by
    intro tiny
    have sum := normSq_within (n := -118) tiny (by norm_num) (by norm_num) (by norm_num)
    have less : (2 : ℝ) ^ (-118 : ℤ) < 2 ^ (-104 : ℤ) :=
      zpow_lt_zpow_right₀ one_lt_two (by norm_num)
    exact absurd ((le_abs_self _).trans sum.le) (less.trans long).not_ge
  have finite : ∀ c ∈ v.toList, Scalar.isFinite c = true := fun c member => (small c member).isFinite
  have nonzero : ∃ c ∈ v.toList, value c ≠ 0 := by
    by_contra none
    push Not at none
    refine notTiny fun c member => ⟨finite c member, ?_⟩
    rw [none c member, abs_zero]
    positivity
  obtain ⟨j, upper, c, member, lower⟩ := exists_scale finite nonzero
  have above : -61 ≤ j := by
    by_contra below
    exact notTiny fun c member => (upper c member).mono (by omega)
  have below : j ≤ 509 := (zpow_le_zpow_iff_right₀ one_lt_two).mp (lower.trans (small c member).le)
  have sum := normSq_within upper (le_refl _) (by omega) (by omega)
  have square := le_normSq sum.isFinite c member
  have least : (2 : ℝ) ^ (2 * j) ≤ value v.normSq :=
    (le_value_mul_self lower square.1 (by omega)).trans square.2
  have positive : 0 ≤ value v.normSq := le_trans (by positivity) least
  exact ⟨j, above, below, upper, ⟨c, member, lower⟩,
    sqrt_within sum.isFinite positive ((le_abs_self _).trans sum.le) (by omega) (by omega)
      (by omega),
    le_value_sqrt sum.isFinite least (le_refl _) (by omega)⟩

/-- A component of a direction that is finite is at most two, whatever the vector was.
The norm may be infinite, and the direction is zero then. -/
theorem direction_within {direction : Vec3 α} {length : α}
    (made : v.direction? = some (direction, length)) :
    ∀ c ∈ direction.toList, Scalar.isFinite c = true → Within 1 c := by
  rw [direction?] at made
  by_cases positive : 0 < v.normSq
  · rw [if_pos positive] at made
    cases made
    cases finite : Scalar.isFinite v.norm with
    | true =>
        have sum := (Rounded.isFinite_of_sqrt _ finite).1
        have above := (Rounded.lt_iff _ _ Rounded.zero.1 sum).mp positive
        rw [Rounded.zero.2] at above
        exact fun c member _ => unscale_norm_within sum above c member
    | false =>
        have part {c : α} (quotient : Scalar.isFinite (c / v.norm) = true) :
            Within 1 (c / v.norm) := by
          rcases (Rounded.isFinite_of_div _ _ quotient).2 with ⟨infinite, -⟩ | ⟨-, none⟩
          · rw [finite] at infinite
            cases infinite
          · refine ⟨quotient, ?_⟩
            rw [none, abs_zero]
            positivity
        rw [forall_iff]
        exact ⟨part, part, part⟩
  · rw [if_neg positive] at made
    cases made

end Vec3

namespace Quat

variable {p q : Quat α}

/-- The numbers that the components stand for. -/
def real (q : Quat α) : Quat ℝ :=
  ⟨value q.x, value q.y, value q.z, value q.w⟩

/-- Components of at most two, and a length of at least a quarter. -/
structure IsTame (q : Quat α) : Prop where
  within : ∀ c ∈ q.toList, Within 1 c
  large : 1 / 16 ≤ q.real.normSq

theorem vector_within (small : ∀ c ∈ q.toList, Within j c) : ∀ c ∈ q.vector.toList, Within j c := by
  rw [forall_iff] at small
  rw [Vec3.forall_iff]
  exact ⟨small.1, small.2.1, small.2.2.1⟩

theorem normSq_within (small : ∀ c ∈ q.toList, Within j c) (fits : 2 * j + 2 ≤ n)
    (low : -537 ≤ j) (high : n ≤ 1023) : Within n q.normSq := by
  rw [forall_iff] at small
  rcases small with ⟨x, y, z, w⟩
  have square {c : α} (within : Within j c) : Within (2 * j) (c * c) :=
    within.mul within (by omega) (by omega) (by omega)
  have pair {c d : α} (first : Within j c) (second : Within j d) :
      Within (2 * j + 1) (c * c + d * d) :=
    (square first).add (square second) ⟨le_refl _, le_refl _⟩ (by omega) (by omega)
  exact (pair x z).add (pair y w) (by omega) (by omega) high

theorem le_normSq (finite : Scalar.isFinite q.normSq = true) :
    ∀ c ∈ q.toList, Scalar.isFinite (c * c) = true ∧ value (c * c) ≤ value q.normSq := by
  have outer := Rounded.isFinite_of_add _ _ finite
  have first := Rounded.isFinite_of_add _ _ outer.1
  have second := Rounded.isFinite_of_add _ _ outer.2
  have xx := value_mul_self_nonneg first.1
  have zz := value_mul_self_nonneg first.2
  have yy := value_mul_self_nonneg second.1
  have ww := value_mul_self_nonneg second.2
  have x := le_value_add outer.1 zz
  have z := le_value_add' outer.1 xx
  have y := le_value_add outer.2 ww
  have w := le_value_add' outer.2 yy
  have front := le_value_add finite (yy.trans y)
  have back := le_value_add' finite (xx.trans x)
  rw [forall_iff]
  exact ⟨⟨first.1, x.trans front⟩, ⟨second.1, y.trans back⟩, ⟨first.2, z.trans front⟩,
    ⟨second.2, w.trans back⟩⟩

theorem sq_le_real_normSq {c : α} (member : c ∈ q.toList) : value c ^ 2 ≤ q.real.normSq := by
  have x := sq_nonneg (value q.x)
  have y := sq_nonneg (value q.y)
  have z := sq_nonneg (value q.z)
  have w := sq_nonneg (value q.w)
  have sum : q.real.normSq =
      (value q.x ^ 2 + value q.z ^ 2) + (value q.y ^ 2 + value q.w ^ 2) := by
    simp only [normSq, real, pow_two]
  rw [sum]
  revert c
  rw [forall_iff]
  exact ⟨by linarith, by linarith, by linarith, by linarith⟩

theorem le_real_normSq {c : α} (member : c ∈ q.toList) {r : ℝ} (nonneg : 0 ≤ r)
    (size : r ≤ |value c|) : r ^ 2 ≤ q.real.normSq := by
  have square := pow_le_pow_left₀ nonneg size 2
  rw [sq_abs] at square
  exact square.trans (sq_le_real_normSq member)

/-- A quaternion that is not too short can be normalised. -/
theorem renormalize_isTame (small : ∀ c ∈ q.toList, Within 5 c)
    (large : ∃ c ∈ q.toList, 2 ^ (-7 : ℤ) ≤ |value c|) : q.renormalize.IsTame := by
  have finite : ∀ c ∈ q.toList, Scalar.isFinite c = true := fun c member => (small c member).isFinite
  rcases large with ⟨d, entry, size⟩
  have nonzero : value d ≠ 0 := abs_pos.mp (lt_of_lt_of_le (by positivity) size)
  obtain ⟨j, upper, c, member, lower⟩ := exists_scale finite ⟨d, entry, nonzero⟩
  have above : -8 ≤ j := by
    have bound := (zpow_le_zpow_iff_right₀ one_lt_two).mp (size.trans (upper d entry).le)
    omega
  have below : j ≤ 5 := (zpow_le_zpow_iff_right₀ one_lt_two).mp (lower.trans (small c member).le)
  have sum := normSq_within upper (le_refl _) (by omega) (by omega)
  have squares := le_normSq sum.isFinite
  have least : (2 : ℝ) ^ (2 * j) ≤ value q.normSq :=
    (le_value_mul_self lower (squares c member).1 (by omega)).trans (squares c member).2
  have positive : 0 < value q.normSq := lt_of_lt_of_le (by positivity) least
  have root := sqrt_within sum.isFinite positive.le ((le_abs_self _).trans sum.le)
    (by omega : 2 * (j + 1) + 2 ≤ 2 * (j + 2)) (by omega) (by omega)
  have rootPositive : (0 : ℝ) < value (Scalar.sqrt q.normSq) :=
    lt_of_lt_of_le (by positivity) (le_value_sqrt sum.isFinite least (le_refl _) (by omega))
  have part {e : α} (inside : e ∈ q.toList) : Within 1 (e / q.norm) :=
    div_sqrt_within (finite e inside) (squares e inside).1 sum.isFinite positive
      (squares e inside).2
  refine ⟨?_, ?_⟩
  · have parts : ∀ e ∈ q.toList, Within 1 (e / q.norm) := fun e inside => part inside
    rw [forall_iff] at parts ⊢
    exact parts
  · have quarter := le_abs_div lower root rootPositive.ne' (part member).isFinite
      (by omega : -2 ≤ j - (j + 2)) (by norm_num)
    have inside : c / q.norm ∈ q.renormalize.toList :=
      @List.mem_map_of_mem _ _ _ _ (fun e => e / q.norm) member
    exact le_trans (by norm_num) (le_real_normSq inside (by positivity) quarter)

/-! ### Products -/

/-- A rounded sum of so many products of numbers of at most two. -/
structure IsSum (count : ℕ) (x : ℝ) (a : α) : Prop where
  near : Near x (count * 2 ^ (-48 : ℤ)) a
  small : |x| ≤ 4 * count

theorem product_near {a b : α} (left : Within 1 a) (right : Within 1 b) :
    Near (value a * value b) (2 ^ (-52 : ℤ)) (a * b) ∧ |value a * value b| ≤ 4 := by
  have four : (2 : ℝ) ^ (2 : ℤ) = 4 := by norm_num
  have size : |value a * value b| ≤ 2 ^ (2 : ℤ) := by
    rw [abs_mul]
    calc |value a| * |value b| ≤ 2 ^ (1 : ℤ) * 2 ^ (1 : ℤ) :=
          mul_le_mul left.le right.le (abs_nonneg _) (by positivity)
      _ = 2 ^ (2 : ℤ) := by norm_num
  have near := near_of_approximates (Rounded.mul _ _ left.isFinite right.isFinite)
    (by norm_num) (by norm_num) size
  exact ⟨near, size.trans_eq four⟩

namespace IsSum

variable {count : ℕ} {x : ℝ} {a b c : α}

theorem product (left : Within 1 a) (right : Within 1 b) :
    IsSum 1 (value a * value b) (a * b) := by
  rcases product_near left right with ⟨near, small⟩
  refine ⟨near.mono ?_, small.trans_eq (by norm_num)⟩
  norm_num

/-- What another term needs of the sum so far, with either sign. -/
theorem room (few : count ≤ 3) {total : ℝ} (small : |total| ≤ 4 * count + 4) :
    |total| + (count * 2 ^ (-48 : ℤ) + 2 ^ (-52 : ℤ)) ≤ 2 ^ (5 : ℤ) ∧
      (count : ℝ) * 2 ^ (-48 : ℤ) + 2 ^ (-52 : ℤ) + 2 ^ (5 - 54 : ℤ) ≤
        ((count + 1 : ℕ) : ℝ) * 2 ^ (-48 : ℤ) ∧ |total| ≤ 4 * ((count + 1 : ℕ) : ℝ) := by
  have cast : (count : ℝ) ≤ 3 := by exact_mod_cast few
  push_cast
  norm_num
  refine ⟨?_, ?_, ?_⟩ <;> linarith

theorem add (sum : IsSum count x a) (left : Within 1 b) (right : Within 1 c) (few : count ≤ 3) :
    IsSum (count + 1) (x + value b * value c) (a + b * c) := by
  rcases product_near left right with ⟨near, small⟩
  rcases room few ((abs_add_le x (value b * value c)).trans (add_le_add sum.small small)) with
    ⟨bound, error, total⟩
  exact ⟨(sum.near.add near bound (by norm_num) (by norm_num)).mono error, total⟩

theorem sub (sum : IsSum count x a) (left : Within 1 b) (right : Within 1 c) (few : count ≤ 3) :
    IsSum (count + 1) (x - value b * value c) (a - b * c) := by
  rcases product_near left right with ⟨near, small⟩
  rcases room few ((abs_sub x (value b * value c)).trans (add_le_add sum.small small)) with
    ⟨bound, error, total⟩
  exact ⟨(sum.near.sub near bound (by norm_num) (by norm_num)).mono error, total⟩

theorem within (sum : IsSum 4 x a) : Within 5 a := by
  refine sum.near.within ?_
  have small := sum.small
  norm_num at small ⊢
  linarith

end IsSum

theorem mul_isSum (left : ∀ c ∈ p.toList, Within 1 c) (right : ∀ c ∈ q.toList, Within 1 c) :
    IsSum 4 (p.real * q.real).x (p * q).x ∧ IsSum 4 (p.real * q.real).y (p * q).y ∧
      IsSum 4 (p.real * q.real).z (p * q).z ∧ IsSum 4 (p.real * q.real).w (p * q).w := by
  rw [forall_iff] at left right
  rcases left with ⟨px, py, pz, pw⟩
  rcases right with ⟨qx, qy, qz, qw⟩
  refine ⟨?_, ?_, ?_, ?_⟩
  · exact (((IsSum.product pw qx).add px qw (by norm_num)).add py qz (by norm_num)).sub pz qy
      (by norm_num)
  · exact (((IsSum.product pw qy).sub px qz (by norm_num)).add py qw (by norm_num)).add pz qx
      (by norm_num)
  · exact (((IsSum.product pw qz).add px qy (by norm_num)).sub py qx (by norm_num)).add pz qw
      (by norm_num)
  · exact (((IsSum.product pw qw).sub px qx (by norm_num)).sub py qy (by norm_num)).sub pz qz
      (by norm_num)

theorem mul_within (left : ∀ c ∈ p.toList, Within 1 c) (right : ∀ c ∈ q.toList, Within 1 c) :
    ∀ c ∈ (p * q).toList, Within 5 c := by
  rcases mul_isSum left right with ⟨x, y, z, w⟩
  rw [forall_iff]
  exact ⟨x.within, y.within, z.within, w.within⟩

/-- A product is not much shorter than its factors make it. -/
theorem mul_large (left : ∀ c ∈ p.toList, Within 1 c) (right : ∀ c ∈ q.toList, Within 1 c)
    (long : 1 / 64 ≤ p.real.normSq) (tame : 1 / 16 ≤ q.real.normSq) :
    ∃ c ∈ (p * q).toList, 2 ^ (-7 : ℤ) ≤ |value c| := by
  have sums := mul_isSum left right
  by_contra none
  push Not at none
  have part {x : ℝ} {a : α} (sum : IsSum 4 x a) (small : |value a| < 2 ^ (-7 : ℤ)) :
      x ^ 2 ≤ (1 / 100) ^ 2 := by
    have close := sum.near.le_abs
    norm_num at close small
    rw [← sq_abs x]
    exact pow_le_pow_left₀ (abs_nonneg x) (by linarith) 2
  rw [forall_iff] at none
  have x := part sums.1 none.1
  have y := part sums.2.1 none.2.1
  have z := part sums.2.2.1 none.2.2.1
  have w := part sums.2.2.2 none.2.2.2
  have length : (p.real * q.real).normSq = p.real.normSq * q.real.normSq := normSq_mul _ _
  have sum : (p.real * q.real).normSq =
      ((p.real * q.real).x ^ 2 + (p.real * q.real).z ^ 2) +
        ((p.real * q.real).y ^ 2 + (p.real * q.real).w ^ 2) := by
    simp only [normSq, pow_two]
  have product := mul_le_mul long tame (by norm_num) (le_trans (by norm_num) long)
  linarith

/-! ### Rotation vectors -/

theorem identity_isTame : (identity : Quat α).IsTame := by
  constructor
  · rw [forall_iff]
    exact ⟨.zero 1, .zero 1, .zero 1, Within.one.mono (by norm_num)⟩
  · have member : (1 : α) ∈ (identity : Quat α).toList := by simp [toList, identity]
    have large := sq_le_real_normSq member
    rw [Rounded.one.2] at large
    exact le_trans (by norm_num) large

theorem le_value_epsilon : Scalar.isFinite (Scalar.epsilon * Scalar.epsilon : α) = true ∧
    2 ^ (-104 : ℤ) ≤ value (Scalar.epsilon * Scalar.epsilon : α) := by
  have size : |value (Scalar.epsilon : α)| = 2 ^ (-52 : ℤ) := by
    rw [Rounded.epsilon.2, abs_of_pos (by positivity)]
  have small : Within (-52) (Scalar.epsilon : α) := ⟨Rounded.epsilon.1, size.le⟩
  have finite := (small.mul small (le_refl _) (by norm_num) (by norm_num)).isFinite
  exact ⟨finite, le_value_mul_self size.ge finite (by norm_num)⟩

/-- The quaternion of a rotation by half the length of a vector, if that length is neither
very small nor very large. -/
theorem turning_isTame (sound : SoundTrigonometry α) {half : Vec3 α}
    (small : ∀ c ∈ half.toList, Within 509 c) (long : 2 ^ (-104 : ℤ) < value half.normSq)
    {u : Vec3 α} (scaled : u = half.scale (Scalar.sin half.norm / half.norm)) :
    (∀ c ∈ (⟨u.x, u.y, u.z, Scalar.cos half.norm⟩ : Quat α).toList, Within 1 c) ∧
      1 / 64 ≤ (⟨u.x, u.y, u.z, Scalar.cos half.norm⟩ : Quat α).real.normSq := by
  obtain ⟨j, above, below, upper, ⟨c, member, lower⟩, norm, root⟩ :=
    Vec3.exists_norm_scale small long
  have rootPositive : 0 < value half.norm := lt_of_lt_of_le (by positivity) root
  have sine := sound.sin_within _ norm.isFinite
  have cosine := sound.cos_within _ norm.isFinite
  have circle := sound.half_le _ norm.isFinite
  have factor := sine.div (n := -j) norm.isFinite (root.trans (le_abs_self _)) (by omega)
    (by omega) (by omega)
  have parts := Vec3.scale_within (n := 1) upper factor (by omega) (by norm_num) (by norm_num)
  have joined : (⟨u.x, u.y, u.z, Scalar.cos half.norm⟩ : Quat α).toList =
      u.toList ++ [Scalar.cos half.norm] := rfl
  rw [← scaled] at parts
  constructor
  · rw [joined, List.forall_mem_append]
    exact ⟨parts, List.forall_mem_singleton.mpr (cosine.mono (by norm_num))⟩
  · by_cases flat : 1 / 4 ≤ value (Scalar.cos half.norm) ^ 2
    · have inside : Scalar.cos half.norm ∈
          (⟨u.x, u.y, u.z, Scalar.cos half.norm⟩ : Quat α).toList := by
        rw [joined]
        exact List.mem_append_right _ List.mem_cons_self
      exact le_trans (le_trans (by norm_num) flat) (sq_le_real_normSq inside)
    · -- the sine is at least a half, and the quotient as large as the norm allows
      have steep : (2 : ℝ) ^ (-1 : ℤ) ≤ |value (Scalar.sin half.norm)| := by
        rw [← abs_of_pos (by positivity : (0 : ℝ) < 2 ^ (-1 : ℤ)), ← sq_le_sq]
        norm_num
        linarith
      have quotient := le_abs_div (n := -j - 3) steep norm rootPositive.ne' factor.isFinite
        (by omega) (by omega)
      have inside : c * (Scalar.sin half.norm / half.norm) ∈ u.toList := by
        rw [scaled]
        exact @List.mem_map_of_mem _ _ _ _
          (fun e => e * (Scalar.sin half.norm / half.norm)) member
      have eighth := le_abs_mul (n := -3) lower quotient (parts _ inside).isFinite (by omega)
        (by norm_num)
      have entry : c * (Scalar.sin half.norm / half.norm) ∈
          (⟨u.x, u.y, u.z, Scalar.cos half.norm⟩ : Quat α).toList := by
        rw [joined]
        exact List.mem_append_left _ inside
      exact le_trans (by norm_num) (le_real_normSq entry (by positivity) eighth)

/-- The rotation of a vector that is not astronomically long. -/
theorem ofRotationVector_isTame (sound : SoundTrigonometry α) {v : Vec3 α}
    (small : ∀ c ∈ v.toList, Within 510 c) :
    (∀ c ∈ (ofRotationVector v).toList, Within 1 c) ∧
      1 / 64 ≤ (ofRotationVector v).real.normSq := by
  have two := @Rounded.natCast α _ _ 2 (by norm_num)
  have half : ∀ c ∈ (v.unscale ((2 : ℕ) : α)).toList, Within 509 c := by
    have part {c : α} (within : Within 510 c) : Within 509 (c / ((2 : ℕ) : α)) :=
      within.div two.1 (by rw [two.2]; norm_num : (2 : ℝ) ^ (1 : ℤ) ≤ |value ((2 : ℕ) : α)|)
        (by norm_num) (by norm_num) (by norm_num)
    rw [Vec3.forall_iff] at small ⊢
    exact ⟨part small.1, part small.2.1, part small.2.2⟩
  have sum := Vec3.normSq_within (n := 1020) half (by norm_num) (by norm_num) (by norm_num)
  rcases @le_value_epsilon α _ _ with ⟨epsilon, spacing⟩
  rw [ofRotationVector]
  by_cases short : (v.unscale ((2 : ℕ) : α)).normSq ≤ Scalar.epsilon * Scalar.epsilon
  · rw [if_pos short]
    exact ⟨identity_isTame.within, le_trans (by norm_num) identity_isTame.large⟩
  · rw [if_neg short]
    rw [Rounded.le_iff _ _ sum.isFinite epsilon, not_le] at short
    exact turning_isTame sound half (spacing.trans_lt short) rfl

/-- No angle of a rotation is much larger than a whole turn. -/
theorem angle_within (sound : SoundTrigonometry α) (finite : Scalar.isFinite q.angle = true) :
    Within 3 q.angle := by
  have half := sound.atan2_within _ _ (Rounded.isFinite_of_mul _ _ finite).1
  exact half.mul .two (by norm_num) (by norm_num) (by norm_num)

theorem IsTame.isFinite_angle (tame : q.IsTame) (sound : SoundTrigonometry α) :
    Scalar.isFinite q.angle = true := by
  have sum := Vec3.normSq_within (n := 4) (vector_within tame.within) (by norm_num) (by norm_num)
    (by norm_num)
  have norm := isFinite_sqrt sum.isFinite (Vec3.normSq_nonneg_of_isFinite sum.isFinite)
  have scalar := ((forall_iff _ _).mp tame.within).2.2.2.abs.isFinite
  have half := sound.atan2_within _ _ (sound.isFinite_atan2 _ _ norm scalar)
  exact (half.mul (n := 3) .two (by norm_num) (by norm_num) (by norm_num)).isFinite

/-- A tame quaternion has a rotation vector of components of at most sixteen. -/
theorem IsTame.rotationVector_within (tame : q.IsTame) (sound : SoundTrigonometry α) :
    ∀ c ∈ q.rotationVector.toList, Within 4 c := by
  obtain ⟨v, short⟩ : ∃ v, v = if q.w < 0 then -q.vector else q.vector := ⟨_, rfl⟩
  have vector : ∀ c ∈ v.toList, Within 1 c := by
    rw [short]
    split
    · exact Vec3.neg_within (vector_within tame.within)
    · exact vector_within tame.within
  have sum := Vec3.normSq_within (n := 4) vector (by norm_num) (by norm_num) (by norm_num)
  rw [rotationVector, axis?, ← short, Vec3.direction?]
  by_cases positive : 0 < v.normSq
  · rw [if_pos positive]
    rw [Rounded.lt_iff _ _ Rounded.zero.1 sum.isFinite, Rounded.zero.2] at positive
    exact Vec3.scale_within (Vec3.unscale_norm_within sum.isFinite positive)
      (angle_within sound (tame.isFinite_angle sound)) (by norm_num) (by norm_num) (by norm_num)
  · rw [if_neg positive]
    exact Vec3.zero_within 4

end Quat

end MotionControl
