import MotionControl.Proofs.Scalar.Exact

/-!
# Ceilings

A control cycle takes from a magnitude what a ceiling allows: `clip` is that
part, `leaves` is the rest.  Both treat every ceiling alike, usable or not.
Taking all that is allowed in every cycle uses a magnitude up in `cycles` many,
and in no fewer (`iterate_leaves_eq_zero_iff`); a fraction of what is never
clipped leaves a geometric sequence (`iterate_leaves_of_le`).
-/

namespace MotionControl
namespace Exact

/-! ## What a ceiling lets through -/

/-- What a ceiling leaves of a magnitude.  A ceiling that is negative or not a
number counts as zero, and an infinite one leaves everything. -/
noncomputable def clip : Exact → ℝ → ℝ
  | nan, _ | infinite true, _ => 0
  | infinite false, size => size
  | real ceiling, size => min size (max ceiling 0)

theorem clip_nonneg (ceiling : Exact) {size : ℝ} (nonneg : 0 ≤ size) :
    0 ≤ ceiling.clip size := by
  cases ceiling with
  | nan => exact le_refl 0
  | infinite negative => cases negative with
    | true => exact le_refl 0
    | false => exact nonneg
  | real bound => exact le_min nonneg (le_max_right bound 0)

theorem clip_le (ceiling : Exact) {size : ℝ} (nonneg : 0 ≤ size) :
    ceiling.clip size ≤ size := by
  cases ceiling with
  | nan => exact nonneg
  | infinite negative => cases negative with
    | true => exact nonneg
    | false => exact le_refl size
  | real bound => exact min_le_left size _

theorem clip_zero (ceiling : Exact) : ceiling.clip 0 = 0 :=
  le_antisymm (clip_le ceiling le_rfl) (clip_nonneg ceiling le_rfl)

theorem clip_of_le {ceiling : Exact} {size : ℝ} (below : real size ≤ ceiling) :
    ceiling.clip size = size := by
  cases ceiling with
  | nan => exact below.elim
  | infinite negative => cases negative with
    | true => exact below.elim
    | false => rfl
  | real bound => exact min_eq_left (le_max_of_le_left (real_le.mp below))

theorem clip_real {bound : ℝ} (nonneg : 0 ≤ bound) (size : ℝ) :
    (real bound).clip size = min size bound := by
  rw [clip, max_eq_left nonneg]

theorem clip_eq_zero_iff (ceiling : Exact) {size : ℝ} (nonneg : 0 ≤ size) :
    ceiling.clip size = 0 ↔ size = 0 ∨ ¬ 0 < ceiling := by
  cases ceiling with
  | nan =>
      have undefined : ¬ (0 : Exact) < nan := fun ordered => ordered.1
      exact iff_of_true rfl (.inr undefined)
  | infinite negative => cases negative with
    | true =>
        have below : ¬ (0 : Exact) < infinite true := fun ordered => ordered.1
        exact iff_of_true rfl (.inr below)
    | false =>
        have above : (0 : Exact) < infinite false := ⟨trivial, id⟩
        simp only [clip, above, not_true_eq_false, or_false]
  | real bound =>
      have positive : (0 : Exact) < real bound ↔ 0 < bound := real_lt
      rw [positive, not_lt, clip]
      constructor
      · intro clipped
        by_contra both
        push Not at both
        have sizePos : 0 < size := nonneg.lt_of_ne' both.1
        exact (lt_min sizePos (lt_max_of_lt_left both.2)).ne' clipped
      · rintro (zero | none)
        · rw [zero, min_eq_left (le_max_right bound 0)]
        · rw [max_eq_right none, min_eq_right nonneg]

theorem least_real (a b : ℝ) : Scalar.least (real a) (real b) = real (min a b) := by
  have number : Scalar.isNaN (real b) = false := rfl
  simp only [Scalar.least, number, real_le, Bool.or_false, decide_eq_true_eq]
  split_ifs with ordered
  · rw [min_eq_left ordered]
  · rw [min_eq_right (le_of_not_ge ordered)]

theorem greatest_zero_of_le {ceiling : Exact} (ordered : 0 ≤ ceiling) :
    Scalar.greatest ceiling 0 = ceiling := by
  simp only [Scalar.greatest, ordered, decide_true, Bool.true_or, if_true]

theorem greatest_zero_of_not_le {ceiling : Exact} (ordered : ¬ 0 ≤ ceiling) :
    Scalar.greatest ceiling 0 = real 0 := by
  have number : Scalar.isNaN (0 : Exact) = false := rfl
  simp only [Scalar.greatest, ordered, number, decide_false, Bool.or_false, Bool.false_eq_true,
    if_false]
  rfl

/-- The smaller of a magnitude and a usable ceiling, as the control law takes
it. -/
theorem least_greatest (ceiling : Exact) {size : ℝ} (nonneg : 0 ≤ size) :
    Scalar.least (real size) (Scalar.greatest ceiling 0) = real (ceiling.clip size) := by
  cases ceiling with
  | nan =>
      rw [greatest_zero_of_not_le id, least_real, min_eq_right nonneg]
      rfl
  | infinite negative => cases negative with
    | true =>
        rw [greatest_zero_of_not_le id, least_real, min_eq_right nonneg]
        rfl
    | false =>
        have above : (0 : Exact) ≤ infinite false := trivial
        have below : real size ≤ infinite false := trivial
        rw [greatest_zero_of_le above]
        simp only [Scalar.least, below, decide_true, Bool.true_or, if_true]
        rfl
  | real bound =>
      by_cases ordered : 0 ≤ bound
      · rw [greatest_zero_of_le ordered, least_real, clip_real ordered]
      · rw [greatest_zero_of_not_le ordered, least_real, clip,
          max_eq_right (le_of_not_ge ordered)]

/-! ## What the cycles leave -/

/-- What a cycle leaves of a magnitude, if it takes a fraction of what the
ceiling lets through. -/
noncomputable def leaves (ceiling : Exact) (fraction size : ℝ) : ℝ :=
  size - fraction * ceiling.clip size

/-- How many cycles it takes to use a magnitude up.  An infinite ceiling lets
it through at once. -/
noncomputable def cycles : Exact → ℝ → ℕ
  | real ceiling, size => ⌈size / ceiling⌉₊
  | nan, size | infinite _, size => if size = 0 then 0 else 1

section Leaves

variable {fraction size : ℝ} (ceiling : Exact)

theorem mul_clip_le (fractionLe : fraction ≤ 1) (nonneg : 0 ≤ size) :
    fraction * ceiling.clip size ≤ size := by
  have part := mul_le_of_le_one_left (ceiling.clip_nonneg nonneg) fractionLe
  exact part.trans (ceiling.clip_le nonneg)

theorem leaves_nonneg (fractionLe : fraction ≤ 1) (nonneg : 0 ≤ size) :
    0 ≤ ceiling.leaves fraction size :=
  sub_nonneg.mpr (ceiling.mul_clip_le fractionLe nonneg)

theorem leaves_le (fractionNonneg : 0 ≤ fraction) (nonneg : 0 ≤ size) :
    ceiling.leaves fraction size ≤ size :=
  sub_le_self size (mul_nonneg fractionNonneg (ceiling.clip_nonneg nonneg))

theorem leaves_zero (fraction : ℝ) : ceiling.leaves fraction 0 = 0 := by
  rw [leaves, clip_zero, mul_zero, sub_zero]

theorem leaves_of_le {ceiling : Exact} (below : real size ≤ ceiling) :
    ceiling.leaves fraction size = (1 - fraction) * size := by
  rw [leaves, clip_of_le below, sub_mul, one_mul]

theorem iterate_leaves_nonneg (fractionLe : fraction ≤ 1) (nonneg : 0 ≤ size) (k : ℕ) :
    0 ≤ (ceiling.leaves fraction)^[k] size := by
  induction k with
  | zero => exact nonneg
  | succ k inductionHypothesis =>
      rw [Function.iterate_succ_apply']
      exact leaves_nonneg ceiling fractionLe inductionHypothesis

theorem iterate_leaves_antitone (fractionNonneg : 0 ≤ fraction) (fractionLe : fraction ≤ 1)
    (nonneg : 0 ≤ size) : Antitone fun k => (ceiling.leaves fraction)^[k] size := by
  apply antitone_nat_of_succ_le
  intro k
  rw [Function.iterate_succ_apply']
  exact leaves_le ceiling fractionNonneg (iterate_leaves_nonneg ceiling fractionLe nonneg k)

/-- What is not clipped shrinks by the same factor in every cycle. -/
theorem iterate_leaves_of_le {ceiling : Exact} (fractionNonneg : 0 ≤ fraction)
    (fractionLe : fraction ≤ 1) (nonneg : 0 ≤ size) (below : real size ≤ ceiling) (k : ℕ) :
    (ceiling.leaves fraction)^[k] size = (1 - fraction) ^ k * size := by
  induction k with
  | zero => rw [Function.iterate_zero_apply, pow_zero, one_mul]
  | succ k inductionHypothesis =>
      have shrunk : (ceiling.leaves fraction)^[k] size ≤ size :=
        iterate_leaves_antitone ceiling fractionNonneg fractionLe nonneg k.zero_le
      rw [Function.iterate_succ_apply', leaves_of_le (real_le_of_le shrunk below),
        inductionHypothesis, pow_succ']
      ring

/-- The same from any cycle on, whatever the ceiling cut off before. -/
theorem iterate_leaves_add_of_le {ceiling : Exact} (fractionNonneg : 0 ≤ fraction)
    (fractionLe : fraction ≤ 1) (nonneg : 0 ≤ size) {j : ℕ}
    (below : real ((ceiling.leaves fraction)^[j] size) ≤ ceiling) (k : ℕ) :
    (ceiling.leaves fraction)^[j + k] size =
      (1 - fraction) ^ k * (ceiling.leaves fraction)^[j] size := by
  have later := iterate_leaves_nonneg ceiling fractionLe nonneg j
  rw [add_comm, Function.iterate_add_apply]
  exact iterate_leaves_of_le fractionNonneg fractionLe later below k

/-- Every cycle takes one ceiling, until nothing is left. -/
theorem iterate_leaves_real {bound : ℝ} (positive : 0 < bound) (nonneg : 0 ≤ size) (k : ℕ) :
    ((real bound).leaves 1)^[k] size = max (size - k * bound) 0 := by
  induction k with
  | zero => rw [Function.iterate_zero_apply, Nat.cast_zero, zero_mul, sub_zero, max_eq_left nonneg]
  | succ k inductionHypothesis =>
      rw [Function.iterate_succ_apply', inductionHypothesis, leaves, clip_real positive.le, one_mul,
        Nat.cast_succ, add_mul, one_mul, ← sub_sub]
      rcases le_total (size - k * bound) bound with last | more
      · rw [min_eq_left (max_le last positive.le), sub_self, max_eq_right (sub_nonpos.mpr last)]
      · rw [max_eq_left (positive.le.trans more), min_eq_right more,
          max_eq_left (sub_nonneg.mpr more)]

theorem cycles_real_le_iff {bound : ℝ} (positive : 0 < bound) (size : ℝ) (k : ℕ) :
    (real bound).cycles size ≤ k ↔ size ≤ k * bound := by
  rw [cycles, Nat.ceil_le, div_le_iff₀ positive]

/-- A magnitude is used up after `cycles` many cycles and not before. -/
theorem iterate_leaves_eq_zero_iff {ceiling : Exact} (positive : 0 < ceiling) (nonneg : 0 ≤ size)
    (k : ℕ) : (ceiling.leaves 1)^[k] size = 0 ↔ ceiling.cycles size ≤ k := by
  cases ceiling with
  | nan => exact positive.1.elim
  | infinite negative => cases negative with
    | true => exact positive.1.elim
    | false =>
        have taken : (infinite false).leaves 1 size = 0 := by
          rw [leaves, clip, one_mul, sub_self]
        cases k with
        | zero =>
            rw [Function.iterate_zero_apply, cycles, Nat.le_zero]
            split_ifs with zero
            · exact iff_of_true zero rfl
            · exact iff_of_false zero id
        | succ k =>
            rw [Function.iterate_succ_apply, taken, Function.iterate_fixed (leaves_zero _ 1)]
            refine iff_of_true rfl ?_
            rw [cycles]
            split_ifs
            · exact Nat.zero_le _
            · exact Nat.le_add_left 1 k
  | real bound =>
      have boundPos : 0 < bound := real_lt.mp positive
      rw [iterate_leaves_real boundPos nonneg, cycles_real_le_iff boundPos, max_eq_right_iff,
        sub_nonpos]

end Leaves

end Exact
end MotionControl
