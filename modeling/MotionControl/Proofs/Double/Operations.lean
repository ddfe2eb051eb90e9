import MotionControl.Proofs.Double.Rounding
import Mathlib.Analysis.Real.Sqrt
import Mathlib.Order.Compare

/-!
# Operations on finite doubles

Sum, difference, product, quotient and square root are each computed exactly, or with
the two bits that rounding needs, and then rounded once.  So each of them returns a
nearest number to its exact value, on all operands that have one.
-/

namespace MotionControl
namespace Double

open Float.Model Float.Model.UnpackedFloat

/-! ## Signs -/

theorem signed_mul (s t : Sign) (x y : ℝ) : signed (s * t) (x * y) = signed s x * signed t y := by
  cases s <;> cases t
  · exact (neg_mul_neg x y).symm
  · exact (neg_mul x y).symm
  · exact (mul_neg x y).symm
  · rfl

theorem signed_div (s t : Sign) (x y : ℝ) : signed (s / t) (x / y) = signed s x / signed t y := by
  cases s <;> cases t
  · exact (neg_div_neg_eq x y).symm
  · exact (neg_div y x).symm
  · exact (div_neg x).symm
  · rfl

theorem signed_neg (s : Sign) (x : ℝ) : signed (-s) x = -signed s x := by
  cases s
  · exact (neg_neg x).symm
  · rfl

theorem signed_apply (s : Sign) (n : ℤ) : ((s.apply n : ℤ) : ℝ) = signed s n := by
  cases s
  · exact Int.cast_neg n
  · rfl

theorem signed_mul_right (s : Sign) (x y : ℝ) : signed s (x * y) = signed s x * y := by
  cases s
  · exact (neg_mul x y).symm
  · rfl

/-! ## What needs no rounding -/

theorem representable_of_fits (sign : Sign) {m : ℕ} {e : ℤ} (fits : Fits m e) :
    Representable (signed sign (m * 2 ^ e)) := by
  have nonneg : Representable (m * 2 ^ e) :=
    ⟨m, e, by rw [Nat.abs_cast]; exact_mod_cast fits.mantissa_lt.le, fits.le_exponent, by simp⟩
  cases sign with
  | negative => exact nonneg.neg
  | positive => exact nonneg

theorem rounds_of_canonical {u : UnpackedFloat} (canonical : IsCanonical u) :
    Rounds (exact u) u := by
  refine ⟨canonical, isNearest_of_representable ?_⟩
  cases u with
  | finite sign m e positive => exact representable_of_fits sign canonical
  | zero sign => exact .zero
  | infinity | notANumber => cases canonical

theorem rounds_zero (sign : Sign) : Rounds 0 (.zero sign) :=
  @rounds_of_canonical (.zero sign) trivial

/-! ## Sums -/

theorem shiftLeft_mul_zpow (m : ℕ) {e t : ℤ} (lower : t ≤ e) :
    ((m <<< (e - t).toNat : ℕ) : ℝ) * 2 ^ t = m * 2 ^ e := by
  rw [Nat.shiftLeft_eq, Nat.cast_mul, Nat.cast_pow, Nat.cast_ofNat, mul_assoc, ← zpow_natCast,
    ← zpow_add₀ two_ne_zero]
  congr 2
  omega

/-- A mantissa that is shifted far enough has any number of digits. -/
theorem two_pow_le_shiftLeft {m j k : ℕ} (positive : 0 < m) (room : j ≤ m.log2 + k) :
    2 ^ j ≤ m <<< k := by
  rw [Nat.shiftLeft_eq]
  calc 2 ^ j ≤ 2 ^ (m.log2 + k) := Nat.pow_le_pow_right two_pos room
    _ = 2 ^ m.log2 * 2 ^ k := pow_add _ _ _
    _ ≤ m * 2 ^ k := Nat.mul_le_mul_right _ (Nat.log2_self_le positive.ne')

theorem le_targetExponent {m : ℕ} {e : ℤ} (full : 2 ^ 52 ≤ m ∨ e ≤ -1074) :
    e ≤ targetExponent m e := by
  rw [targetExponent]
  rcases full with full | low
  · have digits : 52 ≤ m.log2 := (Nat.le_log2 (by omega)).mpr full
    omega
  · omega

/-- Rounding shifts a short mantissa to the left first, which leaves its value. -/
theorem exists_round_eq {m : ℕ} (e : ℤ) (positive : 0 < m) :
    ∃ n : ℕ, ∃ f : ℤ, 0 < n ∧ (n : ℝ) * 2 ^ f = m * 2 ^ e ∧ f ≤ targetExponent n f ∧
      ∀ sign, UnpackedFloat.round Format.binary64 sign m e =
        roundWithAccuracy Format.binary64 sign n f .exact := by
  obtain ⟨t, target⟩ : ∃ t, t = targetExponent m e := ⟨_, rfl⟩
  refine ⟨m <<< (e - t).toNat, e - (e - t).toNat, ?_, ?_, ?_, ?_⟩
  · rw [Nat.shiftLeft_eq]
    positivity
  · rw [← shiftLeft_mul_zpow m (by omega : e - (e - t).toNat ≤ e)]
    congr 3
    omega
  · by_cases up : e ≤ t
    · have still : (e - t).toNat = 0 := by omega
      rw [still, Nat.shiftLeft_zero, Nat.cast_zero, sub_zero, ← target]
      exact up
    · apply le_targetExponent
      by_cases low : t ≤ -1074
      · right
        omega
      · left
        apply two_pow_le_shiftLeft positive
        rw [targetExponent] at target
        omega
  · intro sign
    have same : Format.binary64.targetExponent (totalExponent m e) = t := by
      rw [target, targetExponent]
      change max ((m.log2 : ℤ) + 1 + e - 53) (3 - 2 ^ 10 - 53) = max (m.log2 + e - 52) (-1074)
      congr 1
      omega
    rw [UnpackedFloat.round, decreaseExponent, same]

theorem round_rounds (sign : Sign) {m : ℕ} (e : ℤ) (positive : 0 < m) :
    Rounds (signed sign (m * 2 ^ e)) (UnpackedFloat.round Format.binary64 sign m e) := by
  obtain ⟨n, f, nonzero, value, enough, rounded⟩ := exists_round_eq e positive
  rw [rounded sign, ← value]
  exact roundWithAccuracy_rounds sign (fun none => absurd none nonzero.ne') (.whole n) enough

theorem normalize_rounds (n e : ℤ) (zeroSign : Sign) :
    Rounds (n * 2 ^ e) (normalize Format.binary64 n e zeroSign) := by
  rw [UnpackedFloat.normalize]
  cases order : compare n 0 with
  | lt =>
      have negative : n < 0 := compare_lt_iff_lt.mp order
      have rounded := round_rounds .negative e (by omega : 0 < (-n).toNat)
      have value : signed .negative (((-n).toNat : ℝ) * 2 ^ e) = n * 2 ^ e := by
        have cast : (((-n).toNat : ℤ) : ℝ) = ((-n : ℤ) : ℝ) := by
          rw [Int.toNat_of_nonneg (by omega)]
        rw [Int.cast_natCast, Int.cast_neg] at cast
        rw [signed, cast, neg_mul, neg_neg]
      rwa [value] at rounded
  | eq =>
      have none : n = 0 := compare_eq_iff_eq.mp order
      rw [none, Int.cast_zero, zero_mul]
      exact rounds_zero zeroSign
  | gt =>
      have positive : 0 < n := compare_gt_iff_gt.mp order
      have rounded := round_rounds .positive e (by omega : 0 < n.toNat)
      have value : signed .positive ((n.toNat : ℝ) * 2 ^ e) = n * 2 ^ e := by
        have cast : ((n.toNat : ℤ) : ℝ) = (n : ℝ) := by
          rw [Int.toNat_of_nonneg positive.le]
        rw [Int.cast_natCast] at cast
        rw [signed, cast]
      rwa [value] at rounded

theorem ofNat_rounds (n : ℕ) : Rounds n (UnpackedFloat.ofNat Format.binary64 n) := by
  have rounded := normalize_rounds n 0 .positive
  rwa [zpow_zero, mul_one, Int.cast_natCast] at rounded

/-- A sum is formed at the smaller one of the exponents, where it is exact. -/
theorem exact_add_exact (s t : Sign) {m n : ℕ} (e f : ℤ) (positive : 0 < m) (other : 0 < n) :
    exact (.finite s m e positive) + exact (.finite t n f other) =
      ((s.apply (m <<< (e - min e f).toNat : ℕ) +
        t.apply (n <<< (f - min e f).toNat : ℕ) : ℤ) : ℝ) * 2 ^ min e f := by
  rw [Int.cast_add, signed_apply, signed_apply, add_mul, exact_finite, exact_finite,
    ← shiftLeft_mul_zpow m (min_le_left e f), ← shiftLeft_mul_zpow n (min_le_right e f),
    signed_mul_right, signed_mul_right, Int.cast_natCast, Int.cast_natCast]

theorem add_rounds {u v : UnpackedFloat} (left : IsCanonical u) (right : IsCanonical v) :
    Rounds (exact u + exact v) (UnpackedFloat.add Format.binary64 u v) := by
  cases u with
  | infinity | notANumber => cases left
  | zero s =>
      cases v with
      | infinity | notANumber => cases right
      | zero t =>
          rw [exact_zero, exact_zero, add_zero]
          cases s with
          | negative => cases t <;> exact rounds_zero _
          | positive => cases t <;> exact rounds_zero _
      | finite t n f other =>
          rw [exact_zero, zero_add]
          exact rounds_of_canonical right
  | finite s m e positive =>
      cases v with
      | infinity | notANumber => cases right
      | zero t =>
          rw [exact_zero, add_zero]
          exact rounds_of_canonical left
      | finite t n f other =>
          rw [exact_add_exact]
          exact normalize_rounds _ _ _

theorem exact_neg (u : UnpackedFloat) : exact u.neg = -exact u := by
  cases u with
  | finite sign m e positive => exact signed_neg sign _
  | infinity | notANumber | zero => exact neg_zero.symm

theorem isCanonical_neg {u : UnpackedFloat} (canonical : IsCanonical u) : IsCanonical u.neg := by
  cases u with
  | finite | zero => exact canonical
  | infinity | notANumber => cases canonical

theorem sub_eq_add {u v : UnpackedFloat} (left : IsCanonical u) (right : IsCanonical v) :
    UnpackedFloat.sub Format.binary64 u v = UnpackedFloat.add Format.binary64 u v.neg := by
  cases u with
  | infinity | notANumber => cases left
  | zero s =>
      cases v with
      | infinity | notANumber => cases right
      | zero | finite => rfl
  | finite s m e positive =>
      cases v with
      | infinity | notANumber => cases right
      | zero t => rfl
      | finite t n f other =>
          have flipped (k : ℤ) : (-t).apply k = -t.apply k := by
            cases t
            · exact (neg_neg k).symm
            · rfl
          have digits : s.apply (m <<< (e - min e f).toNat : ℕ) -
                t.apply (n <<< (f - min e f).toNat : ℕ) =
              s.apply (m <<< (e - min e f).toNat : ℕ) +
                (-t).apply (n <<< (f - min e f).toNat : ℕ) := by
            rw [flipped, Int.sub_eq_add_neg]
          exact congrArg (fun mantissa =>
            UnpackedFloat.normalize Format.binary64 mantissa (min e f) .positive) digits

theorem sub_rounds {u v : UnpackedFloat} (left : IsCanonical u) (right : IsCanonical v) :
    Rounds (exact u - exact v) (UnpackedFloat.sub Format.binary64 u v) := by
  rw [sub_eq_add left right, sub_eq_add_neg, ← exact_neg]
  exact add_rounds left (isCanonical_neg right)

/-! ## Products, quotients and roots -/

theorem mul_rounds {u v : UnpackedFloat} (left : IsCanonical u) (right : IsCanonical v) :
    Rounds (exact u * exact v) (UnpackedFloat.mul Format.binary64 u v) := by
  cases u with
  | infinity | notANumber => cases left
  | zero s =>
      rw [exact_zero, zero_mul]
      cases v with
      | infinity | notANumber => cases right
      | zero | finite => exact rounds_zero _
  | finite s m e positive =>
      cases v with
      | infinity | notANumber => cases right
      | zero t =>
          rw [exact_zero, mul_zero]
          exact rounds_zero _
      | finite t n f other =>
          have value : exact (.finite s m e positive) * exact (.finite t n f other) =
              signed (s * t) (((m * n : ℕ) : ℝ) * 2 ^ (e + f)) := by
            rw [exact_finite, exact_finite, ← signed_mul, zpow_add₀ two_ne_zero, Nat.cast_mul]
            congr 1
            ring
          rw [value]
          apply roundWithAccuracy_rounds
          · intro none
            exact absurd none (Nat.mul_pos positive other).ne'
          · exact .whole _
          · -- one full mantissa makes the product full
            apply le_targetExponent
            rcases left.normal with full | low
            · exact .inl (full.trans (Nat.le_mul_of_pos_right m other))
            · rcases right.normal with full | lowest
              · exact .inl (full.trans (Nat.le_mul_of_pos_left n positive))
              · right
                omega

/-- The remainder of a division tells what lies behind the quotient. -/
theorem describes_quotient (m : ℕ) {n : ℕ} (positive : 0 < n) :
    Describes (ExtendedMantissa.ofMantissaAndAccuracy (m / n) (accuracyOfFraction (m % n) n))
      (m / n) := by
  have size : (0 : ℝ) < n := by exact_mod_cast positive
  have split : (m : ℝ) / n = (m / n : ℕ) + ((m % n : ℕ) : ℝ) / n := by
    have whole : ((n * (m / n) + m % n : ℕ) : ℝ) = m := by rw [Nat.div_add_mod]
    rw [← whole]
    push_cast
    field_simp
  have rest : m % n < n := Nat.mod_lt m positive
  have below : ((m % n : ℕ) : ℝ) / n < 1 := by
    rw [div_lt_one size]
    exact_mod_cast rest
  rw [accuracyOfFraction, split]
  by_cases none : m % n = 0
  · rw [if_pos none, none, Nat.cast_zero, zero_div, add_zero]
    exact .whole _
  · rw [if_neg none]
    have rest : (0 : ℝ) < ((m % n : ℕ) : ℝ) := by exact_mod_cast Nat.pos_of_ne_zero none
    refine .inexact (lt_add_of_pos_right _ (div_pos rest size)) (by linarith) ?_
    rw [cmp_add_left]
    rcases lt_trichotomy (2 * (m % n)) n with less | equal | more
    · rw [compare_lt_iff_lt.mpr less, cmp_eq_lt_iff, div_lt_div_iff₀ size two_pos]
      have cast : 2 * ((m % n : ℕ) : ℝ) < n := by exact_mod_cast less
      linarith
    · rw [compare_eq_iff_eq.mpr equal, cmp_eq_eq_iff, div_eq_div_iff size.ne' two_ne_zero]
      have cast : 2 * ((m % n : ℕ) : ℝ) = n := by exact_mod_cast equal
      linarith
    · rw [compare_gt_iff_gt.mpr more, cmp_eq_gt_iff, div_lt_div_iff₀ two_pos size]
      have cast : (n : ℝ) < 2 * ((m % n : ℕ) : ℝ) := by exact_mod_cast more
      linarith

theorem Fits.log2_le {m : ℕ} {e : ℤ} (fits : Fits m e) : m.log2 ≤ 52 := by
  by_cases none : m = 0
  · rw [none]
    decide
  · have bound := (Nat.log2_lt none).mpr fits.mantissa_lt
    omega

theorem div_finite_rounds (s t : Sign) {m n : ℕ} {e f : ℤ} (positive : 0 < m) (other : 0 < n)
    (left : Fits m e) : Rounds (exact (.finite s m e positive) / exact (.finite t n f other))
      (UnpackedFloat.div Format.binary64 (.finite s m e positive) (.finite t n f other)) := by
  obtain ⟨r, lowered⟩ : ∃ r, r = min (e - f)
      (Format.binary64.targetExponent (totalExponent m e - totalExponent n f)) := ⟨_, rfl⟩
  have least : r = min (e - f) (max ((m.log2 : ℤ) + e - (n.log2 + f) - 53) (-1074)) := by
    rw [lowered]
    change min (e - f) (max ((m.log2 : ℤ) + 1 + e - (n.log2 + 1 + f) - 53) (3 - 2 ^ 10 - 53))
      = min (e - f) (max ((m.log2 : ℤ) + e - (n.log2 + f) - 53) (-1074))
    congr 2
    omega
  obtain ⟨k, shift⟩ : ∃ k, k = (e - f - r).toNat := ⟨_, rfl⟩
  have unfolded : UnpackedFloat.div Format.binary64 (.finite s m e positive)
      (.finite t n f other) = roundWithAccuracy Format.binary64 (s / t) ((m <<< k) / n) r
        (accuracyOfFraction ((m <<< k) % n) n) := by
    rw [shift, lowered]
    rfl
  have value : exact (.finite s m e positive) / exact (.finite t n f other) =
      signed (s / t) (((m <<< k : ℕ) : ℝ) / n * 2 ^ r) := by
    have powers : (2 : ℝ) ^ e / 2 ^ f = 2 ^ k * 2 ^ r := by
      rw [← zpow_sub₀ two_ne_zero, ← zpow_natCast, ← zpow_add₀ two_ne_zero]
      congr 1
      omega
    rw [exact_finite, exact_finite, ← signed_div, mul_div_mul_comm, powers,
      Nat.shiftLeft_eq, Nat.cast_mul, Nat.cast_pow, Nat.cast_ofNat]
    congr 1
    ring
  have digits := left.log2_le
  -- unless the exponent is the least one, the shift makes the quotient full
  have full : 2 ^ 52 ≤ (m <<< k) / n ∨ r ≤ -1074 := by
    by_cases low : r ≤ -1074
    · exact .inr low
    · left
      rw [Nat.le_div_iff_mul_le other]
      calc 2 ^ 52 * n ≤ 2 ^ 52 * 2 ^ (n.log2 + 1) :=
            Nat.mul_le_mul_left _ Nat.lt_log2_self.le
        _ = 2 ^ (52 + (n.log2 + 1)) := (pow_add _ _ _).symm
        _ ≤ m <<< k := two_pow_le_shiftLeft positive (by omega)
  rw [unfolded, value]
  apply roundWithAccuracy_rounds
  · intro none
    omega
  · exact describes_quotient _ other
  · exact le_targetExponent full

theorem div_rounds {u v : UnpackedFloat} (left : IsCanonical u) (right : IsCanonical v)
    (nonzero : exact v ≠ 0) : Rounds (exact u / exact v) (UnpackedFloat.div Format.binary64 u v) := by
  cases v with
  | infinity | notANumber => cases right
  | zero t => exact absurd rfl nonzero
  | finite t n f other =>
      cases u with
      | infinity | notANumber => cases left
      | zero s =>
          rw [exact_zero, zero_div]
          exact rounds_zero _
      | finite s m e positive => exact div_finite_rounds s t positive other left

/-- The remainder of a root tells what lies behind it. -/
theorem describes_root (m : ℕ) :
    Describes (ExtendedMantissa.ofMantissaAndAccuracy m.sqrt
      (if m - m.sqrt * m.sqrt = 0 then .exact
        else .inexact (if m - m.sqrt * m.sqrt ≤ m.sqrt then .lt else .gt))) (√m) := by
  have low : m.sqrt * m.sqrt ≤ m := Nat.sqrt_le m
  have high : m < (m.sqrt + 1) * (m.sqrt + 1) := Nat.lt_succ_sqrt m
  have nonneg : (0 : ℝ) ≤ m.sqrt := Nat.cast_nonneg _
  by_cases none : m - m.sqrt * m.sqrt = 0
  · have square : m = m.sqrt * m.sqrt := by omega
    have root : √(m : ℝ) = m.sqrt := by
      rw [Real.sqrt_eq_iff_mul_self_eq (Nat.cast_nonneg _) nonneg]
      exact_mod_cast square
    rw [if_pos none, root]
    exact .whole _
  · have above : (m.sqrt : ℝ) < √m := by
      rw [Real.lt_sqrt nonneg, pow_two]
      exact_mod_cast (by omega : m.sqrt * m.sqrt < m)
    have below : √(m : ℝ) < m.sqrt + 1 := by
      rw [Real.sqrt_lt' (by positivity), pow_two]
      exact_mod_cast high
    rw [if_neg none]
    refine .inexact above below ?_
    have square : ((m.sqrt : ℝ) + 1 / 2) ^ 2 = m.sqrt * m.sqrt + m.sqrt + 1 / 4 := by ring
    by_cases small : m - m.sqrt * m.sqrt ≤ m.sqrt
    · rw [if_pos small, cmp_eq_lt_iff, Real.sqrt_lt' (by positivity), square]
      have cast : (m : ℝ) ≤ m.sqrt * m.sqrt + m.sqrt := by
        exact_mod_cast (by omega : m ≤ m.sqrt * m.sqrt + m.sqrt)
      linarith
    · rw [if_neg small, cmp_eq_gt_iff, Real.lt_sqrt (by positivity), square]
      have cast : (m.sqrt : ℝ) * m.sqrt + m.sqrt + 1 ≤ m := by
        exact_mod_cast (by omega : m.sqrt * m.sqrt + m.sqrt + 1 ≤ m)
      linarith

theorem sqrt_finite_rounds {m : ℕ} {e : ℤ} (positive : 0 < m) (fits : Fits m e) :
    Rounds (√(exact (.finite .positive m e positive)))
      (UnpackedFloat.sqrt Format.binary64 (.finite .positive m e positive)) := by
  obtain ⟨r, lowered⟩ : ∃ r, r = min (e.ediv 2)
      (Format.binary64.targetExponent ((totalExponent m e + 1).ediv 2)) := ⟨_, rfl⟩
  have least : r = min (e / 2) (max (((m.log2 : ℤ) + 1 + e + 1) / 2 - 53) (-1074)) :=
    lowered
  obtain ⟨k, shift⟩ : ∃ k, k = (e - 2 * r).toNat := ⟨_, rfl⟩
  have unfolded : UnpackedFloat.sqrt Format.binary64 (.finite .positive m e positive) =
      roundWithAccuracy Format.binary64 .positive (m <<< k).sqrt r
        (if m <<< k - (m <<< k).sqrt * (m <<< k).sqrt = 0 then .exact
          else .inexact (if m <<< k - (m <<< k).sqrt * (m <<< k).sqrt ≤ (m <<< k).sqrt
            then .lt else .gt)) := by
    rw [shift, lowered]
    rfl
  have value : √(exact (.finite .positive m e positive)) =
      signed .positive (√((m <<< k : ℕ) : ℝ) * 2 ^ r) := by
    have square : (m : ℝ) * 2 ^ e = ((m <<< k : ℕ) : ℝ) * (2 ^ r) ^ 2 := by
      rw [Nat.shiftLeft_eq, Nat.cast_mul, Nat.cast_pow, Nat.cast_ofNat, mul_assoc,
        ← zpow_natCast, ← zpow_natCast, ← zpow_mul, ← zpow_add₀ two_ne_zero]
      congr 2
      omega
    rw [exact_finite, signed, signed, square, Real.sqrt_mul (Nat.cast_nonneg _),
      Real.sqrt_sq (by positivity)]
  have digits := fits.log2_le
  have full : 2 ^ 52 ≤ (m <<< k).sqrt ∨ r ≤ -1074 := by
    by_cases low : r ≤ -1074
    · exact .inr low
    · left
      rw [Nat.le_sqrt, ← pow_add]
      exact two_pow_le_shiftLeft positive (by omega)
  rw [unfolded, value]
  apply roundWithAccuracy_rounds
  · intro none
    omega
  · exact describes_root _
  · exact le_targetExponent full

theorem sqrt_rounds {u : UnpackedFloat} (canonical : IsCanonical u) (nonneg : 0 ≤ exact u) :
    Rounds (√(exact u)) (UnpackedFloat.sqrt Format.binary64 u) := by
  cases u with
  | infinity | notANumber => cases canonical
  | zero sign =>
      rw [exact_zero, Real.sqrt_zero]
      exact rounds_zero sign
  | finite sign m e positive =>
      cases sign with
      | negative =>
          have size : (0 : ℝ) < m * 2 ^ e := mul_pos (by exact_mod_cast positive) (by positivity)
          rw [exact_finite, signed] at nonneg
          linarith
      | positive => exact sqrt_finite_rounds positive canonical

/-! ## Comparisons -/

/-- Of two positive numbers in stored form, the exponents decide first. -/
theorem compare_fits {m n : ℕ} {e f : ℤ} (left : Fits m e) (right : Fits n f) :
    (compare e f).then (compare m n) = cmp ((m : ℝ) * 2 ^ e) (n * 2 ^ f) := by
  have apart {m n : ℕ} {e f : ℤ} (left : Fits m e) (right : Fits n f) (less : e < f) :
      (m : ℝ) * 2 ^ e < n * 2 ^ f := by
    have full : 2 ^ 52 ≤ n := right.normal.resolve_right (by have := left.le_exponent; omega)
    have top : (m : ℝ) < 2 ^ 53 := by exact_mod_cast left.mantissa_lt
    have bottom : (2 : ℝ) ^ 52 ≤ n := by exact_mod_cast full
    calc (m : ℝ) * 2 ^ e < 2 ^ 53 * 2 ^ e := mul_lt_mul_of_pos_right top (by positivity)
      _ = 2 ^ 52 * 2 ^ (e + 1) := by
          rw [zpow_add_one₀ two_ne_zero]
          ring
      _ ≤ n * 2 ^ f :=
          mul_le_mul bottom (zpow_le_zpow_right₀ one_le_two less) (by positivity) (by positivity)
  rcases lt_trichotomy e f with less | rfl | more
  · rw [compare_lt_iff_lt.mpr less, (cmp_eq_lt_iff _ _).mpr (apart left right less)]
    rfl
  · rw [compare_eq_iff_eq.mpr rfl, cmp_mul_pos_right (by positivity)]
    change compare m n = cmp (m : ℝ) n
    rcases lt_trichotomy m n with less | rfl | more
    · rw [compare_lt_iff_lt.mpr less, (cmp_eq_lt_iff _ _).mpr (by exact_mod_cast less)]
    · rw [compare_eq_iff_eq.mpr rfl, cmp_self_eq_eq]
    · rw [compare_gt_iff_gt.mpr more, (cmp_eq_gt_iff _ _).mpr (by exact_mod_cast more)]
  · rw [compare_gt_iff_gt.mpr more, (cmp_eq_gt_iff _ _).mpr (apart right left more)]
    rfl

theorem exact_pos {m : ℕ} (e : ℤ) (positive : 0 < m) : (0 : ℝ) < m * 2 ^ e :=
  mul_pos (by exact_mod_cast positive) (by positivity)

theorem cmp_neg (x y : ℝ) : cmp (-x) (-y) = cmp y x := by
  rw [← neg_one_mul x, ← neg_one_mul y, cmp_mul_neg_left (by norm_num)]

theorem compare_exact {u v : UnpackedFloat} (left : IsCanonical u) (right : IsCanonical v) :
    UnpackedFloat.compare u v = some (cmp (exact u) (exact v)) := by
  cases u with
  | infinity | notANumber => cases left
  | zero s =>
      cases v with
      | infinity | notANumber => cases right
      | zero t =>
          rw [exact_zero, exact_zero, cmp_self_eq_eq]
          rfl
      | finite t n f other =>
          have size := exact_pos f other
          rw [exact_zero, exact_finite]
          cases t with
          | negative =>
              rw [signed, (cmp_eq_gt_iff _ _).mpr (neg_neg_of_pos size)]
              rfl
          | positive =>
              rw [signed, (cmp_eq_lt_iff _ _).mpr size]
              rfl
  | finite s m e positive =>
      have size := exact_pos e positive
      cases v with
      | infinity | notANumber => cases right
      | zero t =>
          rw [exact_zero, exact_finite]
          cases s with
          | negative =>
              rw [signed, (cmp_eq_lt_iff _ _).mpr (neg_neg_of_pos size)]
              rfl
          | positive =>
              rw [signed, (cmp_eq_gt_iff _ _).mpr size]
              rfl
      | finite t n f other =>
          have size' := exact_pos f other
          rw [exact_finite, exact_finite]
          cases s with
          | negative =>
              cases t with
              | negative =>
                  have order := compare_fits left right
                  change some ((compare e f).then (compare m n)).swap = some (cmp (-_) (-_))
                  rw [order, cmp_neg, cmp_swap]
              | positive =>
                  rw [signed, signed, (cmp_eq_lt_iff _ _).mpr ((neg_neg_of_pos size).trans size')]
                  rfl
          | positive =>
              cases t with
              | negative =>
                  rw [signed, signed, (cmp_eq_gt_iff _ _).mpr ((neg_neg_of_pos size').trans size)]
                  rfl
              | positive => exact congrArg some (compare_fits left right)

theorem le_exact {u v : UnpackedFloat} (left : IsCanonical u) (right : IsCanonical v) :
    UnpackedFloat.le u v = true ↔ exact u ≤ exact v := by
  rw [UnpackedFloat.le, compare_exact left right, ← (cmp_compares _ _).ne_gt]
  cases cmp (exact u) (exact v) <;> simp [Ordering.isLE]

theorem lt_exact {u v : UnpackedFloat} (left : IsCanonical u) (right : IsCanonical v) :
    UnpackedFloat.lt u v = true ↔ exact u < exact v := by
  rw [UnpackedFloat.lt, compare_exact left right, ← cmp_eq_lt_iff]
  cases cmp (exact u) (exact v) <;> simp

end Double
end MotionControl
