import MotionControl.Decimal.Shortest
import MotionControl.Proofs.Decimal.Quotient

/-!
# Decimals as rational numbers

Different decimals may stand for one number.  The normal form picks one of them, so
that whatever is computed from it is a function of the number: above all, the double that
a decimal is read into.  The text of a finite double is one such decimal, and it is read
back into the double that it was made for.
-/

namespace MotionControl
namespace Decimal

/-- The number that a decimal stands for. -/
def value (d : Decimal) : ℚ :=
  d.coefficient * 10 ^ d.exponent

/-- No trailing zeros, and no exponent for zero itself. -/
def IsNormal (d : Decimal) : Prop :=
  d = ⟨0, 0⟩ ∨ d.coefficient % 10 ≠ 0

/-! ## Digits -/

theorem length_digits_pos (n : ℕ) : 0 < (digits n).length :=
  List.length_pos_iff.mpr Nat.toDigits_ne_nil

theorem digitCount_of_pos {n : ℕ} (positive : 0 < n) : digitCount n = (digits n).length :=
  if_neg positive.ne'

theorem lt_pow_digitCount (n : ℕ) : n < 10 ^ digitCount n := by
  rcases Nat.eq_zero_or_pos n with rfl | positive
  · exact Nat.one_pos
  · rw [digitCount_of_pos positive]
    exact (Nat.length_toDigits_le_iff (by norm_num) (length_digits_pos n)).mp le_rfl

/-- The first digit is not a zero. -/
theorem pow_le_of_digitCount {n : ℕ} (positive : 0 < n) : 10 ^ (digitCount n - 1) ≤ n := by
  rw [digitCount_of_pos positive]
  by_contra shorter
  rcases Nat.eq_zero_or_pos ((digits n).length - 1) with single | several
  · rw [single] at shorter
    omega
  · have fewer := (Nat.length_toDigits_le_iff (by norm_num) several).mpr (not_le.mp shorter)
    change (digits n).length ≤ (digits n).length - 1 at fewer
    omega

/-! ## The normal form -/

theorem value_stripZeros (fuel c : ℕ) (e : ℤ) : (stripZeros fuel c e).value = c * 10 ^ e := by
  induction fuel generalizing c e with
  | zero => rfl
  | succ fuel inductionHypothesis =>
      rw [stripZeros]
      split
      · rename_i zero
        obtain ⟨shorter, rfl⟩ : 10 ∣ c := Nat.dvd_of_mod_eq_zero zero
        rw [inductionHypothesis, Nat.mul_div_cancel_left _ (by norm_num),
          zpow_add_one₀ (by norm_num)]
        push_cast
        ring
      · rfl

theorem stripZeros_isNormal {fuel c : ℕ} (positive : 0 < c) (counted : c < 10 ^ fuel) (e : ℤ) :
    (stripZeros fuel c e).coefficient % 10 ≠ 0 := by
  induction fuel generalizing c e with
  | zero =>
      rw [pow_zero] at counted
      omega
  | succ fuel inductionHypothesis =>
      rw [stripZeros]
      split
      · rw [pow_succ] at counted
        exact inductionHypothesis (by omega) (by omega) _
      · assumption

theorem value_normalize (d : Decimal) : d.normalize.value = d.value := by
  rw [normalize]
  split
  · rename_i zero
    rw [value, value, zero]
    simp
  · exact value_stripZeros _ _ _

theorem normalize_isNormal (d : Decimal) : d.normalize.IsNormal := by
  rw [normalize]
  split
  · exact .inl rfl
  · rename_i nonzero
    exact .inr (stripZeros_isNormal (Nat.pos_of_ne_zero nonzero) (lt_pow_digitCount _) _)

theorem IsNormal.eq_zero {d : Decimal} (normal : d.IsNormal) (zero : d.coefficient = 0) :
    d = ⟨0, 0⟩ := by
  rcases normal with none | digit
  · exact none
  · rw [zero] at digit
    exact absurd rfl digit

theorem value_eq_zero_iff (d : Decimal) : d.value = 0 ↔ d.coefficient = 0 := by
  rw [value, mul_eq_zero, Nat.cast_eq_zero]
  exact or_iff_left (zpow_ne_zero _ (by norm_num))

/-- A higher exponent would leave zeros at the end of the other coefficient. -/
theorem exponent_le_of_value_eq {d d' : Decimal} (digit : d.coefficient % 10 ≠ 0)
    (same : d.value = d'.value) : d'.exponent ≤ d.exponent := by
  by_contra higher
  obtain ⟨steps, further⟩ : ∃ steps : ℕ, d'.exponent = d.exponent + (steps + 1 : ℕ) :=
    ⟨(d'.exponent - d.exponent - 1).toNat, by omega⟩
  have unit : (10 : ℚ) ^ d.exponent ≠ 0 := zpow_ne_zero _ (by norm_num)
  have multiple : (d.coefficient : ℚ) = (d'.coefficient * 10 ^ (steps + 1) : ℕ) := by
    apply mul_right_cancel₀ unit
    push_cast
    calc (d.coefficient : ℚ) * 10 ^ d.exponent = d'.coefficient * 10 ^ d'.exponent := same
      _ = d'.coefficient * 10 ^ (steps + 1) * 10 ^ d.exponent := by
          rw [further, zpow_add₀ (by norm_num), zpow_natCast]
          ring
  have counted := Nat.cast_injective multiple
  rw [counted, pow_succ, ← mul_assoc, Nat.mul_mod_left] at digit
  exact digit rfl

/-- A number has one normal form. -/
theorem IsNormal.eq_of_value_eq {d d' : Decimal} (normal : d.IsNormal) (normal' : d'.IsNormal)
    (same : d.value = d'.value) : d = d' := by
  by_cases zero : d.coefficient = 0
  · have zero' : d'.coefficient = 0 := by
      rwa [← value_eq_zero_iff, ← same, value_eq_zero_iff]
    rw [normal.eq_zero zero, normal'.eq_zero zero']
  · have nonzero : d'.coefficient ≠ 0 := by
      rwa [Ne, ← value_eq_zero_iff, ← same, value_eq_zero_iff]
    have digit : d.coefficient % 10 ≠ 0 := normal.resolve_left (by rintro rfl; exact zero rfl)
    have digit' : d'.coefficient % 10 ≠ 0 := normal'.resolve_left (by rintro rfl; exact nonzero rfl)
    have exponents : d.exponent = d'.exponent :=
      le_antisymm (exponent_le_of_value_eq digit' same.symm) (exponent_le_of_value_eq digit same)
    have coefficients : d.coefficient = d'.coefficient := by
      rw [value, value, exponents] at same
      exact_mod_cast mul_right_cancel₀ (zpow_ne_zero _ (by norm_num)) same
    cases d
    cases d'
    exact congrArg₂ mk coefficients exponents

theorem normalize_congr {d d' : Decimal} (same : d.value = d'.value) :
    d.normalize = d'.normalize :=
  (normalize_isNormal d).eq_of_value_eq (normalize_isNormal d')
    (by rw [value_normalize, value_normalize, same])

theorem IsNormal.normalize_eq {d : Decimal} (normal : d.IsNormal) : d.normalize = d :=
  (normalize_isNormal d).eq_of_value_eq normal (value_normalize d)

/-- The double that a decimal is read into depends on the number alone. -/
theorem toFloat_congr {d d' : Decimal} (same : d.value = d'.value) (negative : Bool) :
    d.toFloat negative = d'.toFloat negative := by
  rw [toFloat, toFloat, normalize_congr same]

/-! ## The nearest double -/

theorem value_fraction (d : Decimal) : d.fraction.value = d.value := by
  rw [fraction, Fraction.value_scale _ (by norm_num), Fraction.value_ofNat, value]
  norm_num

theorem fraction_isPositive {d : Decimal} (positive : 0 < d.coefficient) :
    d.fraction.IsPositive :=
  (Fraction.ofNat_isPositive positive).scale (by norm_num) d.exponent

/-- The place of the first digit of a number other than zero. -/
theorem value_bounds {d : Decimal} (positive : 0 < d.coefficient) :
    10 ^ (d.exponent + digitCount d.coefficient - 1) ≤ d.value ∧
      d.value < 10 ^ (d.exponent + digitCount d.coefficient) := by
  have unit : (0 : ℚ) < 10 ^ d.exponent := by positivity
  have counted : 0 < digitCount d.coefficient := by
    rw [digitCount_of_pos positive]
    exact length_digits_pos _
  constructor
  · have digits : ((10 ^ (digitCount d.coefficient - 1) : ℕ) : ℚ) ≤ d.coefficient :=
      Nat.cast_le.mpr (pow_le_of_digitCount positive)
    calc (10 : ℚ) ^ (d.exponent + digitCount d.coefficient - 1)
        = 10 ^ ((digitCount d.coefficient - 1 : ℕ) + d.exponent) := by
          congr 1
          omega
      _ = (10 ^ (digitCount d.coefficient - 1) : ℕ) * 10 ^ d.exponent := by
          rw [zpow_add₀ (by norm_num), zpow_natCast]
          norm_num
      _ ≤ d.value := mul_le_mul_of_nonneg_right digits unit.le
  · have digits : (d.coefficient : ℚ) < (10 ^ digitCount d.coefficient : ℕ) :=
      Nat.cast_lt.mpr (lt_pow_digitCount _)
    calc d.value < (10 ^ digitCount d.coefficient : ℕ) * 10 ^ d.exponent :=
          mul_lt_mul_of_pos_right digits unit
      _ = 10 ^ (d.exponent + digitCount d.coefficient) := by
          rw [zpow_add₀ (by norm_num), zpow_natCast, mul_comm]
          norm_num

/-- Within the range of doubles nothing is cut short. -/
theorem nearestBits_eq {d : Decimal} (positive : 0 < d.coefficient)
    (low : 10 ^ (-magnitudeBound) ≤ d.value) (high : d.value < 10 ^ magnitudeBound) :
    d.nearestBits = Binary64.nearestBits d.fraction := by
  have bounds := value_bounds positive
  have above := (zpow_lt_zpow_iff_right₀ (by norm_num : (1 : ℚ) < 10)).mp
    (bounds.1.trans_lt high)
  have below := (zpow_lt_zpow_iff_right₀ (by norm_num : (1 : ℚ) < 10)).mp
    (low.trans_lt bounds.2)
  rw [nearestBits, if_neg positive.ne', if_neg (by omega), if_neg (by omega)]

/-! ## The text of a double -/

/-- A normal form with the given bits. -/
structure IsReadAs (d : Decimal) (bits : ℕ) : Prop where
  normal : d.IsNormal
  nearestBits : d.nearestBits = bits

theorem onGrid?_isReadAs {bits : ℕ} {q : Fraction} {exponent : ℤ} {d : Decimal}
    (found : onGrid? bits q exponent = some d) : d.IsReadAs bits := by
  rw [onGrid?] at found
  split at found
  · rename_i belowReads
    cases found
    exact ⟨normalize_isNormal _, beq_iff_eq.mp (Bool.and_eq_true_iff.mp belowReads).1⟩
  · split at found
    · rename_i aboveReads
      cases found
      exact ⟨normalize_isNormal _, beq_iff_eq.mp aboveReads⟩
    · cases found

theorem value_exact (mantissa : ℕ) (exponent : ℤ) :
    (exact mantissa exponent).value = mantissa * 2 ^ exponent := by
  have raised (base n : ℕ) : ((Nat.pow base n : ℕ) : ℚ) = (base : ℚ) ^ n := Nat.cast_pow base n
  rw [exact]
  split
  · rename_i nonneg
    obtain ⟨n, rfl⟩ := Int.eq_ofNat_of_zero_le nonneg
    rw [value_normalize, value, Int.toNat_natCast, Nat.cast_mul, raised, zpow_zero, mul_one,
      zpow_natCast, Nat.cast_ofNat]
  · rename_i negative
    obtain ⟨n, rfl⟩ : ∃ n : ℕ, exponent = -n := ⟨(-exponent).toNat, by omega⟩
    have fives : (5 : ℚ) ^ n * 10 ^ (-(n : ℤ)) = 2 ^ (-(n : ℤ)) := by
      rw [zpow_neg, zpow_neg, zpow_natCast, zpow_natCast, ← div_eq_mul_inv, ← div_pow, ← inv_pow]
      norm_num
    rw [value_normalize, value, neg_neg, Int.toNat_natCast, Nat.cast_mul, raised, mul_assoc,
      Nat.cast_ofNat, fives]

theorem two_zpow_lt {n : ℤ} (bounded : n ≤ 1200) : (2 : ℚ) ^ n < 10 ^ magnitudeBound :=
  calc (2 : ℚ) ^ n ≤ 2 ^ (3 * magnitudeBound) := zpow_le_zpow_right₀ one_le_two bounded
    _ = 8 ^ magnitudeBound := by
        rw [zpow_mul]
        norm_num
    _ < 10 ^ magnitudeBound :=
        zpow_lt_zpow_left₀ (by decide) (by norm_num) (by norm_num)

/-- Whatever is stored in a double lies within the bounds of the reader. -/
theorem magnitude_bounds {mantissa : ℕ} {exponent : ℤ} (positive : 0 < mantissa)
    (fits : Double.Fits mantissa exponent) (bounded : exponent ≤ Double.maxExponent) :
    (10 : ℚ) ^ (-magnitudeBound) ≤ mantissa * 2 ^ exponent ∧
      (mantissa : ℚ) * 2 ^ exponent < 10 ^ magnitudeBound := by
  have unit : (0 : ℚ) < 2 ^ exponent := by positivity
  have counted : (1 : ℚ) ≤ mantissa := by exact_mod_cast positive
  have digits : (mantissa : ℚ) < 2 ^ (53 : ℤ) := by exact_mod_cast fits.mantissa_lt
  constructor
  · calc (10 : ℚ) ^ (-magnitudeBound) ≤ 2 ^ (-1074 : ℤ) := by
          rw [zpow_neg, zpow_neg]
          exact inv_anti₀ (by positivity) (two_zpow_lt (by norm_num)).le
      _ ≤ 2 ^ exponent := zpow_le_zpow_right₀ one_le_two fits.le_exponent
      _ ≤ mantissa * 2 ^ exponent := le_mul_of_one_le_left unit.le counted
  · calc (mantissa : ℚ) * 2 ^ exponent < 2 ^ (53 : ℤ) * 2 ^ exponent :=
          mul_lt_mul_of_pos_right digits unit
      _ ≤ 2 ^ (53 : ℤ) * 2 ^ (971 : ℤ) :=
          mul_le_mul_of_nonneg_left (zpow_le_zpow_right₀ one_le_two bounded) (by positivity)
      _ = 2 ^ (1024 : ℤ) := by rw [← zpow_add₀ two_ne_zero]; norm_num
      _ < 10 ^ magnitudeBound := two_zpow_lt (by norm_num)

theorem exact_isNormal (mantissa : ℕ) (exponent : ℤ) : (exact mantissa exponent).IsNormal := by
  rw [exact]
  split
  · exact normalize_isNormal _
  · exact normalize_isNormal _

/-- The exact expansion is read back. -/
theorem exact_isReadAs {mantissa : ℕ} {exponent : ℤ} (positive : 0 < mantissa)
    (fits : Double.Fits mantissa exponent) (bounded : exponent ≤ Double.maxExponent) :
    (exact mantissa exponent).IsReadAs
      (Binary64.nearestBits (Binary64.magnitude mantissa exponent)) := by
  refine ⟨exact_isNormal mantissa exponent, ?_⟩
  have same := value_exact mantissa exponent
  have nonzero : 0 < (exact mantissa exponent).coefficient := by
    refine Nat.pos_of_ne_zero fun zero => ?_
    rw [← value_eq_zero_iff, same] at zero
    have unit : (0 : ℚ) < 2 ^ exponent := by positivity
    exact (mul_pos (Nat.cast_pos.mpr positive) unit).ne' zero
  have bounds := magnitude_bounds positive fits bounded
  rw [← same] at bounds
  rw [nearestBits_eq nonzero bounds.1 bounds.2]
  refine Binary64.nearestBits_congr (fraction_isPositive nonzero)
    (Binary64.magnitude_isPositive positive exponent) ?_
  rw [value_fraction, same, Binary64.value_magnitude]

/-- The shortest decimal has the bits of the double it was made for. -/
theorem shortest_isReadAs {mantissa : ℕ} {exponent : ℤ} (fits : Double.Fits mantissa exponent)
    (bounded : exponent ≤ Double.maxExponent) :
    (shortest mantissa exponent).IsReadAs (Double.magnitudeBits mantissa exponent) := by
  rw [shortest]
  split
  · rename_i zero
    have least : exponent = -1074 := fits.normal.resolve_left (by rw [zero]; norm_num)
    rw [zero, least]
    exact ⟨.inl rfl, rfl⟩
  · rename_i nonzero
    have positive := Nat.pos_of_ne_zero nonzero
    rw [← Binary64.nearestBits_magnitude positive fits bounded]
    have either {found : Option Decimal} {bits : ℕ} (onGrid : ∀ d ∈ found, d.IsReadAs bits)
        (last : (exact mantissa exponent).IsReadAs bits) :
        (found.getD (exact mantissa exponent)).IsReadAs bits := by
      cases found with
      | none => exact last
      | some d => exact onGrid d rfl
    refine either (fun d found => ?_) (exact_isReadAs positive fits bounded)
    obtain ⟨n, _, reads⟩ := List.exists_of_findSome?_eq_some found
    exact onGrid?_isReadAs reads

/-- A finite double is what its own shortest decimal is read into. -/
theorem exists_toFloat_shortest {x : Float} (finite : x.isFinite = true) :
    ∃ negative mantissa exponent, Binary64.ofFloat x = .finite negative mantissa exponent ∧
      (shortest mantissa exponent).IsNormal ∧
      (shortest mantissa exponent).toFloat negative = x := by
  obtain ⟨negative, mantissa, exponent, stored, fits, bounded, restored⟩ :=
    Double.exists_ofFloat_eq finite
  have reads := shortest_isReadAs fits bounded
  refine ⟨negative, mantissa, exponent, stored, reads.normal, ?_⟩
  rw [toFloat, reads.normal.normalize_eq, reads.nearestBits, restored]

end Decimal
end MotionControl
