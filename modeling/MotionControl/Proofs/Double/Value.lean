import MotionControl.Proofs.Double.Operations
import MotionControl.Proofs.Scalar.Rounded
import MotionControl.Scalar.Double

/-!
# The value of a double

A finite double stands for a real number.  An operation on finite doubles returns a
number nearest to the exact result, or an infinity once that is too large; and it
never returns a finite double if an operand is not one, with the exception of a
quotient by an infinity.
-/

namespace MotionControl
namespace Double

open Float.Model

/-- The number that a finite double stands for; zero for the rest. -/
noncomputable def value (x : Float) : ℝ :=
  exact x.toModel.unpack

/-! ## Packing -/

theorem isCanonical_of_isFinite {x : Float} (finite : x.isFinite = true) :
    IsCanonical x.toModel.unpack := by
  change x.toModel.unpack.isFinite = true at finite
  cases read : x.toModel.unpack with
  | finite sign m e positive => exact (fits_of_unpack read).1
  | zero sign => trivial
  | infinity | notANumber =>
      rw [read] at finite
      cases finite

theorem value_representable (x : Float) : Representable (value x) := by
  rw [value]
  cases read : x.toModel.unpack with
  | finite sign m e positive => exact representable_of_fits sign (fits_of_unpack read).1
  | zero | infinity | notANumber => exact .zero

theorem two_zpow_top : (2 : ℝ) ^ (1024 : ℤ) = 2 ^ 53 * 2 ^ (971 : ℤ) := by
  rw [← zpow_natCast, ← zpow_add₀ two_ne_zero]
  norm_num

/-- The largest finite double, one digit below the power of two. -/
theorem Fits.magnitude_le {m : ℕ} {e : ℤ} (fits : Fits m e) (bounded : e ≤ maxExponent) :
    (m : ℝ) * 2 ^ e ≤ 2 ^ (1024 : ℤ) - 2 ^ (971 : ℤ) := by
  have digits : (m : ℝ) ≤ 2 ^ 53 - 1 := by
    have whole : m + 1 ≤ 2 ^ 53 := fits.mantissa_lt
    have cast : (m : ℝ) + 1 ≤ 2 ^ 53 := by exact_mod_cast whole
    linarith
  calc (m : ℝ) * 2 ^ e ≤ (2 ^ 53 - 1) * 2 ^ (971 : ℤ) :=
        mul_le_mul digits (zpow_le_zpow_right₀ one_le_two bounded) (by positivity) (by norm_num)
    _ = 2 ^ (1024 : ℤ) - 2 ^ (971 : ℤ) := by rw [two_zpow_top, sub_mul, one_mul]

theorem Fits.le_magnitude {m : ℕ} {e : ℤ} (fits : Fits m e) (unbounded : ¬ e ≤ maxExponent) :
    (2 : ℝ) ^ (1024 : ℤ) ≤ m * 2 ^ e := by
  rw [maxExponent] at unbounded
  have full : 2 ^ 52 ≤ m := fits.normal.resolve_right (by omega)
  have digits : (2 : ℝ) ^ (52 : ℤ) ≤ m := by exact_mod_cast full
  calc (2 : ℝ) ^ (1024 : ℤ) = 2 ^ (52 : ℤ) * 2 ^ (972 : ℤ) := by
        rw [← zpow_add₀ two_ne_zero]
        norm_num
    _ ≤ m * 2 ^ e :=
        mul_le_mul digits (zpow_le_zpow_right₀ one_le_two (by omega)) (by positivity)
          (by positivity)

theorem abs_exact_finite (sign : UnpackedFloat.Sign) {m : ℕ} (e : ℤ) (positive : 0 < m) :
    |exact (.finite sign m e positive)| = m * 2 ^ e := by
  rw [exact_finite, signed_abs, abs_of_pos (exact_pos e positive)]

theorem abs_value_le_largest (a : Float) : |value a| ≤ 2 ^ (1024 : ℤ) - 2 ^ (971 : ℤ) := by
  rw [value]
  cases read : a.toModel.unpack with
  | finite sign m e positive =>
      rcases fits_of_unpack read with ⟨fits, bounded⟩
      rw [abs_exact_finite]
      exact fits.magnitude_le bounded
  | zero | infinity | notANumber =>
      change |(0 : ℝ)| ≤ 2 ^ (1024 : ℤ) - 2 ^ (971 : ℤ)
      rw [abs_zero, sub_nonneg]
      exact zpow_le_zpow_right₀ one_le_two (by norm_num)

theorem abs_value_le (a : Float) : |value a| ≤ 2 ^ (1024 : ℤ) :=
  (abs_value_le_largest a).trans (sub_le_self _ (by positivity))

theorem unpack_pack_zero (sign : UnpackedFloat.Sign) :
    (Float.Model.pack (.zero sign)).unpack = .zero sign := by
  cases sign <;> rfl

theorem unpack_pack_infinity (sign : UnpackedFloat.Sign) :
    (Float.Model.pack (.infinity sign)).unpack = .infinity sign := by
  change UnpackedFloat.unpack Format.binary64
    (UnpackedFloat.packComponents Format.binary64 sign (-1#11) 0#52) = _
  rw [unpack_packComponents, ofFields, if_pos rfl, if_pos rfl]

/-- Packing turns nothing into a finite double that was not finite before. -/
theorem isFinite_of_pack {u : UnpackedFloat}
    (finite : (Float.ofModel (Float.Model.pack u)).isFinite = true) : u.isFinite = true := by
  cases u with
  | finite | zero => rfl
  | notANumber => exact finite
  | infinity sign => cases sign <;> exact finite

/-- A number in canonical form is packed as it is, or as an infinity. -/
theorem unpack_pack_canonical {u : UnpackedFloat} (canonical : IsCanonical u) :
    ((Float.ofModel (Float.Model.pack u)).isFinite = true ∧
        value (Float.ofModel (Float.Model.pack u)) = exact u ∧
        |exact u| ≤ 2 ^ (1024 : ℤ) - 2 ^ (971 : ℤ)) ∨
      ((Float.ofModel (Float.Model.pack u)).isFinite = false ∧ 2 ^ (1024 : ℤ) ≤ |exact u|) := by
  cases u with
  | infinity | notANumber => cases canonical
  | zero sign =>
      have read := unpack_pack_zero sign
      have kept : value (Float.ofModel (Float.Model.pack (.zero sign))) = exact (.zero sign) := by
        rw [value, read]
      refine .inl ⟨?_, kept, kept ▸ abs_value_le_largest _⟩
      change (Float.Model.pack (.zero sign)).unpack.isFinite = true
      rw [read]
      rfl
  | finite sign m e positive =>
      have read := unpack_pack sign positive canonical
      by_cases bounded : e ≤ maxExponent
      · rw [if_pos bounded] at read
        have kept : value (Float.ofModel (Float.Model.pack (.finite sign m e positive))) =
            exact (.finite sign m e positive) := by
          rw [value, read]
        refine .inl ⟨?_, kept, kept ▸ abs_value_le_largest _⟩
        change (Float.Model.pack (.finite sign m e positive)).unpack.isFinite = true
        rw [read]
        rfl
      · rw [if_neg bounded] at read
        refine .inr ⟨?_, ?_⟩
        · change (Float.Model.pack (.finite sign m e positive)).unpack.isFinite = false
          rw [read]
          rfl
        · rw [abs_exact_finite]
          exact canonical.le_magnitude bounded

theorem isFinite_pack_iff {u : UnpackedFloat} (canonical : IsCanonical u) :
    (Float.ofModel (Float.Model.pack u)).isFinite = true ↔ |exact u| < 2 ^ (1024 : ℤ) := by
  rcases unpack_pack_canonical canonical with ⟨finite, -, below⟩ | ⟨infinite, above⟩
  · exact iff_of_true finite (below.trans_lt (sub_lt_self _ (by positivity)))
  · exact iff_of_false (Bool.eq_false_iff.mp infinite) above.not_gt

theorem Rounds.approximates {x : ℝ} {u : UnpackedFloat} (rounds : Rounds x u) :
    Approximates x (Float.ofModel (Float.Model.pack u)).isFinite
      (value (Float.ofModel (Float.Model.pack u))) := by
  rcases rounds with ⟨canonical, nearest⟩
  constructor
  · intro finite
    rcases unpack_pack_canonical canonical with ⟨-, kept, -⟩ | ⟨infinite, -⟩
    · rw [kept]
      exact nearest
    · exact absurd finite (Bool.eq_false_iff.mp infinite)
  · intro small
    refine (isFinite_pack_iff canonical).mpr ?_
    exact (nearest.magnitude_le (.zpow (by norm_num : (-1074 : ℤ) ≤ 1023)) small).trans_lt
      (zpow_lt_zpow_right₀ one_lt_two (by norm_num))

/-! ## Operations -/

section Operations

variable {a b : Float}

theorem add_approximates (left : a.isFinite = true) (right : b.isFinite = true) :
    Approximates (value a + value b) (a + b).isFinite (value (a + b)) :=
  (add_rounds (isCanonical_of_isFinite left) (isCanonical_of_isFinite right)).approximates

theorem sub_approximates (left : a.isFinite = true) (right : b.isFinite = true) :
    Approximates (value a - value b) (a - b).isFinite (value (a - b)) :=
  (sub_rounds (isCanonical_of_isFinite left) (isCanonical_of_isFinite right)).approximates

theorem mul_approximates (left : a.isFinite = true) (right : b.isFinite = true) :
    Approximates (value a * value b) (a * b).isFinite (value (a * b)) :=
  (mul_rounds (isCanonical_of_isFinite left) (isCanonical_of_isFinite right)).approximates

theorem div_approximates (left : a.isFinite = true) (right : b.isFinite = true)
    (nonzero : value b ≠ 0) : Approximates (value a / value b) (a / b).isFinite (value (a / b)) :=
  (div_rounds (isCanonical_of_isFinite left) (isCanonical_of_isFinite right) nonzero).approximates

theorem sqrt_approximates (finite : a.isFinite = true) (nonneg : 0 ≤ value a) :
    Approximates (√(value a)) a.sqrt.isFinite (value a.sqrt) :=
  (sqrt_rounds (isCanonical_of_isFinite finite) nonneg).approximates

/-- What was read is read back with either sign. -/
theorem unpack_pack_of_unpack {x : Float.Model} {sign : UnpackedFloat.Sign} {m : ℕ} {e : ℤ}
    {positive : 0 < m} (read : x.unpack = .finite sign m e positive)
    (other : UnpackedFloat.Sign) :
    (Float.Model.pack (.finite other m e positive)).unpack = .finite other m e positive := by
  rcases fits_of_unpack read with ⟨fits, bounded⟩
  rw [unpack_pack _ _ fits, if_pos bounded]

theorem unpack_neg (a : Float) : (-a).toModel.unpack = a.toModel.unpack.neg := by
  change (Float.Model.pack a.toModel.unpack.neg).unpack = a.toModel.unpack.neg
  cases read : a.toModel.unpack with
  | finite sign m e positive => exact unpack_pack_of_unpack read (-sign)
  | zero sign => exact unpack_pack_zero (-sign)
  | infinity sign => exact unpack_pack_infinity (-sign)
  | notANumber => rfl

theorem unpack_abs (a : Float) : a.abs.toModel.unpack = a.toModel.unpack.abs := by
  change (Float.Model.pack a.toModel.unpack.abs).unpack = a.toModel.unpack.abs
  cases read : a.toModel.unpack with
  | finite sign m e positive => exact unpack_pack_of_unpack read .positive
  | zero sign => exact unpack_pack_zero .positive
  | infinity sign => exact unpack_pack_infinity .positive
  | notANumber => rfl

theorem isFinite_neg (a : Float) : (-a).isFinite = a.isFinite := by
  change (-a).toModel.unpack.isFinite = a.toModel.unpack.isFinite
  rw [unpack_neg]
  cases a.toModel.unpack <;> rfl

theorem value_neg (a : Float) : value (-a) = -value a := by
  rw [value, unpack_neg, exact_neg, value]

theorem isFinite_abs (a : Float) : a.abs.isFinite = a.isFinite := by
  change a.abs.toModel.unpack.isFinite = a.toModel.unpack.isFinite
  rw [unpack_abs]
  cases a.toModel.unpack <;> rfl

theorem exact_abs (u : UnpackedFloat) : exact u.abs = |exact u| := by
  cases u with
  | finite sign m e positive => exact (abs_exact_finite sign e positive).symm
  | infinity | notANumber | zero => exact abs_zero.symm

theorem value_abs (a : Float) : value a.abs = |value a| := by
  rw [value, unpack_abs, exact_abs, value]

theorem le_iff (left : a.isFinite = true) (right : b.isFinite = true) :
    a ≤ b ↔ value a ≤ value b :=
  decide_eq_true_iff.trans
    (le_exact (isCanonical_of_isFinite left) (isCanonical_of_isFinite right))

theorem lt_iff (left : a.isFinite = true) (right : b.isFinite = true) :
    a < b ↔ value a < value b :=
  decide_eq_true_iff.trans
    (lt_exact (isCanonical_of_isFinite left) (isCanonical_of_isFinite right))

/-! ## Whole numbers -/

theorem unpack_one : (Float.ofBits 0x3FF0000000000000).toModel.unpack =
    .finite .positive (2 ^ 52) (-52) (Nat.two_pow_pos 52) := by
  rfl

/-- A whole number of 53 digits is converted as it is and multiplied by one. -/
theorem ofNat_of_lt {n : ℕ} (small : n < 2 ^ 53) :
    Float.ofNat n = n.toUInt64.toFloat * Float.ofBits 0x3FF0000000000000 := by
  change Float.ofScientific n false 0 = _
  rw [Float.ofScientific, dif_pos ⟨small, by norm_num⟩]
  rfl

theorem ofNat_eq {n : ℕ} (small : n < 2 ^ 53) :
    (Float.ofNat n).isFinite = true ∧ value (Float.ofNat n) = n := by
  have kept : n.toUInt64.toNat = n := UInt64.toNat_ofNat_of_lt (by rw [UInt64.size]; omega)
  have converted : Approximates n n.toUInt64.toFloat.isFinite (value n.toUInt64.toFloat) := by
    have rounded : Approximates n.toUInt64.toNat n.toUInt64.toFloat.isFinite
        (value n.toUInt64.toFloat) :=
      (ofNat_rounds n.toUInt64.toNat).approximates
    rwa [kept] at rounded
  have representable : Representable n := by
    have whole := @Representable.of_int n (by rw [Nat.abs_cast]; exact_mod_cast small.le)
    exact_mod_cast whole
  have bound : |(n : ℝ)| ≤ 2 ^ (1023 : ℤ) := by
    rw [Nat.abs_cast]
    calc (n : ℝ) ≤ 2 ^ (53 : ℤ) := by exact_mod_cast small.le
      _ ≤ 2 ^ (1023 : ℤ) := zpow_le_zpow_right₀ one_le_two (by norm_num)
  have finite := converted.isFinite bound
  have one : value (Float.ofBits 0x3FF0000000000000) = 1 := by
    rw [value, unpack_one, exact_finite, signed]
    norm_num
  have product := mul_approximates finite (by decide :
    (Float.ofBits 0x3FF0000000000000).isFinite = true)
  rw [one, mul_one, (converted.isNearest finite).eq representable, ← ofNat_of_lt small] at product
  exact ⟨product.isFinite bound, (product.isNearest (product.isFinite bound)).eq representable⟩

/-! ## Operands of finite results -/

theorem isFinite_of_add (finite : (a + b).isFinite = true) :
    a.isFinite = true ∧ b.isFinite = true := by
  have unpacked := isFinite_of_pack finite
  change a.toModel.unpack.isFinite = true ∧ b.toModel.unpack.isFinite = true
  revert unpacked
  generalize a.toModel.unpack = u
  generalize b.toModel.unpack = v
  intro unpacked
  cases u with
  | notANumber => cases unpacked
  | infinity s =>
      cases v with
      | infinity t => cases s <;> cases t <;> cases unpacked
      | notANumber | zero | finite => cases unpacked
  | zero | finite =>
      cases v with
      | infinity | notANumber => cases unpacked
      | zero | finite => exact ⟨rfl, rfl⟩

theorem isFinite_of_mul (finite : (a * b).isFinite = true) :
    a.isFinite = true ∧ b.isFinite = true := by
  have unpacked := isFinite_of_pack finite
  change a.toModel.unpack.isFinite = true ∧ b.toModel.unpack.isFinite = true
  revert unpacked
  generalize a.toModel.unpack = u
  generalize b.toModel.unpack = v
  intro unpacked
  cases u with
  | notANumber => cases unpacked
  | infinity s => cases v <;> cases unpacked
  | zero | finite =>
      cases v with
      | infinity | notANumber => cases unpacked
      | zero | finite => exact ⟨rfl, rfl⟩

/-- A finite quotient has a finite dividend; the divisor may be an infinity, and then the
quotient is zero. -/
theorem isFinite_of_div (finite : (a / b).isFinite = true) :
    a.isFinite = true ∧
      ((b.isFinite = true ∧ value b ≠ 0) ∨ (b.isFinite = false ∧ value (a / b) = 0)) := by
  have unpacked := isFinite_of_pack finite
  change a.toModel.unpack.isFinite = true ∧
    ((b.toModel.unpack.isFinite = true ∧ exact b.toModel.unpack ≠ 0) ∨
      (b.toModel.unpack.isFinite = false ∧
        exact (Float.Model.pack (UnpackedFloat.div Format.binary64 a.toModel.unpack
          b.toModel.unpack)).unpack = 0))
  revert unpacked
  generalize a.toModel.unpack = u
  generalize b.toModel.unpack = v
  intro unpacked
  cases v with
  | notANumber => cases u <;> cases unpacked
  | infinity t =>
      cases u with
      | infinity | notANumber => cases unpacked
      | zero | finite =>
          refine ⟨rfl, .inr ⟨rfl, ?_⟩⟩
          change exact (Float.Model.pack (.zero _)).unpack = 0
          rw [unpack_pack_zero, exact_zero]
  | zero t => cases u <;> cases unpacked
  | finite t n f other =>
      cases u with
      | infinity | notANumber => cases unpacked
      | zero | finite =>
          refine ⟨rfl, .inl ⟨rfl, ?_⟩⟩
          rw [exact_finite, ← abs_pos, signed_abs, abs_pos]
          exact (exact_pos f other).ne'

/-- A finite root is one of a finite number that is not negative. -/
theorem isFinite_of_sqrt (finite : a.sqrt.isFinite = true) :
    a.isFinite = true ∧ 0 ≤ value a := by
  have unpacked := isFinite_of_pack finite
  change a.toModel.unpack.isFinite = true ∧ 0 ≤ exact a.toModel.unpack
  revert unpacked
  generalize a.toModel.unpack = u
  intro unpacked
  cases u with
  | notANumber => cases unpacked
  | infinity s => cases s <;> cases unpacked
  | zero s => exact ⟨rfl, le_refl _⟩
  | finite s m e positive =>
      cases s with
      | negative => cases unpacked
      | positive => exact ⟨rfl, (exact_pos e positive).le⟩

theorem not_isNaN (finite : a.isFinite = true) : a.isNaN = false := by
  change a.toModel.unpack.isFinite = true at finite
  change a.toModel.unpack.isNaN = false
  cases read : a.toModel.unpack with
  | notANumber =>
      rw [read] at finite
      cases finite
  | infinity | zero | finite => rfl

end Operations

end Double
end MotionControl
