import MotionControl.Proofs.Double.Value

/-!
# Infinities

Sums, differences and products of finite doubles are always numbers: what is too large
becomes the infinity of its sign.  An infinity is a number too, above all others, and it
is only with an infinity as operand that a product can cease to be one: the other operand
then is zero.
-/

namespace MotionControl
namespace Double

open Float.Model Float.Model.UnpackedFloat

/-- The infinity, which is not finite and not negative. -/
def IsInfinite (a : Float) : Prop :=
  a.isFinite = false ∧ 0 ≤ a

variable {a b : Float}

theorem isInfinite_iff : IsInfinite a ↔ a.toModel.unpack = .infinity .positive := by
  have order : 0 ≤ a ↔ (UnpackedFloat.zero .positive).le a.toModel.unpack = true :=
    decide_eq_true_iff
  rw [IsInfinite, order]
  change a.toModel.unpack.isFinite = false ∧ _ ↔ _
  constructor
  · rintro ⟨overflowed, nonneg⟩
    generalize a.toModel.unpack = u at overflowed nonneg ⊢
    cases u with
    | zero | finite => cases overflowed
    | notANumber => cases nonneg
    | infinity sign =>
        cases sign with
        | negative => cases nonneg
        | positive => rfl
  · intro read
    rw [read]
    exact ⟨rfl, rfl⟩

/-! ## Results -/

theorem isNaN_pack (u : UnpackedFloat) :
    (Float.ofModel (Float.Model.pack u)).isNaN = (Float.Model.pack u).unpack.isNaN :=
  rfl

/-- A number in canonical form is packed as it is, or as the infinity of its sign. -/
theorem unpack_pack_sign {u : UnpackedFloat} (canonical : IsCanonical u) :
    (Float.Model.pack u).unpack = u ∨
      ∃ sign, (Float.Model.pack u).unpack = .infinity sign ∧ 0 < signed sign (exact u) := by
  cases u with
  | infinity | notANumber => cases canonical
  | zero sign => exact .inl (unpack_pack_zero sign)
  | finite sign m e positive =>
      have read := unpack_pack sign positive canonical
      by_cases bounded : e ≤ maxExponent
      · rw [if_pos bounded] at read
        exact .inl read
      · rw [if_neg bounded] at read
        refine .inr ⟨sign, read, ?_⟩
        have size := exact_pos e positive
        rw [exact_finite]
        cases sign with
        | positive => exact size
        | negative =>
            rw [signed, signed, neg_neg]
            exact size

theorem not_isNaN_of_canonical {u : UnpackedFloat} (canonical : IsCanonical u) :
    (Float.ofModel (Float.Model.pack u)).isNaN = false := by
  rw [isNaN_pack]
  rcases unpack_pack_sign canonical with kept | ⟨sign, overflowed, -⟩
  · rw [kept]
    cases u with
    | notANumber => cases canonical
    | infinity | zero | finite => rfl
  · rw [overflowed]
    rfl

theorem not_isNaN_sub (left : a.isFinite = true) (right : b.isFinite = true) :
    (a - b).isNaN = false :=
  not_isNaN_of_canonical
    (sub_rounds (isCanonical_of_isFinite left) (isCanonical_of_isFinite right)).canonical

theorem not_isNaN_mul (left : a.isFinite = true) (right : b.isFinite = true) :
    (a * b).isNaN = false :=
  not_isNaN_of_canonical
    (mul_rounds (isCanonical_of_isFinite left) (isCanonical_of_isFinite right)).canonical

/-- A product that overflows has the sign of its exact value. -/
theorem isInfinite_mul (left : a.isFinite = true) (right : b.isFinite = true)
    (nonneg : 0 ≤ value a * value b) (overflow : (a * b).isFinite = false) :
    IsInfinite (a * b) := by
  rcases mul_rounds (isCanonical_of_isFinite left) (isCanonical_of_isFinite right) with
    ⟨canonical, nearest⟩
  have above := nearest.ge .zero nonneg
  rw [isInfinite_iff]
  change (Float.Model.pack _).unpack.isFinite = false at overflow
  change (Float.Model.pack _).unpack = _
  rcases unpack_pack_sign canonical with kept | ⟨sign, overflowed, positive⟩
  · -- a result that is stored as it is cannot have overflowed
    rw [kept] at overflow
    generalize UnpackedFloat.mul Format.binary64 _ _ = u at canonical overflow
    cases u with
    | infinity | notANumber => cases canonical
    | zero | finite => cases overflow
  · cases sign with
    | positive => exact overflowed
    | negative =>
        rw [signed] at positive
        linarith

/-! ## Operands -/

theorem not_isNaN_of_isInfinite (infinite : IsInfinite a) : a.isNaN = false := by
  change a.toModel.unpack.isNaN = false
  rw [isInfinite_iff.mp infinite]
  rfl

/-- A number that is not finite has an infinite magnitude. -/
theorem isInfinite_abs (number : a.isNaN = false) (infinite : a.isFinite = false) :
    IsInfinite a.abs := by
  rw [isInfinite_iff, unpack_abs]
  change a.toModel.unpack.isNaN = false at number
  change a.toModel.unpack.isFinite = false at infinite
  generalize a.toModel.unpack = u at number infinite ⊢
  cases u with
  | infinity => rfl
  | notANumber => cases number
  | zero | finite => cases infinite

/-- An infinity times a finite number. -/
theorem isNaN_mul_infinite (finite : a.isFinite = true) (infinite : IsInfinite b) :
    (a * b).isNaN = true ↔ value a = 0 := by
  rw [isInfinite_iff] at infinite
  change a.toModel.unpack.isFinite = true at finite
  change (Float.Model.pack (UnpackedFloat.mul Format.binary64 a.toModel.unpack
    b.toModel.unpack)).unpack.isNaN = true ↔ exact a.toModel.unpack = 0
  rw [infinite]
  generalize a.toModel.unpack = u at finite ⊢
  cases u with
  | infinity | notANumber => cases finite
  | zero sign => cases sign <;> exact iff_of_true rfl rfl
  | finite sign m e positive =>
      change (Float.Model.pack (.infinity (sign * .positive))).unpack.isNaN = true ↔ _
      rw [unpack_pack_infinity, exact_finite, ← abs_eq_zero, signed_abs, abs_eq_zero]
      exact iff_of_false Bool.false_ne_true (exact_pos e positive).ne'

theorem le_iff_of_isInfinite (infinite : IsInfinite b) : a ≤ b ↔ a.isNaN = false := by
  rw [isInfinite_iff] at infinite
  have order : a ≤ b ↔ a.toModel.unpack.le b.toModel.unpack = true := decide_eq_true_iff
  rw [order, infinite]
  change _ ↔ a.toModel.unpack.isNaN = false
  cases a.toModel.unpack with
  | infinity sign => cases sign <;> exact iff_of_true rfl rfl
  | zero | finite => exact iff_of_true rfl rfl
  | notANumber => exact iff_of_false Bool.false_ne_true Bool.true_eq_false.mp

theorem not_le_of_isInfinite (infinite : IsInfinite a) (finite : b.isFinite = true) : ¬ a ≤ b := by
  intro le
  rw [isInfinite_iff] at infinite
  have order : a ≤ b ↔ a.toModel.unpack.le b.toModel.unpack = true := decide_eq_true_iff
  rw [order, infinite] at le
  change b.toModel.unpack.isFinite = true at finite
  generalize b.toModel.unpack = v at finite le
  cases v with
  | infinity | notANumber => cases finite
  | zero | finite => cases le

end Double
end MotionControl
