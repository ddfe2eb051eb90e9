import MotionControl.Binary64
import MotionControl.Proofs.Double.Value

/-!
# Doubles from their bits

A finite double is made of its bits and nothing else, and its bits are a sign and the
place of its magnitude in the order of all magnitudes: the stored mantissa, counted on
from the exponents below it.
-/

namespace MotionControl
namespace Double

open Float.Model Float.Model.UnpackedFloat

theorem toBitVec_ofBitVec (bit : BitVec 1) : (Sign.ofBitVec bit).toBitVec = bit := by
  revert bit
  decide

theorem packComponents_fields (bits : BitVec 64) :
    packComponents Format.binary64 (Sign.ofBitVec (@unpackSign Format.binary64 bits))
      (@unpackExponent Format.binary64 bits) (@unpackMantissa Format.binary64 bits) = bits := by
  have sign : @unpackSign Format.binary64 bits = bits.extractLsb 63 63 := rfl
  have exponent : @unpackExponent Format.binary64 bits = bits.extractLsb 62 52 := rfl
  have fraction : @unpackMantissa Format.binary64 bits = bits.extractLsb 51 0 := rfl
  rw [packComponents, toBitVec_ofBitVec, sign, exponent, fraction]
  ext i inside
  grind

/-- What the fields stand for is packed into the fields again. -/
theorem pack_ofFields (sign : Sign) {exponent : BitVec 11} (fraction : BitVec 52)
    (bounded : exponent ≠ -1#11) :
    UnpackedFloat.pack Format.binary64 (ofFields sign exponent fraction) =
      packComponents Format.binary64 sign exponent fraction := by
  have size := fraction.isLt
  rw [ofFields, if_neg bounded]
  by_cases low : exponent = 0#11
  · rw [if_pos low]
    by_cases none : fraction = 0#52
    · rw [dif_pos none, low, none]
      rfl
    · rw [dif_neg none]
      have positive : 0 < fraction.toNat :=
        Nat.pos_of_ne_zero fun zero => none (BitVec.eq_of_toNat_eq zero)
      have log : ¬ fraction.toNat.log2 + 1 = 53 := by
        have small := (Nat.log2_lt (n := fraction.toNat) (k := 52) positive.ne').mpr size
        omega
      rw [pack_finite, if_neg (by norm_num), if_neg log, BitVec.ofNat_toNat, BitVec.setWidth_eq, low]
  · rw [if_neg low]
    have notLast : exponent.toNat ≠ 2047 := fun equal => bounded (BitVec.eq_of_toNat_eq equal)
    have field := exponent.isLt
    have log : (2 ^ 52 + fraction.toNat).log2 + 1 = 53 := by
      rw [(Nat.log2_eq_iff (by omega)).mpr ⟨Nat.le_add_right _ _, by omega⟩]
    have scale : ((exponent.toNat : ℤ) - 1075 + 1075).toNat = exponent.toNat := by omega
    have digits : BitVec.ofNat 52 (2 ^ 52 + fraction.toNat) = fraction := by
      apply BitVec.eq_of_toNat_eq
      rw [BitVec.toNat_ofNat]
      omega
    rw [pack_finite, scale, if_neg (by omega), if_pos log, digits, BitVec.ofNat_toNat,
      BitVec.setWidth_eq]

theorem exponent_ne_of_isFinite {x : Float} (finite : x.isFinite = true) :
    @unpackExponent Format.binary64 x.toBits.toBitVec ≠ -1#11 := by
  intro special
  change (UnpackedFloat.unpack Format.binary64 x.toBits.toBitVec).isFinite = true at finite
  rw [unpack_bits, ofFields, if_pos special] at finite
  split at finite <;> cases finite

theorem ofBits_toBits {x : Float} (finite : x.isFinite = true) : Float.ofBits x.toBits = x := by
  have packed : UnpackedFloat.pack Format.binary64
      (UnpackedFloat.unpack Format.binary64 x.toBits.toBitVec) = x.toBits.toBitVec := by
    rw [unpack_bits, pack_ofFields _ _ (exponent_ne_of_isFinite finite), packComponents_fields]
  have same : (Float.Model.ofBits x.toBits).toBits = x.toBits := UInt64.toBitVec_inj.mp packed
  rcases x with ⟨bits, valid⟩
  exact congrArg Float.ofModel (by
    rw [Float.Model.mk.injEq]
    exact same)

/-! ## The place of a magnitude -/

/-- The bits of a magnitude: a mantissa, counted on from the exponents below its own. -/
def magnitudeBits (mantissa : ℕ) (exponent : ℤ) : ℕ :=
  (exponent + 1074).toNat * 2 ^ 52 + mantissa

/-- Below the least power of two with all bits of the mantissa, the exponent stays. -/
theorem magnitudeBits_low (fraction : ℕ) : magnitudeBits fraction (-1074) = 0 * 2 ^ 52 + fraction :=
  rfl

/-- The first bit of a mantissa in full counts one exponent on. -/
theorem magnitudeBits_full {field : ℕ} (fraction : ℕ) (positive : field ≠ 0) :
    magnitudeBits (2 ^ 52 + fraction) (-1074 + field - 1) = field * 2 ^ 52 + fraction := by
  unfold magnitudeBits
  omega

theorem exponentField_eq (x : Float) :
    (@unpackExponent Format.binary64 x.toBits.toBitVec).toNat = x.toBits.toNat / 2 ^ 52 % 2048 := by
  rw [← Nat.shiftRight_eq_div_pow]
  exact BitVec.extractLsb_toNat 62 52 x.toBits.toBitVec

theorem exponentField_ne {x : Float} (finite : x.isFinite = true) :
    x.toBits.toNat / 2 ^ 52 % 2048 ≠ 2047 := by
  intro last
  refine exponent_ne_of_isFinite finite (BitVec.eq_of_toNat_eq ?_)
  rw [exponentField_eq, last]
  rfl

/-- The three fields of a finite double, put together. -/
theorem ofFloat_eq {x : Float} (finite : x.isFinite = true) :
    Binary64.ofFloat x =
      if x.toBits.toNat / 2 ^ 52 % 2048 = 0 then
        .finite (decide (x.toBits.toNat / 2 ^ 63 % 2 = 1)) (x.toBits.toNat % 2 ^ 52) (-1074)
      else
        .finite (decide (x.toBits.toNat / 2 ^ 63 % 2 = 1)) (2 ^ 52 + x.toBits.toNat % 2 ^ 52)
          (-1074 + (x.toBits.toNat / 2 ^ 52 % 2048 : ℕ) - 1) := by
  have first : Binary64.signWeight = 2 ^ 63 := by norm_num [Binary64.signWeight]
  have unit : Binary64.fractionCount = 2 ^ 52 := by norm_num [Binary64.fractionCount]
  rw [Binary64.ofFloat]
  simp only [Binary64.ofBits, first, unit, Binary64.specialExponent, Binary64.minExponent,
    Nat.reduceAdd, if_neg (exponentField_ne finite)]

/-- What is read of a finite double, and that it is all there is to it. -/
theorem exists_ofFloat_eq {x : Float} (finite : x.isFinite = true) :
    ∃ negative mantissa exponent, Binary64.ofFloat x = .finite negative mantissa exponent ∧
      Fits mantissa exponent ∧ exponent ≤ maxExponent ∧
      Binary64.toFloat negative (magnitudeBits mantissa exponent) = x := by
  have notLast := exponentField_ne finite
  have fields : x.toBits.toNat / 2 ^ 63 * 2 ^ 63 +
      (x.toBits.toNat / 2 ^ 52 % 2048 * 2 ^ 52 + x.toBits.toNat % 2 ^ 52) = x.toBits.toNat := by
    have size := x.toBits.toNat_lt
    omega
  have fraction : x.toBits.toNat % 2 ^ 52 < 2 ^ 52 := Nat.mod_lt _ (by norm_num)
  have field : x.toBits.toNat / 2 ^ 52 % 2048 < 2048 := Nat.mod_lt _ (by norm_num)
  have bounds (nonzero : x.toBits.toNat / 2 ^ 52 % 2048 ≠ 0) :
      (-1074 : ℤ) ≤ -1074 + (x.toBits.toNat / 2 ^ 52 % 2048 : ℕ) - 1 ∧
        -1074 + (x.toBits.toNat / 2 ^ 52 % 2048 : ℕ) - 1 ≤ (971 : ℤ) := by
    omega
  have weight : (if decide (x.toBits.toNat / 2 ^ 63 % 2 = 1) then 2 ^ 63 else 0) =
      x.toBits.toNat / 2 ^ 63 * 2 ^ 63 := by
    have size := x.toBits.toNat_lt
    by_cases set : x.toBits.toNat / 2 ^ 63 % 2 = 1
    · rw [if_pos (decide_eq_true set)]
      omega
    · rw [if_neg (by rwa [decide_eq_true_eq])]
      omega
  obtain ⟨negative, sign⟩ : ∃ negative : Bool,
      negative = decide (x.toBits.toNat / 2 ^ 63 % 2 = 1) := ⟨_, rfl⟩
  have first : Binary64.signWeight = 2 ^ 63 := by norm_num [Binary64.signWeight]
  have restore {magnitude : ℕ}
      (same : x.toBits.toNat / 2 ^ 63 * 2 ^ 63 + magnitude = x.toBits.toNat) :
      Binary64.toFloat negative magnitude = x := by
    rw [Binary64.toFloat, first, sign, weight, same, UInt64.ofNat_toNat, ofBits_toBits finite]
  have read := ofFloat_eq finite
  rw [← sign] at read
  by_cases low : x.toBits.toNat / 2 ^ 52 % 2048 = 0
  · rw [if_pos low] at read
    refine ⟨_, _, _, read, ⟨fraction.trans (by norm_num), le_rfl, .inr rfl⟩, by decide,
      restore ?_⟩
    rw [magnitudeBits_low, ← low, fields]
  · rw [if_neg low] at read
    have digits : 2 ^ 52 + x.toBits.toNat % 2 ^ 52 < 2 ^ 53 := by
      rw [pow_succ 2 52, mul_two]
      exact Nat.add_lt_add_left fraction _
    refine ⟨_, _, _, read, ⟨digits, (bounds low).1, .inl (Nat.le_add_right _ _)⟩, (bounds low).2,
      restore ?_⟩
    rw [magnitudeBits_full _ low, fields]

/-! ## The value of a magnitude -/

theorem exact_ofFields (sign : Sign) {exponent : BitVec 11} (fraction : BitVec 52)
    (bounded : exponent ≠ -1#11) : exact (ofFields sign exponent fraction) =
      signed sign (if exponent.toNat = 0 then fraction.toNat * 2 ^ (-1074 : ℤ)
        else ((2 ^ 52 + fraction.toNat : ℕ) : ℝ) * 2 ^ ((exponent.toNat : ℤ) - 1075)) := by
  rw [ofFields, if_neg bounded]
  by_cases low : exponent = 0#11
  · have field : exponent.toNat = 0 := congrArg BitVec.toNat low
    rw [if_pos low, if_pos field]
    by_cases none : fraction = 0#52
    · have zero : fraction.toNat = 0 := congrArg BitVec.toNat none
      rw [dif_pos none, zero, exact_zero]
      cases sign <;> simp [signed]
    · rw [dif_neg none, exact_finite]
  · have field : exponent.toNat ≠ 0 := fun zero => low (BitVec.eq_of_toNat_eq zero)
    rw [if_neg low, if_neg field, exact_finite]

theorem signed_unpackSign (x : Float) (y : ℝ) :
    signed (Sign.ofBitVec (@unpackSign Format.binary64 x.toBits.toBitVec)) y =
      if decide (x.toBits.toNat / 2 ^ 63 % 2 = 1) then -y else y := by
  have bit : (@unpackSign Format.binary64 x.toBits.toBitVec).toNat =
      x.toBits.toNat / 2 ^ 63 % 2 := by
    rw [← Nat.shiftRight_eq_div_pow]
    exact BitVec.extractLsb_toNat 63 63 x.toBits.toBitVec
  rw [← bit]
  generalize @unpackSign Format.binary64 x.toBits.toBitVec = field
  rcases BitVec.eq_zero_or_eq_one field with rfl | rfl <;> rfl

/-- A finite double has the value of what is read of it. -/
theorem value_of_ofFloat {x : Float} (finite : x.isFinite = true) {negative : Bool} {mantissa : ℕ}
    {exponent : ℤ} (read : Binary64.ofFloat x = .finite negative mantissa exponent) :
    value x = if negative then -(mantissa * 2 ^ exponent : ℝ) else mantissa * 2 ^ exponent := by
  have unpacked : value x = exact (UnpackedFloat.unpack Format.binary64 x.toBits.toBitVec) := rfl
  have fraction : (@unpackMantissa Format.binary64 x.toBits.toBitVec).toNat =
      x.toBits.toNat % 2 ^ 52 := BitVec.extractLsb_toNat 51 0 x.toBits.toBitVec
  have sign (y : ℝ) : signed (Sign.ofBitVec (@unpackSign Format.binary64 x.toBits.toBitVec)) y =
      if decide (x.toBits.toNat / 2 ^ 63 % 2 = 1) then -y else y := signed_unpackSign x y
  rw [unpacked, unpack_bits, exact_ofFields _ _ (exponent_ne_of_isFinite finite),
    exponentField_eq, fraction, sign]
  rw [ofFloat_eq finite] at read
  by_cases low : x.toBits.toNat / 2 ^ 52 % 2048 = 0
  · rw [if_pos low] at read ⊢
    cases read
    rfl
  · rw [if_neg low] at read ⊢
    cases read
    have scale : (-1074 : ℤ) + (x.toBits.toNat / 2 ^ 52 % 2048 : ℕ) - 1 =
        (x.toBits.toNat / 2 ^ 52 % 2048 : ℕ) - 1075 := by ring
    rw [scale]

end Double
end MotionControl
