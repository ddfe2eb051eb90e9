import Mathlib.Tactic.Common
import Mathlib.Tactic.NormNum

/-!
# The bits of a double

A finite double other than zero is a mantissa below `2 ^ 53` times a power of two.
`Fits` says which pairs are stored as they are; packing such a pair and reading
it back is lossless, unless its exponent is too large, which gives an infinity.
-/

namespace MotionControl
namespace Double

open Float.Model Float.Model.UnpackedFloat

/-- The pair is in the form in which doubles are stored: all bits of the mantissa are
in use, or the exponent is the least one. -/
structure Fits (mantissa : ℕ) (exponent : ℤ) : Prop where
  mantissa_lt : mantissa < 2 ^ 53
  le_exponent : -1074 ≤ exponent
  normal : 2 ^ 52 ≤ mantissa ∨ exponent = -1074

/-- The largest exponent of a finite double. -/
def maxExponent : ℤ :=
  971

theorem unpackSign_packComponents {format : Format} (sign : Sign)
    (exponent : BitVec format.exponentBits)
    (fraction : BitVec format.mantissaBitsWithoutImplicit) :
    unpackSign (packComponents format sign exponent fraction) = sign.toBitVec := by
  have field (bits : BitVec format.numBits) : unpackSign bits =
      BitVec.cast (by omega) (bits.extractLsb
        (format.mantissaBitsWithoutImplicit + format.exponentBits)
        (format.mantissaBitsWithoutImplicit + format.exponentBits)) := rfl
  ext i inside
  have first : i = 0 := by omega
  subst first
  simp [field, packComponents, BitVec.getLsbD_append, BitVec.getElem_append]

theorem ofBitVec_toBitVec (sign : Sign) : Sign.ofBitVec sign.toBitVec = sign := by
  cases sign <;> rfl

theorem one_append_toNat (fraction : BitVec 52) :
    (1#1 ++ fraction).toNat = 2 ^ 52 + fraction.toNat := by
  rw [BitVec.toNat_append, ← Nat.shiftLeft_add_eq_or_of_lt fraction.isLt]
  rfl

theorem finite_congr (sign : Sign) {mantissa mantissa' : ℕ} {exponent exponent' : ℤ}
    (positive : 0 < mantissa) (positive' : 0 < mantissa') (digits : mantissa = mantissa')
    (scale : exponent = exponent') : UnpackedFloat.finite sign mantissa exponent positive =
      .finite sign mantissa' exponent' positive' := by
  subst digits scale
  rfl

/-- What the three fields of a double stand for. -/
def ofFields (sign : Sign) (exponent : BitVec 11) (fraction : BitVec 52) : UnpackedFloat :=
  if exponent = -1#11 then
    if fraction = 0#52 then .infinity sign else .notANumber
  else if exponent = 0#11 then
    if zero : fraction = 0#52 then .zero sign
    else .finite sign fraction.toNat (-1074)
      (by simpa [BitVec.toNat_pos, BitVec.pos_iff_ne_zero] using zero)
  else .finite sign (2 ^ 52 + fraction.toNat) (exponent.toNat - 1075) (by omega)

theorem unpack_bits (bits : BitVec 64) :
    UnpackedFloat.unpack Format.binary64 bits =
      ofFields (Sign.ofBitVec (@unpackSign Format.binary64 bits))
        (@unpackExponent Format.binary64 bits) (@unpackMantissa Format.binary64 bits) := by
  unfold UnpackedFloat.unpack ofFields
  dsimp only
  by_cases special : @unpackExponent Format.binary64 bits = -1#11
  · rw [if_pos special, if_pos special]
  · rw [if_neg special, if_neg special]
    by_cases low : @unpackExponent Format.binary64 bits = 0#11
    · rw [if_pos low, if_pos low]
      by_cases none : @unpackMantissa Format.binary64 bits = 0#52
      · rw [dif_pos none, dif_pos none]
      · rw [dif_neg none, dif_neg none]
        exact finite_congr _ _ _ rfl (by rw [low]; rfl)
    · rw [if_neg low, if_neg low]
      exact finite_congr _ _ _ (one_append_toNat _) rfl

theorem unpack_packComponents (sign : Sign) (exponent : BitVec 11) (fraction : BitVec 52) :
    UnpackedFloat.unpack Format.binary64 (packComponents Format.binary64 sign exponent fraction) =
      ofFields sign exponent fraction := by
  rw [unpack_bits, unpackMantissa_packComponents, unpackExponent_packComponents,
    unpackSign_packComponents, ofBitVec_toBitVec]

theorem pack_finite (sign : Sign) {mantissa : ℕ} (exponent : ℤ) (positive : 0 < mantissa) :
    UnpackedFloat.pack Format.binary64 (.finite sign mantissa exponent positive) =
      if 2 ^ 11 ≤ (exponent + 1075).toNat + 1 then
        packComponents Format.binary64 sign (-1#11) 0#52
      else if mantissa.log2 + 1 = 53 then
        packComponents Format.binary64 sign (BitVec.ofNat 11 (exponent + 1075).toNat)
          (BitVec.ofNat 52 mantissa)
      else packComponents Format.binary64 sign 0#11 (BitVec.ofNat 52 mantissa) := by
  have bias : exponent + Format.binary64.exponentBias + Format.binary64.mantissaBitsWithoutImplicit
      = exponent + 1075 := by
    change exponent + 1023 + 52 = exponent + 1075
    omega
  unfold UnpackedFloat.pack
  simp only [bias]
  rfl

/-- A pair that fits is read back as it was packed, or as an infinity. -/
theorem unpack_pack (sign : Sign) {mantissa : ℕ} {exponent : ℤ} (positive : 0 < mantissa)
    (fits : Fits mantissa exponent) :
    (Float.Model.pack (.finite sign mantissa exponent positive)).unpack =
      if exponent ≤ maxExponent then .finite sign mantissa exponent positive
      else .infinity sign := by
  rcases fits with ⟨high, lower, normal⟩
  change UnpackedFloat.unpack Format.binary64 (UnpackedFloat.pack Format.binary64 _) = _
  rw [pack_finite, maxExponent]
  by_cases bound : exponent ≤ 971
  · have notSpecial : ¬ 2 ^ 11 ≤ (exponent + 1075).toNat + 1 := by omega
    rw [if_pos bound, if_neg notSpecial]
    by_cases full : 2 ^ 52 ≤ mantissa
    · have log : mantissa.log2 + 1 = 53 := by
        rw [(Nat.log2_eq_iff (by omega)).mpr ⟨full, high⟩]
      have field : (BitVec.ofNat 11 (exponent + 1075).toNat).toNat = (exponent + 1075).toNat := by
        rw [BitVec.toNat_ofNat, Nat.mod_eq_of_lt (by omega)]
      have fraction : 2 ^ 52 + (BitVec.ofNat 52 mantissa).toNat = mantissa := by
        rw [BitVec.toNat_ofNat]
        omega
      have notLast : BitVec.ofNat 11 (exponent + 1075).toNat ≠ -1#11 := by
        intro equal
        rw [equal] at field
        change 2047 = _ at field
        omega
      have notFirst : BitVec.ofNat 11 (exponent + 1075).toNat ≠ 0#11 := by
        intro equal
        rw [equal] at field
        change 0 = _ at field
        omega
      rw [if_pos log, unpack_packComponents, ofFields, if_neg notLast, if_neg notFirst]
      exact finite_congr _ _ _ fraction (by rw [field]; omega)
    · have least : exponent = -1074 := normal.resolve_left full
      have log : ¬ mantissa.log2 + 1 = 53 := by
        have small := (Nat.log2_lt (n := mantissa) (k := 52) (by omega)).mpr (by omega)
        omega
      have fraction : (BitVec.ofNat 52 mantissa).toNat = mantissa := by
        rw [BitVec.toNat_ofNat, Nat.mod_eq_of_lt (by omega)]
      have nonzero : ¬ BitVec.ofNat 52 mantissa = 0#52 := by
        intro equal
        rw [equal] at fraction
        change 0 = _ at fraction
        omega
      rw [if_neg log, unpack_packComponents, ofFields, if_neg (by decide), if_pos rfl,
        dif_neg nonzero]
      exact finite_congr _ _ _ fraction least.symm
  · have special : 2 ^ 11 ≤ (exponent + 1075).toNat + 1 := by omega
    rw [if_neg bound, if_pos special, unpack_packComponents, ofFields, if_pos rfl, if_pos rfl]

theorem fits_of_fields {sign sign' : Sign} {field : BitVec 11} {fraction : BitVec 52}
    {mantissa : ℕ} {exponent : ℤ} {positive : 0 < mantissa}
    (read : ofFields sign field fraction = .finite sign' mantissa exponent positive) :
    Fits mantissa exponent ∧ exponent ≤ maxExponent := by
  have bound := fraction.isLt
  unfold ofFields at read
  by_cases special : field = -1#11
  · rw [if_pos special] at read
    by_cases none : fraction = 0#52
    · rw [if_pos none] at read
      cases read
    · rw [if_neg none] at read
      cases read
  · rw [if_neg special] at read
    by_cases low : field = 0#11
    · rw [if_pos low] at read
      by_cases none : fraction = 0#52
      · rw [dif_pos none] at read
        cases read
      · rw [dif_neg none] at read
        cases read
        exact ⟨⟨by omega, le_refl _, .inr rfl⟩, by rw [maxExponent]; omega⟩
    · rw [if_neg low] at read
      have notLast : field.toNat ≠ 2047 := fun equal => special (BitVec.eq_of_toNat_eq equal)
      have notFirst : field.toNat ≠ 0 := fun equal => low (BitVec.eq_of_toNat_eq equal)
      have size := field.isLt
      cases read
      exact ⟨⟨by omega, by omega, .inl (by omega)⟩, by rw [maxExponent]; omega⟩

/-- What a double is read as fits. -/
theorem fits_of_unpack {x : Float.Model} {sign : Sign} {mantissa : ℕ} {exponent : ℤ}
    {positive : 0 < mantissa} (read : x.unpack = .finite sign mantissa exponent positive) :
    Fits mantissa exponent ∧ exponent ≤ maxExponent :=
  fits_of_fields ((unpack_bits x.toBits.toBitVec).symm.trans read)

end Double
end MotionControl
