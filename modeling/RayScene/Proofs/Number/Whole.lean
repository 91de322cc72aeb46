import RayScene.Number.Single
import RayScene.Proofs.Number.Rounding

namespace RayScene.Single

open BinaryFormat
open Float.Model (Format UnpackedFloat)
open Float.Model.UnpackedFloat (ExtendedMantissa Sign packComponents)

def scaled (n k : Nat) : Nat := n * 2 ^ (23 - k)

theorem scaled_bounds {n k : Nat} (low : 2 ^ k ≤ n) (high : n < 2 ^ (k + 1)) (small : k ≤ 23) :
    2 ^ 23 ≤ scaled n k ∧ scaled n k < 2 ^ 24 := by
  have least : 2 ^ k * 2 ^ (23 - k) = 2 ^ 23 := by
    rw [← Nat.pow_add, Nat.add_sub_cancel' small]
  have most : 2 ^ (k + 1) * 2 ^ (23 - k) = 2 ^ 24 := by
    rw [← Nat.pow_add]
    congr 1
    omega
  constructor
  · rw [← least]
    exact Nat.mul_le_mul_right _ low
  · rw [← most]
    exact Nat.mul_lt_mul_of_pos_right high (Nat.two_pow_pos _)

theorem scaled_ratio {n k : Nat} (small : k ≤ 23) :
    (n : ℚ) / (1 : Nat) / 2 ^ ((k : Int) - 23) = scaled n k := by
  have places : (k : Int) - 23 = -((23 - k : Nat) : Int) := by omega
  rw [places, zpow_neg, zpow_natCast, Nat.cast_one, div_one, div_inv_eq_mul, scaled]
  push_cast
  rfl

theorem roundRatio_whole {n k : Nat} (low : 2 ^ k ≤ n) (high : n < 2 ^ (k + 1))
    (small : k ≤ 23) : single.roundRatio n 1 = (k + 126) * 2 ^ 23 + scaled n k := by
  obtain ⟨full, bound⟩ := scaled_bounds low high small
  have least : single.leastExponent = -149 := by decide
  have canonical : single.Canonical (scaled n k) ((k : Int) - 23) :=
    ⟨by omega, bound, .inr full⟩
  have rounded := canonical.roundRatio_eq (n := n) (by decide) (by omega) one_pos
  simp only [scaled_ratio small] at rounded
  rw [rounded (by linarith) (by linarith) (fun _ => ⟨by linarith, by linarith⟩)
    (fun _ _ => by linarith), least, show single.infinityBits = 255 * 2 ^ 23 by decide,
    show single.hiddenBit = 2 ^ 23 by decide]
  omega

def normal (field significand : Nat) : BitVec Format.binary32.numBits :=
  packComponents Format.binary32 .positive (BitVec.ofNat 8 field) (BitVec.ofNat 23 significand)

theorem normal_toNat {field m : Nat} (fits : field < 255) (low : 2 ^ 23 ≤ m) (high : m < 2 ^ 24) :
    (normal field m).toNat = field * 2 ^ 23 + (m - 2 ^ 23) := by
  show (0#1 ++ BitVec.ofNat 8 field ++ BitVec.ofNat 23 m).toNat = _
  rw [BitVec.toNat_append, ← Nat.shiftLeft_add_eq_or_of_lt (BitVec.isLt _), BitVec.toNat_append,
    ← Nat.shiftLeft_add_eq_or_of_lt (BitVec.isLt _)]
  simp only [BitVec.toNat_ofNat, Nat.shiftLeft_eq]
  omega

theorem exponentField {field : Nat} (fits : field < 255) :
    (BitVec.ofNat 8 field).toNat = field := by
  rw [BitVec.toNat_ofNat]
  omega

theorem exponentField_finite {field : Nat} (fits : field < 255) :
    BitVec.ofNat 8 field ≠ -1#8 := by
  rw [BitVec.toNat_ne, exponentField fits]
  exact fits.ne

theorem normal_exponent {field : Nat} (fits : field < 255) (m : Nat) :
    UnpackedFloat.unpackExponent (normal field m) ≠ -1#8 := by
  rw [normal, UnpackedFloat.unpackExponent_packComponents]
  exact exponentField_finite fits

/-- A full significand is read back behind its hidden bit, whatever its sign. -/
theorem unpack_normal {sign : Sign} {field m : Nat} (biased : 0 < field) (fits : field < 255)
    (low : 2 ^ 23 ≤ m) (high : m < 2 ^ 24) (positive : 0 < m) :
    UnpackedFloat.unpack Format.binary32
        (packComponents Format.binary32 sign (BitVec.ofNat 8 field) (BitVec.ofNat 23 m)) =
      .finite sign m ((field : Int) - 150) positive := by
  have number := exponentField fits
  have finite := exponentField_finite fits
  have full : BitVec.ofNat 8 field ≠ 0#8 := by
    rw [BitVec.toNat_ne, number]
    exact biased.ne'
  have significand : (1#1 ++ BitVec.ofNat 23 m).toNat = m := by
    rw [BitVec.toNat_append, ← Nat.shiftLeft_add_eq_or_of_lt (BitVec.isLt _)]
    simp only [BitVec.toNat_ofNat, Nat.shiftLeft_eq]
    omega
  unfold UnpackedFloat.unpack
  simp only [UnpackedFloat.unpackMantissa_packComponents,
    UnpackedFloat.unpackExponent_packComponents, UnpackedFloat.unpackSign_packComponents,
    Sign.ofBitVec_toBitVec, number, significand, if_neg finite, if_neg full]
  rfl

theorem ofNat_unpack {n k : Nat} (low : 2 ^ k ≤ n) (high : n < 2 ^ (k + 1)) (small : k ≤ 23) :
    (ofNat n).toModel.unpack = .finite .positive (scaled n k) ((k : Int) - 23)
      (by have := (scaled_bounds low high small).1; omega) := by
  obtain ⟨least, most⟩ := scaled_bounds low high small
  have bits : (UInt32.ofNat (single.roundRatio n 1)).toBitVec = normal (k + 127) (scaled n k) := by
    apply BitVec.eq_of_toNat_eq
    rw [normal_toNat (by omega) least most, roundRatio_whole low high small,
      UInt32.toBitVec_ofNat', BitVec.toNat_ofNat]
    omega
  have exponent : ((k + 127 : Nat) : Int) - 150 = (k : Int) - 23 := by omega
  have stored : (ofNat n).toModel.unpack = UnpackedFloat.unpack Format.binary32
      (UnpackedFloat.pack Format.binary32 (UnpackedFloat.unpack Format.binary32
        (UInt32.ofNat (single.roundRatio n 1)).toBitVec)) := by
    simp only [ofNat, ofRatio, ofPattern, withSign, Bool.false_eq_true, if_false]
    rfl
  have number : ¬ UnpackedFloat.isNaNBits (normal (k + 127) (scaled n k)) = true := by
    rw [UnpackedFloat.isNaNBits, decide_eq_true_eq]
    exact fun both => normal_exponent (by omega) _ both.1
  rw [stored, bits, UnpackedFloat.pack_unpack, if_neg number, normal,
    unpack_normal (by omega) (by omega) least most (by omega)]
  simp only [exponent]

theorem shiftRight_mantissa (em : ExtendedMantissa) (places : Nat) :
    (em >>> places).mantissa = em.mantissa / 2 ^ places := by
  induction places with
  | zero => exact (Nat.div_one _).symm
  | succ places ih =>
      show (em >>> places).mantissa / 2 = _
      rw [ih, Nat.div_div_eq_div_mul, Nat.pow_succ]

/-- Converting a number to an integer drops what its exponent puts behind the point. -/
theorem toInt_scaled {n k : Nat} (small : k ≤ 23) (positive : 0 < scaled n k)
    (least most : Int) :
    (UnpackedFloat.finite .positive (scaled n k) ((k : Int) - 23) positive).toInt least most =
      n := by
  have whole : ((k : Int) - 23 - 0).toNat = 0 := by omega
  have places : ((0 : Int) - ((k : Int) - 23 - (0 : Nat))).toNat = 23 - k := by omega
  unfold UnpackedFloat.toInt UnpackedFloat.roundToInt UnpackedFloat.decreaseExponent
    UnpackedFloat.shiftToExponent
  simp only [whole, places, shiftRight_mantissa, Nat.shiftLeft_zero]
  show ((scaled n k / 2 ^ (23 - k) : Nat) : Int) = n
  rw [scaled, Nat.mul_div_cancel _ (Nat.two_pow_pos _)]

theorem ofNat_toUInt32 {n : Nat} (small : n < 2 ^ 24) : (ofNat n).toUInt32 = UInt32.ofNat n := by
  rcases Nat.eq_zero_or_pos n with rfl | positive
  · decide
  · have low : 2 ^ n.log2 ≤ n := Nat.log2_self_le (by omega)
    have high : n < 2 ^ (n.log2 + 1) := Nat.lt_log2_self
    have few : n.log2 ≤ 23 := by
      have := (Nat.log2_lt (by omega)).mpr small
      omega
    have truncated : (ofNat n).toModel.unpack.toInt 0 (UInt32.size - 1) = n := by
      rw [ofNat_unpack low high few, toInt_scaled few]
    have fits : n < UInt32.size := by
      show n < 2 ^ 32
      omega
    show UInt32.ofNatClamp ((ofNat n).toModel.unpack.toInt 0 (UInt32.size - 1)).toNat = _
    rw [truncated, Int.toNat_natCast, UInt32.ofNatClamp, dif_pos fits]
    exact UInt32.ofNatLT_eq_ofNat n

end RayScene.Single
