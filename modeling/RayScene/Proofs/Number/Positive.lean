import RayScene.Proofs.Number.Value

namespace RayScene.Single

open BinaryFormat
open Float.Model (Format UnpackedFloat)
open Float.Model.UnpackedFloat (Sign)

/-- Stored without a sign, and neither zero, nor infinite, nor NaN. -/
def IsPositive (x : Single) : Prop := ∃ m e, x.decode = .finite false m e ∧ 0 < m

theorem isPositive_iff_toBits (x : Single) :
    x.IsPositive ↔ 0 < x.toBits.toNat ∧ x.toBits.toNat < 255 * 2 ^ 23 := by
  have bound : x.toBits.toNat < 2 ^ 32 := x.toBits.toNat_lt
  have sign : BinaryFormat.single.signBit = 2 ^ 31 := by decide
  have hidden : BinaryFormat.single.hiddenBit = 2 ^ 23 := by decide
  unfold IsPositive decode BinaryFormat.decode
  dsimp only
  rw [sign, infinityBits_single, hidden]
  split
  next => exact iff_of_false (by simp) (by omega)
  next =>
    split
    next => exact iff_of_false (by simp) (by omega)
    next =>
      split
      next =>
        simp only [BinaryDatum.finite.injEq, decide_eq_false_iff_not]
        constructor
        · rintro ⟨m, e, ⟨unsigned, rfl, -⟩, some⟩
          omega
        · intro range
          exact ⟨_, _, ⟨by omega, rfl, rfl⟩, by omega⟩
      next =>
        simp only [BinaryDatum.finite.injEq, decide_eq_false_iff_not]
        constructor
        · rintro ⟨m, e, ⟨unsigned, -, -⟩, -⟩
          omega
        · intro range
          exact ⟨_, _, ⟨by omega, rfl, rfl⟩, by omega⟩

theorem unpack_positive_iff (word : BitVec Format.binary32.numBits) :
    (∃ m e pos, UnpackedFloat.unpack Format.binary32 word = .finite .positive m e pos) ↔
      0 < word.toNat ∧ word.toNat < 255 * 2 ^ 23 := by
  have bound : word.toNat < 2 ^ 32 := word.isLt
  have sign : Sign.ofBitVec (UnpackedFloat.unpackSign word) = .positive ↔ word.toNat < 2 ^ 31 := by
    rw [← unpackSign_eq_zero_iff, Sign.ofBitVec]
    split <;> simp [*]
  have full : UnpackedFloat.unpackExponent word = -1#8 ↔ word.toNat / 2 ^ 23 % 2 ^ 8 = 255 := by
    rw [← BitVec.toNat_inj, unpackExponent_toNat]
    rfl
  have tiny : UnpackedFloat.unpackExponent word = 0#8 ↔ word.toNat / 2 ^ 23 % 2 ^ 8 = 0 := by
    rw [← BitVec.toNat_inj, unpackExponent_toNat]
    rfl
  have none : UnpackedFloat.unpackMantissa word = 0#23 ↔ word.toNat % 2 ^ 23 = 0 := by
    rw [← BitVec.toNat_inj, unpackMantissa_toNat]
    rfl
  have signed {m : Nat} {e : Int} {pos : 0 < m} :
      (∃ m' e' pos', UnpackedFloat.finite (Sign.ofBitVec (UnpackedFloat.unpackSign word)) m e pos =
        .finite .positive m' e' pos') ↔ word.toNat < 2 ^ 31 := by
    rw [← sign]
    constructor
    · rintro ⟨_, _, _, same⟩
      injection same
    · intro unsigned
      rw [unsigned]
      exact ⟨_, _, _, rfl⟩
  -- From here on the fields of the word are quotients and remainders.
  unfold UnpackedFloat.unpack
  dsimp only
  split
  next infinite =>
    have large := full.mp infinite
    split <;> exact iff_of_false (by simp) (by omega)
  next finite =>
    have small := full.not.mp finite
    split
    next low =>
      have least := tiny.mp low
      split
      next zero =>
        have nothing := none.mp zero
        exact iff_of_false (by simp) (by omega)
      next nonzero =>
        have something := none.not.mp nonzero
        rw [signed]
        omega
    next normal =>
      have more := tiny.not.mp normal
      rw [signed]
      omega

theorem isPositive_iff_unpack (x : Single) :
    Scalar.isPositive x = true ↔ ∃ m e pos, x.toModel.unpack = .finite .positive m e pos := by
  have start : rank (Scalar.zero : Single) = rankOf 0 0 0 := by decide
  rw [Scalar.isPositive, Bool.and_eq_true, decide_eq_true_eq]
  constructor
  · rintro ⟨finite, above⟩
    rw [lt_iff_rank (by decide) (isNaN_eq_false finite), start, rank] at above
    rw [isFinite_eq_isProper] at finite
    rcases read : x.toModel.unpack with _ | _ | _ | ⟨(_ | _), m, e, pos⟩ <;>
      rw [read] at finite above
    case finite.positive => exact ⟨m, e, pos, rfl⟩
    case finite.negative => exact absurd above (rankOf_lt (by decide)).asymm
    case zero => exact absurd above (lt_irrefl _)
    all_goals cases finite
  · rintro ⟨m, e, pos, read⟩
    have finite : Scalar.isFinite x = true := by
      rw [isFinite_eq_isProper, read]
      rfl
    refine ⟨finite, ?_⟩
    rw [lt_iff_rank (by decide) (isNaN_eq_false finite), start, rank, read]
    exact rankOf_lt (by decide)

theorem isPositive_iff_decode (x : Single) : Scalar.isPositive x = true ↔ x.IsPositive := by
  rw [isPositive_iff_toBits, isPositive_iff_unpack]
  exact unpack_positive_iff x.toBits.toBitVec

end RayScene.Single
