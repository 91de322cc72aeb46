import RayScene.Proofs.Number.Whole

namespace RayScene.Single

open BinaryFormat
open Float.Model (Format UnpackedFloat)
open Float.Model.UnpackedFloat (Sign)

/-- Whether a number has a canonical significand, at any exponent that is not too small. -/
def IsCanonical : UnpackedFloat → Prop
  | .finite _ m e _ => single.Canonical m e
  | _ => True

theorem canonical_iff (m : Nat) (e : Int) :
    single.Canonical m e ↔ -149 ≤ e ∧ m < 2 ^ 24 ∧ (e = -149 ∨ 2 ^ 23 ≤ m) := by
  have least : single.leastExponent = -149 := by decide
  have hidden : single.hiddenBit = 2 ^ 23 := by decide
  constructor
  · rintro ⟨low, bound, full⟩
    rw [least] at low full
    rw [hidden] at bound full
    exact ⟨low, by omega, full⟩
  · rintro ⟨low, bound, full⟩
    refine ⟨?_, ?_, ?_⟩
    · rwa [least]
    · rw [hidden]
      omega
    · rwa [least, hidden]

theorem unpack_isCanonical (word : BitVec Format.binary32.numBits) :
    IsCanonical (UnpackedFloat.unpack Format.binary32 word) := by
  have mantissa : (UnpackedFloat.unpackMantissa word).toNat < 2 ^ 23 := BitVec.isLt _
  unfold UnpackedFloat.unpack
  dsimp only
  split
  next => split <;> trivial
  next =>
    split
    next tiny =>
      split
      next => trivial
      next =>
        refine (canonical_iff _ _).mpr ⟨?_, by omega, .inl ?_⟩
        · rw [tiny]
          decide
        · rw [tiny]
          rfl
    next normal =>
      have exponent : 0 < (UnpackedFloat.unpackExponent word).toNat := by
        rw [Nat.pos_iff_ne_zero]
        intro none
        exact normal (BitVec.eq_of_toNat_eq none)
      have significand : (1#1 ++ UnpackedFloat.unpackMantissa word).toNat =
          2 ^ 23 + (UnpackedFloat.unpackMantissa word).toNat := by
        rw [BitVec.toNat_append, ← Nat.shiftLeft_add_eq_or_of_lt (BitVec.isLt _)]
        rfl
      refine (canonical_iff _ _).mpr ⟨?_, by omega, .inr (by omega)⟩
      show (-149 : Int) ≤ _ - (127 + 23)
      omega

section Stored

variable {m : Nat} {e : Int} {sign : Sign}

def reread (u : UnpackedFloat) : UnpackedFloat :=
  UnpackedFloat.unpack Format.binary32 (UnpackedFloat.pack Format.binary32 u)

theorem reread_infinity (sign : Sign) : reread (.infinity sign) = .infinity sign := by
  cases sign <;> rfl

theorem reread_zero (sign : Sign) : reread (.zero sign) = .zero sign := by
  cases sign <;> rfl

theorem reread_nan : reread .notANumber = .notANumber := rfl

theorem reread_overflow (large : 104 < e) (positive : 0 < m) :
    reread (.finite sign m e positive) = .infinity sign := by
  have biased : (e + (Format.binary32.exponentBias : Int) + (23 : Nat)).toNat =
      (e + 150).toNat := by
    show (e + 127 + 23).toNat = _
    omega
  have stored : UnpackedFloat.pack Format.binary32 (.finite sign m e positive) =
      UnpackedFloat.pack Format.binary32 (.infinity sign) := by
    unfold UnpackedFloat.pack
    dsimp only
    rw [biased, if_pos (by omega)]
  rw [reread, stored]
  exact reread_infinity sign

/-- The exponent is packed for a full significand only. -/
theorem pack_small (least : -149 ≤ e) (small : e ≤ 104) (bound : m < 2 ^ 24) (positive : 0 < m) :
    UnpackedFloat.pack Format.binary32 (.finite sign m e positive) =
      UnpackedFloat.packComponents Format.binary32 sign
        (if 2 ^ 23 ≤ m then BitVec.ofNat 8 (e + 150).toNat else 0#8) (BitVec.ofNat 23 m) := by
  have biased : (e + (Format.binary32.exponentBias : Int) + (23 : Nat)).toNat =
      (e + 150).toNat := by
    show (e + 127 + 23).toNat = _
    omega
  have full : m.log2 + 1 = Format.binary32.mantissaBits ↔ 2 ^ 23 ≤ m := by
    have short : m.log2 < 24 := (Nat.log2_lt (by omega)).mpr bound
    rw [← Nat.le_log2 (by omega)]
    show m.log2 + 1 = 24 ↔ _
    omega
  unfold UnpackedFloat.pack
  dsimp only
  rw [biased, if_neg (by omega), if_congr full rfl rfl]
  split <;> rfl

theorem unpack_subnormal (low : m < 2 ^ 23) (positive : 0 < m) :
    UnpackedFloat.unpack Format.binary32 (UnpackedFloat.packComponents Format.binary32 sign
      0#8 (BitVec.ofNat 23 m)) = .finite sign m (-149) positive := by
  have significand : (BitVec.ofNat 23 m).toNat = m := by
    rw [BitVec.toNat_ofNat]
    omega
  have some : BitVec.ofNat 23 m ≠ 0#23 := by
    rw [BitVec.toNat_ne, significand]
    exact positive.ne'
  unfold UnpackedFloat.unpack
  simp only [UnpackedFloat.unpackMantissa_packComponents,
    UnpackedFloat.unpackExponent_packComponents, UnpackedFloat.unpackSign_packComponents,
    Sign.ofBitVec_toBitVec]
  rw [if_neg (by decide), if_pos trivial, dif_neg some]
  congr 1

theorem reread_canonical (canonical : single.Canonical m e) (small : e ≤ 104)
    (positive : 0 < m) :
    reread (.finite sign m e positive) = .finite sign m e positive := by
  obtain ⟨least, bound, full⟩ := (canonical_iff m e).mp canonical
  rw [reread, pack_small least small bound]
  by_cases normal : 2 ^ 23 ≤ m
  · rw [if_pos normal, unpack_normal (by omega) (by omega) normal bound positive]
    congr 1
    omega
  · obtain rfl := full.resolve_right normal
    rw [if_neg normal, unpack_subnormal (by omega)]

end Stored

end RayScene.Single
