import RayScene.Geometry.Scalar
import RayScene.Number.Notation
import RayScene.Proofs.Number.Order
import RayScene.Proofs.Number.Shortest

namespace RayScene

open BinaryFormat

theorem Decimal.round_eq (f : BinaryFormat) (d : Decimal) :
    d.round f = f.withSign d.negative (f.roundRatio d.ratio.1 d.ratio.2) := rfl

theorem Decimal.ratio_eq {d : Decimal} (nonzero : 0 < d.digits)
    (least : -(exponentBound : Int) ≤ d.exponent) (most : d.exponent ≤ exponentBound) :
    0 < d.ratio.2 ∧ (d.ratio.1 : ℚ) / d.ratio.2 = d.digits * 10 ^ d.exponent := by
  unfold Decimal.ratio
  rw [if_neg nonzero.ne']
  split
  next whole =>
    obtain ⟨k, same⟩ := Int.eq_ofNat_of_zero_le whole
    have uncut : min d.exponent.toNat exponentBound = k := by omega
    rw [uncut, same]
    simp
  next fraction =>
    obtain ⟨k, same⟩ : ∃ k : Nat, d.exponent = -(k : Int) := ⟨(-d.exponent).toNat, by omega⟩
    have uncut : min (-d.exponent).toNat (exponentBound + digitCount d.digits) = k := by omega
    rw [uncut, same]
    simp [div_eq_mul_inv]

namespace BinaryFormat

variable {f : BinaryFormat} {m : Nat} {e : Int}

/-- A decimal of the interval is rounded to the number that the interval belongs to. -/
theorem Canonical.round_eq (canonical : f.Canonical m e) (wide : 0 < f.significandBits)
    (nonzero : 0 < m) {d : Decimal} (least : -(Decimal.exponentBound : Int) ≤ d.exponent)
    (most : d.exponent ≤ Decimal.exponentBound)
    (holds : (Shortest.interval f m e).Holds (d.digits * 10 ^ d.exponent / 2 ^ (e - 2))) :
    d.round f = f.withSign d.negative
      (min f.infinityBits ((e - f.leastExponent).toNat * f.hiddenBit + m)) := by
  have positive : 0 < d.digits := holds.nonzero nonzero
  have quarter : (d.digits * 10 ^ d.exponent / 2 ^ (e - 2) : ℚ) =
      4 * (d.digits * 10 ^ d.exponent / 2 ^ e) := by
    rw [zpow_sub₀ two_ne_zero]
    field_simp
    norm_num
  rw [quarter] at holds
  have low : ((Shortest.interval f m e).low : ℚ) =
      4 * m - (if m = f.hiddenBit ∧ f.leastExponent < e then 1 else 2) := by
    simp only [Shortest.interval]
    split <;> push_cast [show 1 ≤ 4 * m by omega, show 2 ≤ 4 * m by omega] <;> rfl
  have high : ((Shortest.interval f m e).high : ℚ) = 4 * m + 2 := by
    simp [Shortest.interval]
  obtain ⟨lower, upper⟩ := holds.within
  obtain ⟨denominator, ratio⟩ := Decimal.ratio_eq positive least most
  rw [← ratio] at lower upper holds
  rw [low] at lower
  rw [high] at upper
  have rounded : f.roundRatio d.ratio.1 d.ratio.2 =
      min f.infinityBits ((e - f.leastExponent).toNat * f.hiddenBit + m) := by
    refine canonical.roundRatio_eq wide nonzero denominator ?_ (by linarith) ?_ ?_
    · split at lower <;> linarith
    · intro odd
      have opened : ¬ (Shortest.interval f m e).closed = true := by simp [Shortest.interval, odd]
      rw [Shortest.Interval.Holds, if_neg opened, low, high] at holds
      refine ⟨?_, by linarith [holds.2]⟩
      have := holds.1
      split at this <;> linarith
    · intro half inner
      rw [if_pos ⟨half, inner⟩] at lower
      linarith
  rw [Decimal.round_eq, rounded]

theorem decode_magnitude {bits : Nat} (finite : bits < f.infinityBits) (nonzero : 0 < bits) :
    ∃ m e, f.decode bits = .finite false m e ∧ f.Canonical m e ∧ 0 < m ∧
      (e - f.leastExponent).toNat * f.hiddenBit + m = bits := by
  have hidden : 0 < f.hiddenBit := Nat.two_pow_pos _
  have signless : bits < f.signBit := by
    refine finite.trans_le (Nat.mul_le_mul_right _ (Nat.sub_le _ _))
  unfold decode
  simp only [Nat.mod_eq_of_lt signless, not_le.mpr signless, decide_false, finite.not_gt,
    finite.ne, if_false]
  split
  next small =>
    exact ⟨bits, f.leastExponent, rfl, ⟨le_rfl, by omega, .inl rfl⟩, nonzero, by simp⟩
  next full =>
    have field : 0 < bits / f.hiddenBit := Nat.div_pos (not_lt.mp full) hidden
    have rest := Nat.mod_lt bits hidden
    have whole := Nat.div_add_mod bits f.hiddenBit
    refine ⟨_, _, rfl, ⟨by omega, by omega, .inr (by omega)⟩, by omega, ?_⟩
    obtain ⟨k, same⟩ : ∃ k, bits / f.hiddenBit = k + 1 := ⟨_, (Nat.succ_pred field.ne').symm⟩
    have offset :
        (f.leastExponent + (bits / f.hiddenBit : Nat) - 1 - f.leastExponent).toNat = k := by
      omega
    rw [offset]
    rw [same] at whole
    linarith

end BinaryFormat

namespace Single

open Float.Model (Format UnpackedFloat)

def IsMagnitude (x : Single) : Prop :=
  ∃ bits < single.infinityBits, x = ofPattern false bits

theorem infinity_isNaN : (Scalar.infinity : Single).isNaN = false := rfl

theorem infinity_eq : (Scalar.infinity : Single) = ofPattern false single.infinityBits := rfl

theorem infinityBits_single : single.infinityBits = 255 * 2 ^ 23 := by decide

theorem not_isNaNBits {word : BitVec Format.binary32.numBits}
    (number : word.toNat ≤ single.infinityBits) : ¬ UnpackedFloat.isNaNBits word = true := by
  rw [UnpackedFloat.isNaNBits, decide_eq_true_eq]
  rintro ⟨exponent, mantissa⟩
  apply mantissa
  apply BitVec.eq_of_toNat_eq
  have field := congrArg BitVec.toNat exponent
  rw [UnpackedFloat.unpackExponent, BitVec.toNat_cast, BitVec.extractLsb_toNat,
    Nat.shiftRight_eq_div_pow] at field
  rw [UnpackedFloat.unpackMantissa, BitVec.toNat_cast, BitVec.extractLsb_toNat,
    Nat.shiftRight_eq_div_pow]
  rw [infinityBits_single] at number
  have full : word.toNat / 2 ^ 23 % 2 ^ 8 = 255 := field
  show word.toNat / 2 ^ 0 % 2 ^ 23 = 0
  omega

theorem toBits_ofPattern {bits : Nat} (number : bits ≤ single.infinityBits) :
    (ofPattern false bits).toBits.toNat = bits := by
  have small : bits < 2 ^ 32 := by
    rw [infinityBits_single] at number
    omega
  have word : (BitVec.ofNat 32 bits).toNat = bits := Nat.mod_eq_of_lt small
  have stored : (Float32.ofBits (UInt32.ofNat bits)).toBits.toBitVec =
      UnpackedFloat.pack Format.binary32 (UnpackedFloat.unpack Format.binary32
        (BitVec.ofNat 32 bits)) := rfl
  -- only the payload of a NaN is lost
  rw [UnpackedFloat.pack_unpack, if_neg (not_isNaNBits (word.trans_le number))] at stored
  rw [ofPattern, withSign, if_neg Bool.false_ne_true, ← UInt32.toNat_toBitVec, stored, word]

theorem ofDecimal_isMagnitude {d : Decimal} (unsigned : d.negative = false)
    (finite : Scalar.isFinite (ofDecimal d) = true) : (ofDecimal d).IsMagnitude := by
  have value : ofDecimal d = ofPattern false (single.roundRatio d.ratio.1 d.ratio.2) := by
    rw [ofDecimal, Decimal.round_eq, ofPattern, unsigned]
  have most : single.roundRatio d.ratio.1 d.ratio.2 ≤ single.infinityBits := min_le_left _ _
  rw [value] at finite ⊢
  refine ⟨_, lt_of_le_of_ne most fun same => ?_, rfl⟩
  rw [same, ← infinity_eq, Scalar.isFinite, Bool.and_eq_true, decide_eq_true_eq,
    decide_eq_true_eq, lt_iff_rank infinity_isNaN infinity_isNaN] at finite
  exact finite.2.false

theorem digits_place {m : Nat} {e : Int} (canonical : single.Canonical m e) (nonzero : 0 < m)
    (finite : e ≤ 105) :
    -(Decimal.exponentBound : Int) ≤ (Shortest.digits single m e).2 ∧
      (Shortest.digits single m e).2 ≤ Decimal.exponentBound := by
  obtain ⟨holds, reached⟩ := Shortest.digits_holds canonical (by decide) (by decide) nonzero
  obtain ⟨lower, upper⟩ := holds.within
  generalize Shortest.digits single m e = written at *
  obtain ⟨digits, place⟩ := written
  have power : (0 : ℚ) < 2 ^ (e - 2) := zpow_pos two_pos _
  have tens : (0 : ℚ) < 10 ^ place := zpow_pos (by norm_num) _
  have least : (-149 : Int) ≤ e := canonical.least
  have bound : m < 2 * 2 ^ 23 := canonical.bound
  show -400 ≤ place ∧ place ≤ 400
  constructor
  · by_contra low
    have : (2 : ℚ) ^ (-149 : Int) ≤ 10 ^ (-45 : Int) :=
      calc (2 : ℚ) ^ (-149 : Int) ≤ 2 ^ e := zpow_le_zpow_right₀ one_le_two least
        _ ≤ 10 ^ (place + 19) := reached.le
        _ ≤ 10 ^ (-45 : Int) := zpow_le_zpow_right₀ (by norm_num) (by omega)
    norm_num at this
  · by_contra high
    have some : (1 : ℚ) ≤ digits := by
      have := holds.nonzero nonzero
      exact_mod_cast this
    have edge : ((Shortest.interval single m e).high : ℚ) ≤ 2 ^ (26 : Int) := by
      have : 4 * m + 2 ≤ 2 ^ 26 := by omega
      exact_mod_cast this
    have : (10 : ℚ) ^ (39 : Int) ≤ 2 ^ (129 : Int) :=
      calc (10 : ℚ) ^ (39 : Int) ≤ 10 ^ place := zpow_le_zpow_right₀ (by norm_num) (by omega)
        _ ≤ digits * 10 ^ place := le_mul_of_one_le_left tens.le some
        _ ≤ (Shortest.interval single m e).high * 2 ^ (e - 2) := (div_le_iff₀ power).mp upper
        _ ≤ 2 ^ (26 : Int) * 2 ^ (103 : Int) :=
          mul_le_mul edge (zpow_le_zpow_right₀ one_le_two (by omega)) power.le (by positivity)
        _ = 2 ^ (129 : Int) := by norm_num
    norm_num at this

/-- The shortest digits of a magnitude read back as the magnitude, wherever the point is set. -/
theorem IsMagnitude.reads_back {x : Single} (magnitude : x.IsMagnitude) :
    ∃ m e, x.decode = .finite false m e ∧
      ∀ d : Decimal, d.negative = false →
        (d.digits : ℚ) * 10 ^ d.exponent =
          (Shortest.digits single m e).1 * 10 ^ (Shortest.digits single m e).2 →
        d.exponent = (Shortest.digits single m e).2 ∨ d.exponent = -1 →
        ofDecimal d = x := by
  obtain ⟨bits, finite, rfl⟩ := magnitude
  have decoded : (ofPattern false bits).decode = single.decode bits := by
    rw [Single.decode, toBits_ofPattern finite.le]
  rw [decoded]
  rcases Nat.eq_zero_or_pos bits with rfl | nonzero
  · refine ⟨0, single.leastExponent, by decide, ?_⟩
    intro d unsigned value _
    have zero : d.digits = 0 := by
      have tens : (10 : ℚ) ^ d.exponent ≠ 0 := zpow_ne_zero _ (by norm_num)
      rw [Shortest.digits, if_pos rfl, Nat.cast_zero, zero_mul, mul_eq_zero_iff_right tens] at value
      exact_mod_cast value
    have ratio : d.ratio = (0, 1) := by rw [Decimal.ratio, if_pos zero]
    rw [ofDecimal, Decimal.round_eq, ofPattern, unsigned, ratio]
    rfl
  · obtain ⟨m, e, pattern, canonical, positive, same⟩ := decode_magnitude finite nonzero
    refine ⟨m, e, pattern, ?_⟩
    intro d unsigned value place
    obtain ⟨holds, _⟩ := Shortest.digits_holds canonical (by decide) (by decide) positive
    have small : e ≤ 105 := by
      have : (e + 149).toNat * 2 ^ 23 + m < 255 * 2 ^ 23 := same.trans_lt finite
      omega
    obtain ⟨least, most⟩ := digits_place canonical positive small
    rw [← value] at holds
    have rounded : d.round single = single.withSign false bits := by
      rw [canonical.round_eq (by decide) positive _ _ holds, same, unsigned, min_eq_right finite.le]
      · rcases place with at_digits | tenths
        · rw [at_digits]; exact least
        · rw [tenths]; decide
      · rcases place with at_digits | tenths
        · rw [at_digits]; exact most
        · rw [tenths]; decide
    rw [ofDecimal, rounded, ofPattern]

end Single

end RayScene
