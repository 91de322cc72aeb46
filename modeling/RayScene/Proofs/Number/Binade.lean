import RayScene.Proofs.Number.Nearest
import RayScene.Proofs.Number.Stored

/-!
Arithmetic on positive numbers of moderate size. A result is the nearest number to the exact one,
and has its leading bit at the exact place or at the next one, so quotients of whole numbers with
32 bits are far from both ends of the format.
-/

namespace RayScene.Single

open Float.Model (Format UnpackedFloat)
open Float.Model.UnpackedFloat (Accuracy ExtendedMantissa Sign)

structure Normal (x : Single) (m : Nat) (e : Int) : Prop where
  least : 2 ^ 23 ≤ m
  most : m < 2 ^ 24
  unpacked : ∃ pos, x.toModel.unpack = .finite .positive m e pos

def Rounds (v : ℚ) (low high : Int) (x : Single) : Prop :=
  ∃ m k, Normal x m (k - 23) ∧ Nearest v m (k - 23) ∧ low ≤ k ∧ k ≤ high

theorem Rounds.widen {v : ℚ} {low high low' high' : Int} {x : Single} (rounds : Rounds v low high x)
    (below : low' ≤ low) (above : high ≤ high') : Rounds v low' high' x := by
  obtain ⟨m, k, normal, nearest, least, most⟩ := rounds
  exact ⟨m, k, normal, nearest, by omega, by omega⟩

/-- A full significand is stored as it is. -/
theorem unpack_pack {m : Nat} {k : Int} (pos : 0 < m) (low : 2 ^ 23 ≤ m) (high : m < 2 ^ 24)
    (least : -126 ≤ k) (most : k ≤ 127) :
    (Float32.ofModel (Float32.Model.pack (.finite .positive m (k - 23) pos))).toModel.unpack =
      .finite .positive m (k - 23) pos :=
  reread_canonical ((canonical_iff _ _).mpr ⟨by omega, high, .inr low⟩) (by omega) pos

variable {x y : Single} {m n : Nat} {k l : Int}

theorem rounds_of_fits {e : Int} {accuracy : Accuracy} {t : ℚ} (fits : Fits m accuracy t)
    (enough : 23 ≤ m.log2) (place : (m.log2 : Int) + e = k) (least : -126 ≤ k) (most : k ≤ 126)
    (result : x = Float32.ofModel (Float32.Model.pack
      (UnpackedFloat.roundWithAccuracy Format.binary32 .positive m e accuracy))) :
    Rounds (t * 2 ^ e) k (k + 1) x := by
  obtain ⟨r, j, pos, rounded, top, nearest⟩ := roundWithAccuracy_nearest fits enough place least
  have stored := unpack_pack pos nearest.least nearest.most (k := j) (by omega) (by omega)
  rw [rounded] at result
  rw [← result] at stored
  exact ⟨r, j, ⟨nearest.least, nearest.most, pos, stored⟩, nearest, by omega, by omega⟩

theorem mul_rounds (first : Normal x m (k - 23)) (second : Normal y n (l - 23))
    (least : -126 ≤ k + l) (most : k + l ≤ 125) :
    Rounds (m * 2 ^ (k - 23) * (n * 2 ^ (l - 23))) (k + l) (k + l + 2) (x * y) := by
  obtain ⟨low, high, _, left⟩ := first
  obtain ⟨low', high', _, right⟩ := second
  have product : x * y = Float32.ofModel (Float32.Model.pack
      (UnpackedFloat.roundWithAccuracy Format.binary32 .positive (m * n) (k - 23 + (l - 23))
        .exact)) := by
    show Float32.ofModel (Float32.Model.pack
      (UnpackedFloat.mul Format.binary32 x.toModel.unpack y.toModel.unpack)) = _
    rw [left, right]
    rfl
  have wide : 2 ^ 46 ≤ m * n :=
    calc 2 ^ 46 = 2 ^ 23 * 2 ^ 23 := by norm_num
      _ ≤ m * n := Nat.mul_le_mul low low'
  have narrow : m * n < 2 ^ 48 :=
    calc m * n < 2 ^ 24 * 2 ^ 24 := Nat.mul_lt_mul'' high high'
      _ = 2 ^ 48 := by norm_num
  have log : 46 ≤ (m * n).log2 := (Nat.le_log2 (by omega)).mpr wide
  have log' : (m * n).log2 < 48 := (Nat.log2_lt (by omega)).mpr narrow
  have exact : Fits (m * n) .exact (m * n : ℚ) := (Nat.cast_mul m n).symm
  have rounds := rounds_of_fits exact (by omega) rfl (by omega) (by omega) product
  have value : (m * n : ℚ) * 2 ^ (k - 23 + (l - 23)) = m * 2 ^ (k - 23) * (n * 2 ^ (l - 23)) := by
    rw [zpow_add₀ two_ne_zero]
    ring
  rw [value] at rounds
  exact rounds.widen (by omega) (by omega)

theorem fits_quotient (a : Nat) {b : Nat} (positive : 0 < b) :
    Fits (a / b) (UnpackedFloat.accuracyOfFraction (a % b) b) (a / b : ℚ) := by
  have divisor : (0 : ℚ) < b := Nat.cast_pos.mpr positive
  have parts : (a / b : ℚ) = (a / b : Nat) + ((a % b : Nat) : ℚ) / b := by
    have whole : (b : ℚ) * (a / b : Nat) + (a % b : Nat) = a := by
      exact_mod_cast Nat.div_add_mod a b
    field_simp
    linarith
  have below : ((a % b : Nat) : ℚ) / b < 1 := by
    rw [div_lt_one divisor]
    exact_mod_cast Nat.mod_lt a positive
  rw [parts]
  generalize a % b = r at below
  unfold UnpackedFloat.accuracyOfFraction
  split
  next none =>
    show _ = _
    rw [none, Nat.cast_zero, zero_div, add_zero]
  next some =>
    have more : (0 : ℚ) < r / b := div_pos (Nat.cast_pos.mpr (by omega)) divisor
    have half : (r / b : ℚ) = (2 * r : Nat) / b / 2 := by
      push_cast
      ring
    rcases lt_trichotomy (2 * r) b with less | same | greater
    · rw [compare_lt_iff_lt.mpr less]
      have : ((2 * r : Nat) : ℚ) / b < 1 := by
        rw [div_lt_one divisor]
        exact_mod_cast less
      constructor <;> linarith
    · rw [compare_eq_iff_eq.mpr same]
      show _ = _
      rw [half, same, div_self divisor.ne']
    · rw [compare_gt_iff_gt.mpr greater]
      have : 1 < ((2 * r : Nat) : ℚ) / b := by
        rw [one_lt_div divisor]
        exact_mod_cast greater
      constructor <;> linarith

theorem div_rounds (first : Normal x m (k - 23)) (second : Normal y n (l - 23))
    (least : -125 ≤ k - l) (most : k - l ≤ 125) :
    Rounds (m * 2 ^ (k - 23) / (n * 2 ^ (l - 23))) (k - l - 1) (k - l + 1) (x / y) := by
  obtain ⟨low, high, _, left⟩ := first
  obtain ⟨low', high', _, right⟩ := second
  have target : min (k - 23 - (l - 23)) (Format.binary32.targetExponent
      (Float.Model.totalExponent m (k - 23) - Float.Model.totalExponent n (l - 23))) =
      k - l - 24 := by
    rw [Float.Model.totalExponent, Float.Model.totalExponent, log2_of_full low high,
      log2_of_full low' high', targetExponent_normal (by omega)]
    omega
  have core : UnpackedFloat.divCore Format.binary32 m (k - 23) n (l - 23) =
      (m * 2 ^ 24 / n, k - l - 24, UnpackedFloat.accuracyOfFraction (m * 2 ^ 24 % n) n) := by
    have amount : (k - 23 - (l - 23) - (k - l - 24)).toNat = 24 := by omega
    unfold UnpackedFloat.divCore
    dsimp only
    rw [target, amount, Nat.shiftLeft_eq]
  have quotient : x / y = Float32.ofModel (Float32.Model.pack
      (UnpackedFloat.roundWithAccuracy Format.binary32 .positive (m * 2 ^ 24 / n) (k - l - 24)
        (UnpackedFloat.accuracyOfFraction (m * 2 ^ 24 % n) n))) := by
    show Float32.ofModel (Float32.Model.pack
      (UnpackedFloat.div Format.binary32 x.toModel.unpack y.toModel.unpack)) = _
    rw [left, right]
    unfold UnpackedFloat.div
    dsimp only
    rw [core]
    rfl
  -- both operands are full, so the quotient has 24 or 25 bits
  have wide : 2 ^ 23 ≤ m * 2 ^ 24 / n := by
    rw [Nat.le_div_iff_mul_le (by omega)]
    omega
  have narrow : m * 2 ^ 24 / n < 2 ^ 25 := by
    rw [Nat.div_lt_iff_lt_mul (by omega)]
    omega
  have log : 23 ≤ (m * 2 ^ 24 / n).log2 := (Nat.le_log2 (by omega)).mpr wide
  have log' : (m * 2 ^ 24 / n).log2 < 25 := (Nat.log2_lt (by omega)).mpr narrow
  have rounds := rounds_of_fits (fits_quotient (m * 2 ^ 24) (by omega)) log rfl (by omega)
    (by omega) quotient
  have value : ((m * 2 ^ 24 : Nat) / n : ℚ) * 2 ^ (k - l - 24) =
      m * 2 ^ (k - 23) / (n * 2 ^ (l - 23)) := by
    have exponent : k - l - 24 = k - 23 - (l - 23) - (24 : Nat) := by omega
    rw [exponent, zpow_sub₀ two_ne_zero, zpow_sub₀ two_ne_zero, zpow_natCast, Nat.cast_mul,
      Nat.cast_pow, Nat.cast_two]
    field_simp
  rw [value] at rounds
  exact rounds.widen (by omega) (by omega)

theorem compare_pos (positive : 0 < n) : compare (n : Int) 0 = .gt :=
  compare_gt_iff_gt.mpr (Int.natCast_pos.mpr positive)

theorem ofUInt64_normal (positive : 0 < n) (small : n < 2 ^ 24) :
    ∃ m k, Normal n.toUInt64.toFloat32 m (k - 23) ∧ (m * 2 ^ (k - 23) : ℚ) = n ∧
      0 ≤ k ∧ k ≤ 24 := by
  have few : n.log2 < 24 := (Nat.log2_lt (by omega)).mpr small
  have word : n.toUInt64.toNat = n := by
    show n % 2 ^ 64 = n
    omega
  have amount : (0 - Format.binary32.targetExponent (Float.Model.totalExponent n 0)).toNat =
      23 - n.log2 := by
    rw [Float.Model.totalExponent, targetExponent_normal (by omega)]
    omega
  obtain ⟨low, high⟩ := scaled_bounds (Nat.log2_self_le (by omega)) Nat.lt_log2_self
    (show n.log2 ≤ 23 by omega)
  have scaled_log := log2_of_full low high
  have converted : n.toUInt64.toFloat32 = Float32.ofModel (Float32.Model.pack
      (UnpackedFloat.roundWithAccuracy Format.binary32 .positive (scaled n n.log2)
        (0 - (23 - n.log2 : Nat)) .exact)) := by
    show Float32.ofModel (Float32.Model.pack
      (UnpackedFloat.normalize Format.binary32 (n.toUInt64.toNat : Int) 0 .positive)) = _
    unfold UnpackedFloat.normalize UnpackedFloat.round UnpackedFloat.decreaseExponent
    rw [word, compare_pos positive]
    dsimp only
    rw [Int.toNat_natCast, amount, Nat.shiftLeft_eq]
    rfl
  have exact : Fits (scaled n n.log2) .exact (scaled n n.log2 : ℚ) := rfl
  obtain ⟨m, k, normal, nearest, least, most⟩ := rounds_of_fits exact (by omega) (k := n.log2)
    (by omega) (by omega) (by omega) converted
  obtain ⟨rfl, same⟩ := nearest.of_full low high
  refine ⟨_, k, normal, ?_, by omega, by omega⟩
  rw [← same, ← scaled_ratio (by omega), Nat.cast_one, div_one]
  have exponent : (n.log2 : Int) - 23 = 0 - (23 - n.log2 : Nat) := by omega
  rw [exponent, div_mul_cancel₀ _ (zpow_ne_zero _ two_ne_zero)]

theorem one_normal : Normal (Float32.ofBits 0x3F800000) (2 ^ 23) (0 - 23) :=
  ⟨by decide, by decide, by decide, rfl⟩

theorem log2_widened (positive : 0 < n) : (n * 2 ^ 24 * 1).log2 = n.log2 + 24 := by
  have low : 2 ^ n.log2 ≤ n := Nat.log2_self_le (by omega)
  have high : n < 2 ^ (n.log2 + 1) := Nat.lt_log2_self
  rw [Nat.mul_one, Nat.log2_eq_iff (by omega), Nat.pow_add, Nat.add_right_comm, Nat.pow_add]
  exact ⟨Nat.mul_le_mul_right _ low, Nat.mul_lt_mul_of_pos_right high (Nat.two_pow_pos 24)⟩

/-- A whole number is given bits to spare and rounded. -/
theorem ofScientific_eq (positive : 0 < n) :
    Float32.ofModel (Float32.Model.ofScientific n 0) =
      Float32.ofModel (Float32.Model.pack (UnpackedFloat.roundWithAccuracy Format.binary32
        .positive (n * 2 ^ 24 * 1) (-24 + 0) .exact)) := by
  show Float32.ofModel (Float32.Model.pack (UnpackedFloat.ofScientific Format.binary32 n 0)) = _
  have large : ¬ (0 : Int) > 2 ^ Format.binary32.exponentBits := by decide
  have tiny : ¬ (0 : Int) < -((2 ^ Format.binary32.exponentBits : Int) + n.log2) := by
    show ¬ (0 : Int) < -(256 + n.log2)
    omega
  have product : UnpackedFloat.ofScientific Format.binary32 n 0 =
      UnpackedFloat.roundWithAccuracy Format.binary32 .positive (n <<< 24 * 1) (-24 + 0)
        .exact := by
    unfold UnpackedFloat.ofScientific
    rw [dif_neg (by omega), if_neg large, if_neg tiny, if_pos (by decide)]
    rfl
  rw [product, Nat.shiftLeft_eq]

theorem widened_value (n : Nat) : ((n * 2 ^ 24 * 1 : Nat) : ℚ) * 2 ^ (-24 + 0 : Int) = n := by
  have unit : (2 : ℚ) ^ 24 * 2 ^ (-24 + 0 : Int) = 1 := by norm_num
  rw [Nat.mul_one, Nat.cast_mul, Nat.cast_pow, Nat.cast_two, mul_assoc, unit, mul_one]

theorem ofScientific_rounds (positive : 0 < n) (small : n < 2 ^ 32) :
    Rounds n 0 32 (Float32.ofModel (Float32.Model.ofScientific n 0)) := by
  have few : n.log2 < 32 := (Nat.log2_lt (by omega)).mpr small
  have log := log2_widened positive
  have exact : Fits (n * 2 ^ 24 * 1) .exact ((n * 2 ^ 24 * 1 : Nat) : ℚ) := rfl
  have rounds := rounds_of_fits exact (k := n.log2) (by omega) (by omega) (by omega) (by omega)
    (ofScientific_eq positive)
  rw [widened_value] at rounds
  exact rounds.widen (by omega) (by omega)

theorem ofNat_rounds (positive : 0 < n) (small : n < 2 ^ 32) :
    Rounds n 0 32 (Scalar.ofNat n) := by
  have number : (Scalar.ofNat n : Single) = Float32.ofScientific n false 0 := rfl
  rw [number]
  unfold Float32.ofScientific
  split
  next fast =>
    obtain ⟨m, k, normal, value, least, most⟩ := ofUInt64_normal positive (by omega)
    have rounds := mul_rounds normal one_normal (by omega) (by omega)
    have unit : ((2 ^ 23 : Nat) : ℚ) * 2 ^ (0 - 23 : Int) = 1 := by norm_num
    rw [value, unit, mul_one] at rounds
    exact rounds.widen (by omega) (by omega)
  next => exact ofScientific_rounds positive small

theorem Normal.isNaN_eq (normal : Normal x m k) : x.isNaN = false := by
  obtain ⟨_, _, _, unpacked⟩ := normal
  show x.toModel.unpack.isNaN = false
  rw [unpacked]
  rfl

theorem Normal.rank_eq (normal : Normal x m k) : rank x = rankOf 1 k m := by
  obtain ⟨_, _, _, unpacked⟩ := normal
  rw [rank, unpacked, unpackedRank]

theorem rankOf_lt {a b c d e f : ℤ} (less : a < d) : rankOf a b c < rankOf d e f :=
  Prod.Lex.toLex_lt_toLex.mpr (.inl less)

theorem Normal.pos (normal : Normal x m k) : Scalar.zero < x := by
  have start : rank (Scalar.zero : Single) = rankOf 0 0 0 := rfl
  rw [lt_iff_rank rfl normal.isNaN_eq, start, normal.rank_eq]
  exact rankOf_lt (by decide)

theorem Normal.isPositive (normal : Normal x m k) : Scalar.isPositive x = true := by
  have below : x < Scalar.infinity := by
    have top : rank (Scalar.infinity : Single) = rankOf 2 0 0 := rfl
    rw [lt_iff_rank normal.isNaN_eq rfl, top, normal.rank_eq]
    exact rankOf_lt (by decide)
  have above : -Scalar.infinity < x := by
    have bottom : rank (-Scalar.infinity : Single) = rankOf (-2) 0 0 := rfl
    rw [lt_iff_rank rfl normal.isNaN_eq, bottom, normal.rank_eq]
    exact rankOf_lt (by decide)
  simp [Scalar.isPositive, Scalar.isFinite, above, below, normal.pos]

/-- A quotient of whole numbers that fit into 32 bits does not vanish and does not overflow. -/
theorem quotient_isPositive (first : 0 < m) (first_small : m < 2 ^ 32) (second : 0 < n)
    (second_small : n < 2 ^ 32) :
    Scalar.isPositive (Scalar.ofNat m / Scalar.ofNat n : Single) = true := by
  obtain ⟨_, _, above, _⟩ := ofNat_rounds first first_small
  obtain ⟨_, _, below, _⟩ := ofNat_rounds second second_small
  obtain ⟨_, _, quotient, _⟩ := div_rounds above below (by omega) (by omega)
  exact quotient.isPositive

end RayScene.Single
