import RayScene.Proofs.Number.Value

namespace RayScene.Single

open BinaryFormat

variable {x y : Single} {m n : Nat} {d e : Int} {v w : ℚ}

theorem rankOf_le_of_nearest (first : Nearest v m d) (second : Nearest w n e) (less : v < w) :
    rankOf 1 d m ≤ rankOf 1 e n := by
  refine Prod.Lex.toLex_le_toLex.mpr (.inr ⟨rfl, Prod.Lex.toLex_le_toLex.mpr ?_⟩)
  rcases first.mono second less with lower | ⟨same, below⟩
  · exact .inl lower
  · exact .inr ⟨same, Int.ofNat_le.mpr below⟩

theorem Normal.value_pos (normal : Normal x m d) : (0 : ℚ) < m * 2 ^ d :=
  mul_pos (Nat.cast_pos.mpr (by have := normal.least; omega)) (zpow_pos two_pos d)

theorem Normal.canonical (normal : Normal x m d) : single.Canonical m d := by
  obtain ⟨_, _, _, read⟩ := normal
  have canonical := unpack_canonical x
  rwa [read] at canonical

theorem Normal.lt_of_rank (first : Normal x m d) (second : Normal y n e)
    (less : rankOf 1 d m < rankOf 1 e n) : (m * 2 ^ d : ℚ) < n * 2 ^ e := by
  rw [rankOf_lt_iff] at less
  exact significand_lt first.canonical second.canonical (by omega)

theorem Normal.unpack_eq (first : Normal x m d) (second : Normal y n e)
    (same : rankOf 1 d m = rankOf 1 e n) : x.toModel.unpack = y.toModel.unpack := by
  obtain ⟨-, -, _, left⟩ := first
  obtain ⟨-, -, _, right⟩ := second
  obtain ⟨-, rfl, cast⟩ := rankOf_inj.mp same
  obtain rfl := Int.ofNat_inj.mp cast
  rw [left, right]

variable {k : Nat}

def fraction (m n : Nat) : Single := Scalar.ofNat m / Scalar.ofNat n

section
variable (positive : 0 < n) (small : n < 2 ^ 32)
include positive small

theorem fraction_zero : (fraction 0 n).toModel.unpack = .zero .positive := by
  obtain ⟨_, _, ⟨-, -, _, unpacked⟩, -⟩ := ofNat_rounds positive small
  have zero : (Scalar.ofNat 0 : Single).toModel.unpack = .zero .positive := by rfl
  have quotient : fraction 0 n = Float32.ofModel (Float32.Model.pack (.zero .positive)) := by
    show Float32.ofModel (Float32.Model.pack (Float.Model.UnpackedFloat.div _
      (Scalar.ofNat 0 : Single).toModel.unpack (Scalar.ofNat n : Single).toModel.unpack)) = _
    rw [zero, unpacked]
    rfl
  rw [quotient]
  rfl

theorem fraction_normal (some : 0 < m) (few : m < 2 ^ 32) :
    ∃ r e, Normal (fraction m n) r e := by
  obtain ⟨_, _, above, _⟩ := ofNat_rounds some few
  obtain ⟨_, _, below, _⟩ := ofNat_rounds positive small
  obtain ⟨_, _, quotient, _⟩ := div_rounds above below (by omega) (by omega)
  exact ⟨_, _, quotient⟩

theorem fraction_isNaN (few : m < 2 ^ 32) : (fraction m n).isNaN = false := by
  rcases Nat.eq_zero_or_pos m with rfl | some
  · show (fraction 0 n).toModel.unpack.isNaN = false
    rw [fraction_zero positive small]
    rfl
  · obtain ⟨_, _, normal⟩ := fraction_normal positive small some few
    exact normal.isNaN_eq

theorem fraction_nonneg (few : m < 2 ^ 32) : 0.0 ≤ fraction m n := by
  have start : rank 0.0 = rankOf 0 0 0 := rfl
  rw [le_iff_rank rfl (fraction_isNaN positive small few), start]
  rcases Nat.eq_zero_or_pos m with rfl | some
  · rw [rank, fraction_zero positive small, unpackedRank]
  · obtain ⟨_, _, normal⟩ := fraction_normal positive small some few
    rw [normal.rank_eq]
    exact (rankOf_lt (by decide)).le

theorem fraction_mono (grows : k ≤ m) (few : m < 2 ^ 32) : fraction k n ≤ fraction m n := by
  have number := fraction_isNaN positive small few
  have number' := fraction_isNaN (m := k) positive small (by omega)
  rcases grows.eq_or_lt with rfl | more
  · exact (le_iff_rank number number).mpr le_rfl
  rcases Nat.eq_zero_or_pos k with rfl | some
  · have start : rank (0.0 : Single) = rank (fraction 0 n) := by
      rw [rank, rank, fraction_zero positive small]
      rfl
    rw [le_iff_rank number' number, ← start, ← le_iff_rank rfl number]
    exact fraction_nonneg positive small few
  obtain ⟨_, _, first, near, _, _⟩ := ofNat_rounds some (by omega)
  obtain ⟨_, _, second, near', _, _⟩ := ofNat_rounds (some.trans more) few
  obtain ⟨_, _, below, _⟩ := ofNat_rounds positive small
  rcases (rankOf_le_of_nearest near near' (by exact_mod_cast more)).eq_or_lt with same | less
  · -- the two numerators are rounded to one number
    have quotients : fraction k n = fraction m n := by
      show Float32.ofModel (Float32.Model.pack (Float.Model.UnpackedFloat.div _
        (Scalar.ofNat k : Single).toModel.unpack (Scalar.ofNat n : Single).toModel.unpack)) = _
      rw [first.unpack_eq second same]
      rfl
    rw [quotients]
    exact (le_iff_rank number number).mpr le_rfl
  · obtain ⟨_, _, quotient, close, -, -⟩ := div_rounds first below (by omega) (by omega)
    obtain ⟨_, _, quotient', close', -, -⟩ := div_rounds second below (by omega) (by omega)
    have scaled := div_lt_div_of_pos_right (first.lt_of_rank second less) below.value_pos
    rw [le_iff_rank number' number]
    show rank (Scalar.ofNat k / Scalar.ofNat n : Single) ≤
      rank (Scalar.ofNat m / Scalar.ofNat n : Single)
    rw [quotient.rank_eq, quotient'.rank_eq]
    exact rankOf_le_of_nearest close close' scaled

theorem fraction_self : rank (fraction n n) = rank 1.0 := by
  obtain ⟨_, _, whole, _⟩ := ofNat_rounds positive small
  obtain ⟨_, _, quotient, near, -, -⟩ := div_rounds whole whole (by omega) (by omega)
  have one : (1 : ℚ) = (2 ^ 23 : Nat) * 2 ^ (-23 : Int) := by norm_num
  rw [div_self whole.value_pos.ne', one] at near
  obtain ⟨rfl, exponent⟩ := near.of_full le_rfl (by decide)
  show rank (Scalar.ofNat n / Scalar.ofNat n : Single) = _
  rw [quotient.rank_eq, ← exponent]
  rfl

theorem fraction_le_one (part : m ≤ n) : fraction m n ≤ 1.0 := by
  have number := fraction_isNaN (m := m) positive small (by omega)
  have number' := fraction_isNaN (m := n) positive small small
  have below := fraction_mono positive small part small
  rw [le_iff_rank number number', fraction_self positive small] at below
  exact (le_iff_rank number rfl).mpr below

end

end RayScene.Single
