import RayScene.Proofs.Number.Finite

namespace RayScene.Single

open BinaryFormat
open Float.Model (Format UnpackedFloat)
open Float.Model.UnpackedFloat (Sign)

/-- The number that is stood for. There is none for an infinity and for NaN, which count as zero. -/
def unpackedValue : UnpackedFloat → ℚ
  | .finite sign m e _ => (sign.apply m : ℤ) * 2 ^ e
  | _ => 0

/-- The number that a finite single stands for. -/
noncomputable def value (x : Single) : ℝ := unpackedValue x.toModel.unpack

theorem value_eq {x : Single} {q : ℚ} (stored : unpackedValue x.toModel.unpack = q) :
    x.value = q := by
  rw [value, stored]

theorem zero_value : (Scalar.zero : Single).value = 0 := by
  rw [value_eq (x := Scalar.zero) (q := 0) (by decide), Rat.cast_zero]

theorem literal_zero_value : (0.0 : Single).value = 0 := zero_value

theorem half_value : (0.5 : Single).value = 0.5 := by
  rw [value_eq (x := 0.5) (q := 0.5) (by decide +kernel)]
  norm_num

theorem one_value : (1.0 : Single).value = 1 := by
  rw [value_eq (x := 1.0) (q := 1) (by decide +kernel), Rat.cast_one]

section Finite

variable {sign : Sign} {m : Nat} {e : Int} {positive : 0 < m}

@[simp] theorem unpackedValue_zero (sign : Sign) : unpackedValue (.zero sign) = 0 := rfl

theorem unpackedValue_positive :
    unpackedValue (.finite .positive m e positive) = m * 2 ^ e := by
  show (((m : ℤ) : ℚ)) * 2 ^ e = _
  rw [Int.cast_natCast]

theorem unpackedValue_negative :
    unpackedValue (.finite .negative m e positive) = -(m * 2 ^ e) := by
  show (((-(m : ℤ) : ℤ) : ℚ)) * 2 ^ e = _
  rw [Int.cast_neg, Int.cast_natCast, neg_mul]

theorem abs_unpackedValue : |unpackedValue (.finite sign m e positive)| = m * 2 ^ e := by
  have nonneg : (0 : ℚ) ≤ m * 2 ^ e := by positivity
  cases sign with
  | negative => rw [unpackedValue_negative, abs_neg, abs_of_nonneg nonneg]
  | positive => rw [unpackedValue_positive, abs_of_nonneg nonneg]

end Finite

theorem unpack_canonical (x : Single) : IsCanonical x.toModel.unpack := unpack_isCanonical _

theorem rankOf_lt_iff (a b c x y z : ℤ) :
    rankOf a b c < rankOf x y z ↔ a < x ∨ a = x ∧ (b < y ∨ b = y ∧ c < z) := by
  rw [rankOf, rankOf, Prod.Lex.toLex_lt_toLex, Prod.Lex.toLex_lt_toLex]

theorem significand_lt {m n : Nat} {e f : Int} (first : single.Canonical m e)
    (second : single.Canonical n f) (less : e < f ∨ e = f ∧ m < n) :
    (m * 2 ^ e : ℚ) < n * 2 ^ f := by
  have unit : (0 : ℚ) < 2 ^ e := zpow_pos two_pos e
  rw [canonical_iff] at first second
  rcases less with lower | ⟨rfl, below⟩
  · have double : (2 : ℚ) ^ (e + 1) ≤ 2 ^ f := zpow_le_zpow_right₀ one_le_two lower
    rw [zpow_add_one₀ two_ne_zero] at double
    have most : (m : ℚ) < 2 ^ 24 := by exact_mod_cast first.2.1
    have least : (2 : ℚ) ^ 23 ≤ n := by
      have full : 2 ^ 23 ≤ n := second.2.2.resolve_left (by omega)
      exact_mod_cast full
    calc (m * 2 ^ e : ℚ) < 2 ^ 24 * 2 ^ e := mul_lt_mul_of_pos_right most unit
      _ = 2 ^ 23 * (2 ^ e * 2) := by ring
      _ ≤ 2 ^ 23 * 2 ^ f := mul_le_mul_of_nonneg_left double (by positivity)
      _ ≤ n * 2 ^ f := mul_le_mul_of_nonneg_right least (zpow_nonneg two_pos.le f)
  · exact mul_lt_mul_of_pos_right (by exact_mod_cast below) unit

theorem unpackedValue_lt {u v : UnpackedFloat} (first : IsCanonical u) (second : IsCanonical v)
    (proper : isProper u = true) (proper' : isProper v = true)
    (less : unpackedRank u < unpackedRank v) : unpackedValue u < unpackedValue v := by
  have some {m : Nat} (e : Int) (positive : 0 < m) : (0 : ℚ) < m * 2 ^ e :=
    mul_pos (Nat.cast_pos.mpr positive) (zpow_pos two_pos e)
  rcases u with _ | _ | _ | ⟨(_ | _), m, e, pos⟩ <;> rcases v with _ | _ | _ | ⟨(_ | _), n, f, pos'⟩
  case finite.negative.finite.negative =>
    rw [unpackedRank, unpackedRank, rankOf_lt_iff] at less
    rw [unpackedValue_negative, unpackedValue_negative, neg_lt_neg_iff]
    exact significand_lt second first (by omega)
  case finite.positive.finite.positive =>
    rw [unpackedRank, unpackedRank, rankOf_lt_iff] at less
    rw [unpackedValue_positive, unpackedValue_positive]
    exact significand_lt first second (by omega)
  case finite.negative.finite.positive =>
    rw [unpackedValue_negative, unpackedValue_positive]
    linarith [some e pos, some f pos']
  case finite.negative.zero =>
    rw [unpackedValue_negative, unpackedValue_zero]
    linarith [some e pos]
  case zero.finite.positive =>
    rw [unpackedValue_positive, unpackedValue_zero]
    exact some f pos'
  all_goals first
    | cases proper; done
    | cases proper'; done
    | exact absurd less (by rw [unpackedRank, unpackedRank, rankOf_lt_iff]; omega)

theorem rankOf_inj {a b c x y z : ℤ} :
    rankOf a b c = rankOf x y z ↔ a = x ∧ b = y ∧ c = z := by
  rw [rankOf, rankOf, toLex_inj, Prod.mk.injEq, toLex_inj, Prod.mk.injEq]

theorem unpackedValue_congr {u v : UnpackedFloat} (proper : isProper u = true)
    (proper' : isProper v = true) (same : unpackedRank u = unpackedRank v) :
    unpackedValue u = unpackedValue v := by
  rcases u with _ | _ | _ | ⟨(_ | _), m, e, pos⟩ <;> rcases v with _ | _ | _ | ⟨(_ | _), n, f, pos'⟩
  case finite.negative.finite.negative =>
    obtain ⟨-, exponent, significand⟩ := rankOf_inj.mp same
    obtain rfl : m = n := by omega
    obtain rfl : e = f := by omega
    rfl
  case finite.positive.finite.positive =>
    obtain ⟨-, rfl, significand⟩ := rankOf_inj.mp same
    obtain rfl : m = n := by omega
    rfl
  case zero.zero => rfl
  all_goals first
    | cases proper; done
    | cases proper'; done
    | exact absurd (rankOf_inj.mp same).1 (by decide)

section Order

variable {x y : Single} (first : Scalar.isFinite x = true) (second : Scalar.isFinite y = true)
include first second

theorem value_lt_of_rank (less : rank x < rank y) : x.value < y.value := by
  rw [isFinite_eq_isProper] at first second
  exact Rat.cast_lt.mpr
    (unpackedValue_lt (unpack_canonical x) (unpack_canonical y) first second less)

theorem rank_le_iff : rank x ≤ rank y ↔ x.value ≤ y.value := by
  constructor
  · intro below
    rcases below.lt_or_eq with less | same
    · exact (value_lt_of_rank first second less).le
    · rw [isFinite_eq_isProper] at first second
      rw [value, value, unpackedValue_congr first second same]
  · intro below
    by_contra more
    exact (value_lt_of_rank second first (not_le.mp more)).not_ge below

theorem le_iff_value : x ≤ y ↔ x.value ≤ y.value :=
  (le_iff_rank (isNaN_eq_false first) (isNaN_eq_false second)).trans (rank_le_iff first second)

theorem lt_iff_value : x < y ↔ x.value < y.value := by
  rw [lt_iff_rank (isNaN_eq_false first) (isNaN_eq_false second), ← not_le, ← not_le,
    rank_le_iff second first]

end Order

theorem exponent_le {x : Single} {sign : Sign} {m : Nat} {e : Int} {positive : 0 < m}
    (read : x.toModel.unpack = .finite sign m e positive) : e ≤ 104 := by
  by_contra large
  have kept : reread x.toModel.unpack = x.toModel.unpack := by
    show UnpackedFloat.unpack Format.binary32 (UnpackedFloat.pack Format.binary32
      (UnpackedFloat.unpack Format.binary32 x.toModel.toBits.toBitVec)) = _
    rw [UnpackedFloat.pack_unpack_of_valid x.toModel.valid]
    rfl
  rw [read, reread_overflow (by omega)] at kept
  cases kept

theorem stored_lt {m : Nat} {e : Int} (small : m < 2 ^ 24) (most : e ≤ 104) :
    (m * 2 ^ e : ℚ) < 2 ^ 128 := by
  have significand : (m : ℚ) < 2 ^ 24 := by exact_mod_cast small
  have exponent : (2 : ℚ) ^ e ≤ 2 ^ (104 : ℤ) := zpow_le_zpow_right₀ one_le_two most
  calc (m * 2 ^ e : ℚ) < 2 ^ 24 * 2 ^ (104 : ℤ) :=
        mul_lt_mul significand exponent (by positivity) (by positivity)
    _ = 2 ^ 128 := by norm_num

theorem abs_value_lt (x : Single) : |x.value| < 2 ^ 128 := by
  have canonical := unpack_canonical x
  rw [value]
  cases read : x.toModel.unpack with
  | finite sign m e positive =>
      rw [read] at canonical
      have bound : |unpackedValue (.finite sign m e positive)| < 2 ^ 128 := by
        rw [abs_unpackedValue]
        exact stored_lt ((canonical_iff m e).mp canonical).2.1 (exponent_le read)
      exact_mod_cast bound
  | _ =>
      show |((0 : ℚ) : ℝ)| < 2 ^ 128
      rw [Rat.cast_zero, abs_zero]
      positivity

end RayScene.Single
