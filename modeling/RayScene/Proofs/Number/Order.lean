import Mathlib
import RayScene.Geometry.Scalar

namespace RayScene.Single

open Float.Model (UnpackedFloat)

abbrev Rank := ℤ ×ₗ ℤ ×ₗ ℤ

def rankOf (kind exponent significand : ℤ) : Rank := toLex (kind, toLex (exponent, significand))

def unpackedRank : UnpackedFloat → Rank
  | .infinity .negative => rankOf (-2) 0 0
  | .finite .negative m e _ => rankOf (-1) (-e) (-m)
  | .zero _ | .notANumber => rankOf 0 0 0
  | .finite .positive m e _ => rankOf 1 e m
  | .infinity .positive => rankOf 2 0 0

theorem rankOf_compare (a b c x y z : ℤ) :
    compare (rankOf a b c) (rankOf x y z) =
      (compare a x).then ((compare b y).then (compare c z)) := rfl

theorem compare_neg (a b : ℤ) : compare (-a) (-b) = (compare a b).swap := by
  rw [Int.compare_swap]
  rcases lt_trichotomy a b with less | rfl | more
  · rw [compare_gt_iff_gt.mpr less, compare_gt_iff_gt.mpr (Int.neg_lt_neg less)]
  · rw [compare_eq_iff_eq.mpr rfl, compare_eq_iff_eq.mpr rfl]
  · rw [compare_lt_iff_lt.mpr more, compare_lt_iff_lt.mpr (Int.neg_lt_neg more)]

theorem compare_cast (m n : ℕ) : compare (m : ℤ) n = compare m n := by
  rcases lt_trichotomy m n with less | rfl | more
  · rw [compare_lt_iff_lt.mpr less, compare_lt_iff_lt.mpr (Int.ofNat_lt.mpr less)]
  · rw [compare_eq_iff_eq.mpr rfl, compare_eq_iff_eq.mpr rfl]
  · rw [compare_gt_iff_gt.mpr more, compare_gt_iff_gt.mpr (Int.ofNat_lt.mpr more)]

theorem compare_unpacked {a b : UnpackedFloat} (first : a.isNaN = false)
    (second : b.isNaN = false) :
    a.compare b = some (compare (unpackedRank a) (unpackedRank b)) := by
  rcases a with (_ | _) | _ | _ | ⟨(_ | _), m, d, hm⟩ <;>
    rcases b with (_ | _) | _ | _ | ⟨(_ | _), n, e, hn⟩
  case finite.negative.finite.negative =>
    rw [unpackedRank, unpackedRank, rankOf_compare, compare_neg d e, compare_neg m n,
      compare_cast, ← Ordering.swap_then]
    rfl
  case finite.positive.finite.positive =>
    rw [unpackedRank, unpackedRank, rankOf_compare, compare_cast]
    rfl
  all_goals first
    | rfl
    | exact absurd first.symm Bool.false_ne_true
    | exact absurd second.symm Bool.false_ne_true

def rank (x : Single) : Rank := unpackedRank x.toModel.unpack

variable {x y : Single} (first : x.isNaN = false) (second : y.isNaN = false)

include first second

theorem compare_rank : x.toModel.compare y.toModel = some (compare (rank x) (rank y)) :=
  compare_unpacked first second

theorem lt_iff_rank : x < y ↔ rank x < rank y := by
  have less : x < y ↔ (x.toModel.compare y.toModel == some .lt) = true := by
    show (decide (x.toModel < y.toModel)) = true ↔ _
    rw [decide_eq_true_eq]
    rfl
  rw [less, compare_rank first second, beq_iff_eq, Option.some_inj, compare_lt_iff_lt]

theorem le_iff_rank : x ≤ y ↔ rank x ≤ rank y := by
  have atMost : x ≤ y ↔ ((x.toModel.compare y.toModel).any (·.isLE)) = true := by
    show (decide (x.toModel ≤ y.toModel)) = true ↔ _
    rw [decide_eq_true_eq]
    rfl
  rw [atMost, compare_rank first second, Option.any_some, Ordering.isLE_iff_ne_gt,
    ← not_lt, ← compare_gt_iff_gt]

theorem beq_iff_rank : (x == y) = true ↔ rank x = rank y := by
  have same : (x == y) = (x.toModel.compare y.toModel == some .eq) := rfl
  rw [same, compare_rank first second, beq_iff_eq, Option.some_inj, compare_eq_iff_eq]

omit first second in
theorem clamp_between {x low high : Single} (number : x.isNaN = false)
    (number_low : low.isNaN = false) (number_high : high.isNaN = false) (ordered : low ≤ high) :
    low ≤ Scalar.clamp x low high ∧ Scalar.clamp x low high ≤ high := by
  unfold Scalar.clamp
  split
  next => exact ⟨(le_iff_rank number_low number_low).mpr le_rfl, ordered⟩
  next above =>
    rw [lt_iff_rank number number_low, not_lt] at above
    split
    next => exact ⟨ordered, (le_iff_rank number_high number_high).mpr le_rfl⟩
    next below =>
      rw [lt_iff_rank number_high number, not_lt] at below
      exact ⟨(le_iff_rank number_low number).mpr above, (le_iff_rank number number_high).mpr below⟩

end RayScene.Single
