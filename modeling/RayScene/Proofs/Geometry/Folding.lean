import Mathlib.Algebra.Order.ToIntervalMod
import RayScene.Proofs.Geometry.Exact

/-!
Repetition without rounding. Along every axis with a positive period a point is moved by whole
periods into the half-open period around zero, and there is only one such place. So points that
lie whole periods apart are moved to the same place, and a repeated solid is as far from the one
as from the other.
-/

namespace RayScene

namespace Exact

noncomputable def steps (c : ℝ) (n : ℤ) : ℝ := if 0 < c then n * c else 0

/-- `y` lies whole periods from `x`, in the period around zero; without a period it is `x`. -/
structure FoldsTo (c x y : ℝ) : Prop where
  centered : 0 < c → y ∈ Set.Ico (-(c / 2)) (c / 2)
  apart : 0 < c → ∃ n : ℤ, y = x + n * c
  untouched : ¬ 0 < c → y = x

variable {c x y : ℝ}

theorem fold_eq_toIcoMod (positive : 0 < c) : fold x c = toIcoMod positive (-(c / 2)) x := by
  have place : (x - -(c / 2)) / c = x / c + 0.5 := by
    field_simp
    ring
  rw [fold, if_pos positive, toIcoMod, toIcoDiv_eq_floor, place, zsmul_eq_mul, mul_comm]

theorem foldsTo_iff : FoldsTo c x y ↔ y = fold x c := by
  by_cases positive : 0 < c
  · have period : -(c / 2) + c = c / 2 := by ring
    rw [fold_eq_toIcoMod positive, eq_comm, toIcoMod_eq_iff positive, period]
    constructor
    · rintro ⟨centered, apart, -⟩
      obtain ⟨n, away⟩ := apart positive
      refine ⟨centered positive, -n, ?_⟩
      rw [away, zsmul_eq_mul]
      push_cast
      ring
    · rintro ⟨centered, n, away⟩
      refine ⟨fun _ => centered, fun _ => ⟨-n, ?_⟩, fun none => absurd positive none⟩
      rw [away, zsmul_eq_mul]
      push_cast
      ring
  · rw [fold, if_neg positive]
    exact ⟨fun folds => folds.untouched positive,
      fun same => ⟨fun some => absurd some positive, fun some => absurd some positive,
        fun _ => same⟩⟩

theorem foldsTo_fold (x c : ℝ) : FoldsTo c x (fold x c) := foldsTo_iff.mpr rfl

theorem fold_fold (x c : ℝ) : fold (fold x c) c = fold x c := by
  refine (foldsTo_iff.mp ⟨(foldsTo_fold x c).centered, fun _ => ⟨0, ?_⟩, fun _ => rfl⟩).symm
  rw [Int.cast_zero, zero_mul, add_zero]

theorem fold_steps (x c : ℝ) (n : ℤ) : fold (x + steps c n) c = fold x c := by
  by_cases positive : 0 < c
  · rw [fold_eq_toIcoMod positive, fold_eq_toIcoMod positive, steps, if_pos positive,
      ← zsmul_eq_mul, toIcoMod_add_zsmul]
  · rw [steps, if_neg positive, add_zero]

end Exact

namespace Vec3

open Exact

noncomputable def wrapped (p period : Vec3 ℝ) : Vec3 ℝ := zipWith fold p period

/-- The point so many periods further along each axis that has one. -/
noncomputable def stepped (p period : Vec3 ℝ) (n : Vec3 ℤ) : Vec3 ℝ :=
  ⟨p.x + steps period.x n.x, p.y + steps period.y n.y, p.z + steps period.z n.z⟩

structure FoldsTo (period p q : Vec3 ℝ) : Prop where
  x : Exact.FoldsTo period.x p.x q.x
  y : Exact.FoldsTo period.y p.y q.y
  z : Exact.FoldsTo period.z p.z q.z

theorem wrapped_extended (p period : Vec3 ℝ) :
    Distance.repeatDomain p.extended period.extended = (p.wrapped period).extended := by
  show Vec3.mk (Distance.fold (p.x : EReal) period.x) (Distance.fold (p.y : EReal) period.y)
    (Distance.fold (p.z : EReal) period.z) = _
  rw [fold_coe, fold_coe, fold_coe]
  rfl

theorem foldsTo_iff {period p q : Vec3 ℝ} : FoldsTo period p q ↔ q = p.wrapped period := by
  constructor
  · rintro ⟨x, y, z⟩
    obtain ⟨a, b, c⟩ := q
    exact congr (congr (congrArg Vec3.mk (Exact.foldsTo_iff.mp x)) (Exact.foldsTo_iff.mp y))
      (Exact.foldsTo_iff.mp z)
  · rintro rfl
    exact ⟨foldsTo_fold _ _, foldsTo_fold _ _, foldsTo_fold _ _⟩

theorem wrapped_wrapped (p period : Vec3 ℝ) :
    (p.wrapped period).wrapped period = p.wrapped period := by
  show Vec3.mk (fold (fold p.x period.x) period.x) (fold (fold p.y period.y) period.y)
    (fold (fold p.z period.z) period.z) = _
  rw [fold_fold, fold_fold, fold_fold]
  rfl

theorem wrapped_stepped (p period : Vec3 ℝ) (n : Vec3 ℤ) :
    (p.stepped period n).wrapped period = p.wrapped period := by
  show Vec3.mk (fold (p.x + steps period.x n.x) period.x) (fold (p.y + steps period.y n.y) period.y)
    (fold (p.z + steps period.z n.z) period.z) = _
  rw [fold_steps, fold_steps, fold_steps]
  rfl

end Vec3

/-- Repetition moves every point to its place in the period around zero, which it leaves there and
which does not change from one period to the next; nor does the distance of what is repeated. -/
theorem repetition_is_canonical_fold (p period : Vec3 ℝ) :
    ∃ q : Vec3 ℝ, Distance.repeatDomain p.extended period.extended = q.extended ∧
      (∀ other, Vec3.FoldsTo period p other ↔ other = q) ∧
      Distance.repeatDomain q.extended period.extended = q.extended ∧
      ∀ n : Vec3 ℤ,
        Distance.repeatDomain (p.stepped period n).extended period.extended = q.extended ∧
        ∀ child : Sdf EReal,
          (Sdf.repeated period.extended child).distance (p.stepped period n).extended =
            (Sdf.repeated period.extended child).distance p.extended := by
  have whole (n : Vec3 ℤ) : Distance.repeatDomain (p.stepped period n).extended period.extended =
      (p.wrapped period).extended := by
    rw [Vec3.wrapped_extended, Vec3.wrapped_stepped]
  refine ⟨p.wrapped period, Vec3.wrapped_extended p period, fun _ => Vec3.foldsTo_iff, ?_,
    fun n => ⟨whole n, fun child => ?_⟩⟩
  · rw [Vec3.wrapped_extended, Vec3.wrapped_wrapped]
  · exact congrArg child.distance ((whole n).trans (Vec3.wrapped_extended p period).symm)

end RayScene
