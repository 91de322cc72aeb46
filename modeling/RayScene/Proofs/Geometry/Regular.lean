import Mathlib.Analysis.SpecialFunctions.Trigonometric.Basic
import Mathlib.Data.EReal.Inv
import RayScene.Geometry.Scalar

namespace RayScene

/-- Taking away zero changes nothing, and either infinity loses against every number. -/
class Scalar.Regular (S : Type) [Scalar S] : Prop where
  sub_zero (x z : S) : (z == Scalar.zero) = true → x - z = x
  infinity_min (x : S) : Scalar.min Scalar.infinity x = x
  neg_infinity_max (x : S) : Scalar.max (-Scalar.infinity) x = x

namespace Extended

noncomputable def lift (f : ℝ → ℝ) (x : EReal) : EReal :=
  if x = ⊤ ∨ x = ⊥ then x else (f x.toReal : EReal)

noncomputable instance : Scalar EReal where
  beq a b := decide (a = b)
  ofScientific m s e := ((OfScientific.ofScientific m s e : ℝ) : EReal)
  decidableLt := inferInstance
  decidableLe := inferInstance
  infinity := ⊤
  degree := ((Real.pi / 180 : ℝ) : EReal)
  abs x := max x (-x)
  sqrt := lift Real.sqrt
  floor := lift fun x => (⌊x⌋ : ℝ)
  sin x := (Real.sin x.toReal : EReal)
  cos x := (Real.cos x.toReal : EReal)
  tan x := (Real.tan x.toReal : EReal)

noncomputable def oneDegree : ℝ := Real.pi / 180

theorem zero_eq : (Scalar.zero : EReal) = 0 := by
  show (((0.0 : ℝ)) : EReal) = 0
  norm_num

theorem beq_iff (a b : EReal) : (a == b) = true ↔ a = b := decide_eq_true_iff

instance : Scalar.Regular EReal where
  sub_zero x z zero := by
    rw [beq_iff, zero_eq] at zero
    simp [zero]
  infinity_min x := by
    show (if x < ⊤ then x else if ((⊤ : EReal) == ⊤) = true then ⊤ else x) = x
    by_cases finite : x < ⊤
    · simp [finite]
    · simp [top_le_iff.mp (not_lt.mp finite)]
  neg_infinity_max x := by
    show (if -⊤ < x then x else if ((-⊤ : EReal) == -⊤) = true then -⊤ else x) = x
    rw [EReal.neg_top]
    by_cases finite : ⊥ < x
    · exact if_pos finite
    · simp [le_bot_iff.mp (not_lt.mp finite)]

theorem isPositive_iff (x : EReal) : Scalar.isPositive x = true ↔ 0 < x ∧ x ≠ ⊤ := by
  simp only [Scalar.isPositive, Scalar.isFinite, Bool.and_eq_true, decide_eq_true_eq]
  rw [zero_eq]
  show (-⊤ < x ∧ x < ⊤) ∧ 0 < x ↔ _
  rw [EReal.neg_top, lt_top_iff_ne_top]
  constructor
  · rintro ⟨⟨_, finite⟩, positive⟩
    exact ⟨positive, finite⟩
  · rintro ⟨positive, finite⟩
    exact ⟨⟨EReal.bot_lt_zero.trans positive, finite⟩, positive⟩

end Extended
end RayScene
