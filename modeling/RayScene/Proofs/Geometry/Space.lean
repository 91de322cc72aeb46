import Mathlib.LinearAlgebra.CrossProduct
import Mathlib.LinearAlgebra.Matrix.DotProduct
import RayScene.Proofs.Geometry.Exact

/-!
Vectors of real numbers by their coordinates, with the cross product and the dot product. What the
extended reals make of such vectors is what they are.
-/

namespace RayScene

open Matrix Extended

namespace Vec3

def coords (v : Vec3 ℝ) : Fin 3 → ℝ := ![v.x, v.y, v.z]

def ofCoords (p : Fin 3 → ℝ) : Vec3 ℝ := ⟨p 0, p 1, p 2⟩

@[simp] theorem coords_ofCoords (p : Fin 3 → ℝ) : (ofCoords p).coords = p := by
  ext i
  fin_cases i <;> rfl

theorem coords_minus (p q : Vec3 ℝ) : (p.minus q).coords = p.coords - q.coords := by
  ext i
  fin_cases i <;> rfl

theorem norm_eq_sqrt (v : Vec3 ℝ) : v.norm = √(v.coords ⬝ᵥ v.coords) := by
  rw [norm, vec3_dotProduct, sq, sq, sq]
  rfl

theorem norm_mul_self (v : Vec3 ℝ) : v.norm * v.norm = v.coords ⬝ᵥ v.coords := by
  have square : 0 ≤ v.coords ⬝ᵥ v.coords := by
    rw [vec3_dotProduct]
    exact add_nonneg (add_nonneg (mul_self_nonneg _) (mul_self_nonneg _)) (mul_self_nonneg _)
  rw [norm_eq_sqrt, Real.mul_self_sqrt square]

theorem normalized_dot_self {v : Vec3 ℝ} (some : 0 < v.norm) :
    (v.norm⁻¹ • v.coords) ⬝ᵥ (v.norm⁻¹ • v.coords) = 1 := by
  rw [smul_dotProduct, dotProduct_smul, ← norm_mul_self, smul_eq_mul, smul_eq_mul]
  field_simp

section
variable (a b : Vec3 ℝ) (c : ℝ)

theorem extended_div : a.extended / (c : EReal) = (ofCoords (c⁻¹ • a.coords)).extended := by
  have part (x : ℝ) : (x : EReal) / c = ((c⁻¹ * x : ℝ) : EReal) := by
    rw [← EReal.coe_div, div_eq_inv_mul]
  show Vec3.mk ((a.x : EReal) / c) ((a.y : EReal) / c) ((a.z : EReal) / c) = _
  rw [part, part, part]
  rfl

theorem extended_cross :
    a.extended.cross b.extended = (ofCoords (a.coords ⨯₃ b.coords)).extended := by
  show _ = extended ⟨a.y * b.z - a.z * b.y, a.z * b.x - a.x * b.z, a.x * b.y - a.y * b.x⟩
  rw [mul_comm a.z b.y, mul_comm a.x b.z, mul_comm a.y b.x]
  rfl

theorem extended_normalize :
    a.extended.normalize = (ofCoords (a.norm⁻¹ • a.coords)).extended := by
  have one : (1.0 : EReal) = ((1 : ℝ) : EReal) := by
    show ((1.0 : ℝ) : EReal) = _
    norm_num
  have scaled (x : ℝ) : (x : EReal) * ((1 / a.norm : ℝ) : EReal) = (a.norm⁻¹ * x : ℝ) := by
    rw [← EReal.coe_mul, one_div, mul_comm]
  unfold normalize
  rw [length_extended, one, ← EReal.coe_div]
  show Vec3.mk ((a.x : EReal) * _) ((a.y : EReal) * _) ((a.z : EReal) * _) = _
  rw [scaled, scaled, scaled]
  rfl

end

end Vec3

section Basis

variable {u v w : Fin 3 → ℝ}

structure RightHanded (u v w : Fin 3 → ℝ) : Prop where
  first : u ⬝ᵥ u = 1
  second : v ⬝ᵥ v = 1
  third : w ⬝ᵥ w = 1
  first_second : u ⬝ᵥ v = 0
  second_third : v ⬝ᵥ w = 0
  third_first : w ⬝ᵥ u = 0
  cross : u ⨯₃ v = w

theorem rightHanded_of_cross (first : u ⬝ᵥ u = 1) (third : w ⬝ᵥ w = 1) (apart : w ⬝ᵥ u = 0) :
    RightHanded u (w ⨯₃ u) w where
  first := first
  second := by
    rw [cross_dot_cross, third, first, apart, dotProduct_comm u w, apart]
    ring
  third := third
  first_second := dot_cross_self w u
  second_third := by rw [dotProduct_comm, dot_self_cross]
  third_first := apart
  cross := by
    rw [cross_cross_eq_smul_sub_smul', first, apart]
    simp

theorem RightHanded.eq_zero (basis : RightHanded u v w) {p : Fin 3 → ℝ} (along_u : p ⬝ᵥ u = 0)
    (along_v : p ⬝ᵥ v = 0) (along_w : p ⬝ᵥ w = 0) : p = 0 := by
  have none : p ⨯₃ w = 0 := by
    rw [← basis.cross, cross_cross_eq_smul_sub_smul', along_v, dotProduct_comm u p, along_u]
    simp
  have square : p ⬝ᵥ p = 0 := by
    have lengths := cross_dot_cross p w p w
    rw [none, zero_dotProduct, basis.third, along_w, dotProduct_comm w p, along_w] at lengths
    linarith
  exact dotProduct_self_eq_zero.mp square

theorem RightHanded.shadows (basis : RightHanded u v w) (a b c : ℝ) :
    (a • u + b • v + c • w) ⬝ᵥ u = a ∧ (a • u + b • v + c • w) ⬝ᵥ v = b ∧
      (a • u + b • v + c • w) ⬝ᵥ w = c := by
  have vu : v ⬝ᵥ u = 0 := (dotProduct_comm v u).trans basis.first_second
  have wv : w ⬝ᵥ v = 0 := (dotProduct_comm w v).trans basis.second_third
  have uw : u ⬝ᵥ w = 0 := (dotProduct_comm u w).trans basis.third_first
  simp only [add_dotProduct, smul_dotProduct, smul_eq_mul, basis.first, basis.second, basis.third,
    basis.first_second, basis.second_third, basis.third_first, vu, wv, uw]
  exact ⟨by ring, by ring, by ring⟩

theorem RightHanded.sum_shadows (basis : RightHanded u v w) (p : Fin 3 → ℝ) :
    (p ⬝ᵥ u) • u + (p ⬝ᵥ v) • v + (p ⬝ᵥ w) • w = p := by
  obtain ⟨along_u, along_v, along_w⟩ := basis.shadows (p ⬝ᵥ u) (p ⬝ᵥ v) (p ⬝ᵥ w)
  rw [← sub_eq_zero]
  apply basis.eq_zero
  · rw [sub_dotProduct, along_u, sub_self]
  · rw [sub_dotProduct, along_v, sub_self]
  · rw [sub_dotProduct, along_w, sub_self]

def Spanned (corner side up : Fin 3 → ℝ) : Set (Fin 3 → ℝ) :=
  {p | ∃ s ∈ Set.Icc (0 : ℝ) 1, ∃ t ∈ Set.Icc (0 : ℝ) 1, p = corner + s • side + t • up}

/-- The points at a distance from `center` along `w`, and at most so far to either side of it. -/
def Facing (u v w center : Fin 3 → ℝ) (distance right top : ℝ) : Set (Fin 3 → ℝ) :=
  {p | (p - center) ⬝ᵥ w = distance ∧ |(p - center) ⬝ᵥ u| ≤ right ∧ |(p - center) ⬝ᵥ v| ≤ top}

theorem abs_centered_le {s r : ℝ} (inside : s ∈ Set.Icc (0 : ℝ) 1) (positive : 0 < r) :
    |(2 * s - 1) * r| ≤ r := by
  rw [abs_mul, abs_of_pos positive]
  have part : |2 * s - 1| ≤ 1 := abs_le.mpr ⟨by linarith [inside.1], by linarith [inside.2]⟩
  exact mul_le_of_le_one_left positive.le part

theorem centered_of_abs_le {a r : ℝ} (bounded : |a| ≤ r) (positive : 0 < r) :
    ∃ s ∈ Set.Icc (0 : ℝ) 1, (2 * s - 1) * r = a := by
  obtain ⟨low, high⟩ := abs_le.mp bounded
  refine ⟨(a / r + 1) / 2, ⟨?_, ?_⟩, ?_⟩
  · have := (le_div_iff₀ positive).mpr (by linarith : -1 * r ≤ a)
    linarith
  · have := (div_le_iff₀ positive).mpr (by linarith : a ≤ 1 * r)
    linarith
  · field_simp
    ring

/-- A rectangle with its sides along the first two directions faces the third. -/
theorem RightHanded.spanned_eq_facing (basis : RightHanded u v w) (center : Fin 3 → ℝ)
    (distance : ℝ) {right top : ℝ} (wide : 0 < right) (high : 0 < top) :
    Spanned (center - right • u - top • v + distance • w) ((2 * right) • u) ((2 * top) • v) =
      Facing u v w center distance right top := by
  ext p
  constructor
  · rintro ⟨s, within, t, within', rfl⟩
    have offset : center - right • u - top • v + distance • w + s • (2 * right) • u +
        t • (2 * top) • v - center =
          ((2 * s - 1) * right) • u + ((2 * t - 1) * top) • v + distance • w := by
      module
    obtain ⟨along_u, along_v, along_w⟩ :=
      basis.shadows ((2 * s - 1) * right) ((2 * t - 1) * top) distance
    show _ ∧ _ ∧ _
    rw [offset, along_u, along_v, along_w]
    exact ⟨rfl, abs_centered_le within wide, abs_centered_le within' high⟩
  · rintro ⟨along_w, near_u, near_v⟩
    obtain ⟨s, within, a⟩ := centered_of_abs_le near_u wide
    obtain ⟨t, within', b⟩ := centered_of_abs_le near_v high
    refine ⟨s, within, t, within', ?_⟩
    have sum := basis.sum_shadows (p - center)
    rw [along_w, ← a, ← b] at sum
    calc
      p = center + (p - center) := by abel
      _ = center + (((2 * s - 1) * right) • u + ((2 * t - 1) * top) • v + distance • w) := by
        rw [sum]
      _ = _ := by module

end Basis

end RayScene
