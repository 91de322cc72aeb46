import RayScene.Proofs.Geometry.Space

/-!
Turns in space without rounding. Turning back about z, then y, then x undoes a turn about x, then y,
then z, and the other way round; it changes no length and no angle. So a turned solid is as far from
a turned point as the solid from the point.
-/

namespace RayScene

open Matrix

/-- Turns a point by angles in degrees about x, then y, then z. -/
def Distance.rotate {S : Type} [Scalar S] (p angles : Vec3 S) : Vec3 S :=
  let r := angles * (Scalar.degree : S)
  rotateZ (rotateY (rotateX p r.x) r.y) r.z

namespace Vec3

noncomputable def turned (p angles : Vec3 ℝ) : Vec3 ℝ :=
  let radians (degrees : ℝ) : ℝ := degrees * Extended.oneDegree
  ((p.turnX (radians angles.x)).turnY (radians angles.y)).turnZ (radians angles.z)

theorem turned_extended (p angles : Vec3 ℝ) :
    Distance.rotate p.extended angles.extended = (p.turned angles).extended := rfl

theorem coords_dot (p q : Vec3 ℝ) : p.coords ⬝ᵥ q.coords = p.x * q.x + p.y * q.y + p.z * q.z :=
  vec3_dotProduct _ _

theorem dot_extended (p q : Vec3 ℝ) : p.extended.dot q.extended = (p.coords ⬝ᵥ q.coords : ℝ) := by
  rw [coords_dot]
  rfl

section
variable (p q : Vec3 ℝ) {s t : ℝ}

theorem turnX_opposite (opposite : s = -t) : (p.turnX t).turnX s = p := by
  have unit := Real.sin_sq_add_cos_sq t
  obtain ⟨x, y, z⟩ := p
  simp only [turnX, opposite, Real.cos_neg, Real.sin_neg, mk.injEq, true_and]
  constructor
  · linear_combination y * unit
  · linear_combination z * unit

theorem turnY_opposite (opposite : s = -t) : (p.turnY t).turnY s = p := by
  have unit := Real.sin_sq_add_cos_sq t
  obtain ⟨x, y, z⟩ := p
  simp only [turnY, opposite, Real.cos_neg, Real.sin_neg, mk.injEq, true_and]
  constructor
  · linear_combination x * unit
  · linear_combination z * unit

theorem turnZ_opposite (opposite : s = -t) : (p.turnZ t).turnZ s = p := by
  have unit := Real.sin_sq_add_cos_sq t
  obtain ⟨x, y, z⟩ := p
  simp only [turnZ, opposite, Real.cos_neg, Real.sin_neg, mk.injEq, and_true]
  constructor
  · linear_combination x * unit
  · linear_combination y * unit

theorem turnX_dot : (p.turnX t).coords ⬝ᵥ (q.turnX t).coords = p.coords ⬝ᵥ q.coords := by
  simp only [coords_dot, turnX]
  linear_combination (p.y * q.y + p.z * q.z) * Real.sin_sq_add_cos_sq t

theorem turnY_dot : (p.turnY t).coords ⬝ᵥ (q.turnY t).coords = p.coords ⬝ᵥ q.coords := by
  simp only [coords_dot, turnY]
  linear_combination (p.x * q.x + p.z * q.z) * Real.sin_sq_add_cos_sq t

theorem turnZ_dot : (p.turnZ t).coords ⬝ᵥ (q.turnZ t).coords = p.coords ⬝ᵥ q.coords := by
  simp only [coords_dot, turnZ]
  linear_combination (p.x * q.x + p.y * q.y) * Real.sin_sq_add_cos_sq t

end

section
variable (p q angles : Vec3 ℝ)

theorem turnBack_turned : (p.turned angles).turnBack angles = p := by
  rw [turnBack, turned, turnZ_opposite _ rfl, turnY_opposite _ rfl, turnX_opposite _ rfl]

theorem turned_turnBack : (p.turnBack angles).turned angles = p := by
  have back (t : ℝ) : t = - -t := (neg_neg t).symm
  rw [turned, turnBack, turnX_opposite _ (back _), turnY_opposite _ (back _),
    turnZ_opposite _ (back _)]

theorem turnBack_dot :
    (p.turnBack angles).coords ⬝ᵥ (q.turnBack angles).coords = p.coords ⬝ᵥ q.coords := by
  rw [turnBack, turnBack, turnX_dot, turnY_dot, turnZ_dot]

theorem turnBack_length : (p.turnBack angles).norm = p.norm := by
  rw [norm_eq_sqrt, norm_eq_sqrt, turnBack_dot]

end

end Vec3

/-- Turning back undoes every turn, from either side, and keeps lengths and dot products. -/
theorem inverseRotate_inverts_rotate (p q angles : Vec3 ℝ) :
    Distance.inverseRotate (Distance.rotate q.extended angles.extended) angles.extended =
        q.extended ∧
      Distance.rotate (Distance.inverseRotate q.extended angles.extended) angles.extended =
        q.extended ∧
      (Distance.inverseRotate q.extended angles.extended).length = q.extended.length ∧
      (Distance.inverseRotate p.extended angles.extended).dot
          (Distance.inverseRotate q.extended angles.extended) = p.extended.dot q.extended := by
  refine ⟨?_, ?_, ?_, ?_⟩
  · rw [Vec3.turned_extended, Vec3.turnBack_extended, Vec3.turnBack_turned]
  · rw [Vec3.turnBack_extended, Vec3.turned_extended, Vec3.turned_turnBack]
  · rw [Vec3.turnBack_extended, Vec3.length_extended, Vec3.length_extended, Vec3.turnBack_length]
  · rw [Vec3.turnBack_extended, Vec3.turnBack_extended, Vec3.dot_extended, Vec3.dot_extended,
      Vec3.turnBack_dot]

end RayScene
