import RayScene.Proofs.Geometry.Space

/-!
Where a ray crosses spheres. Along a direction of length one these are the roots of quadratics; the
first of them within bounds is found by trying the lower root before the upper one, and the first
one of several spheres by lowering the upper bound to every root that is found.
-/

namespace RayScene

open Matrix

/-- A ray of real numbers. -/
structure Ray where
  origin : Vec3 ℝ
  dir : Vec3 ℝ

structure Ball where
  id : UInt32
  center : Vec3 ℝ
  radius : ℝ

namespace Ray

def point (ray : Ray) (t : ℝ) : Vec3 ℝ :=
  ⟨ray.origin.x + t * ray.dir.x, ray.origin.y + t * ray.dir.y, ray.origin.z + t * ray.dir.z⟩

variable (ray : Ray) (ball : Ball)

def Meets (t : ℝ) : Prop := ((ray.point t).minus ball.center).norm = ball.radius

noncomputable def fromCenter : Vec3 ℝ := ray.origin.minus ball.center

noncomputable def passed : ℝ := (ray.fromCenter ball).coords ⬝ᵥ ray.dir.coords

noncomputable def discriminant : ℝ :=
  ray.passed ball * ray.passed ball -
    ((ray.fromCenter ball).coords ⬝ᵥ (ray.fromCenter ball).coords - ball.radius * ball.radius)

noncomputable def lowerRoot : ℝ := -ray.passed ball - √(ray.discriminant ball)

noncomputable def upperRoot : ℝ := -ray.passed ball + √(ray.discriminant ball)

noncomputable def firstRoot (least most : ℝ) : ℝ :=
  if ray.discriminant ball < 0 then -1
  else if ray.lowerRoot ball < least ∨ most < ray.lowerRoot ball then
    if ray.upperRoot ball < least ∨ most < ray.upperRoot ball then -1 else ray.upperRoot ball
  else ray.lowerRoot ball

variable {ray ball}

section Roots

variable (unit : ray.dir.norm = 1)

include unit

theorem square_minus_radius (ball : Ball) (t : ℝ) :
    ((ray.point t).minus ball.center).norm ^ 2 - ball.radius ^ 2 =
      (t + ray.passed ball) ^ 2 - ray.discriminant ball := by
  have one : ray.dir.x * ray.dir.x + ray.dir.y * ray.dir.y + ray.dir.z * ray.dir.z = 1 := by
    have square := Vec3.norm_mul_self ray.dir
    rw [unit, vec3_dotProduct] at square
    exact square.symm.trans (one_mul 1)
  rw [sq, Vec3.norm_mul_self, discriminant, passed, vec3_dotProduct, vec3_dotProduct,
    vec3_dotProduct]
  simp only [Vec3.coords, Vec3.minus, Vec3.zipWith, fromCenter, point, cons_val]
  linear_combination t ^ 2 * one

theorem meets_iff (positive : 0 < ball.radius) {t : ℝ} :
    ray.Meets ball t ↔ (t + ray.passed ball) ^ 2 = ray.discriminant ball := by
  have square := square_minus_radius unit ball t
  have nonneg : 0 ≤ ((ray.point t).minus ball.center).norm := Real.sqrt_nonneg _
  rw [Meets, ← sq_eq_sq₀ nonneg positive.le]
  constructor <;> intro same <;> linarith

/-- A ray meets a sphere at no other places than the two roots, if there are roots. -/
theorem meets_iff_root (positive : 0 < ball.radius) {t : ℝ} :
    ray.Meets ball t ↔
      0 ≤ ray.discriminant ball ∧ (t = ray.lowerRoot ball ∨ t = ray.upperRoot ball) := by
  rw [meets_iff unit positive, lowerRoot, upperRoot]
  constructor
  · intro root
    have nonneg : 0 ≤ ray.discriminant ball := root ▸ sq_nonneg _
    refine ⟨nonneg, ?_⟩
    rw [← Real.sq_sqrt nonneg, sq_eq_sq_iff_eq_or_eq_neg] at root
    rcases root with up | down
    · exact .inr (by linarith)
    · exact .inl (by linarith)
  · rintro ⟨nonneg, rfl | rfl⟩
    · rw [show -ray.passed ball - √(ray.discriminant ball) + ray.passed ball =
        -√(ray.discriminant ball) by ring, neg_sq, Real.sq_sqrt nonneg]
    · rw [show -ray.passed ball + √(ray.discriminant ball) + ray.passed ball =
        √(ray.discriminant ball) by ring, Real.sq_sqrt nonneg]

omit unit in
theorem lowerRoot_le : ray.lowerRoot ball ≤ ray.upperRoot ball := by
  have nonneg := Real.sqrt_nonneg (ray.discriminant ball)
  rw [lowerRoot, upperRoot]
  linarith

/-- What the first root says about the bounds: there is none, or it is the least one. -/
theorem firstRoot_spec (positive : 0 < ball.radius) (least most : ℝ) :
    ray.firstRoot ball least most = -1 ∧
        (∀ t, ray.Meets ball t → least ≤ t → most < t) ∨
      ray.Meets ball (ray.firstRoot ball least most) ∧
        least ≤ ray.firstRoot ball least most ∧ ray.firstRoot ball least most ≤ most ∧
        ∀ t, ray.Meets ball t → least ≤ t → ray.firstRoot ball least most ≤ t := by
  have ordered : ray.lowerRoot ball ≤ ray.upperRoot ball := lowerRoot_le
  simp only [meets_iff_root unit positive, firstRoot]
  by_cases none : ray.discriminant ball < 0
  · rw [if_pos none]
    exact .inl ⟨rfl, fun t meets => absurd meets.1 (not_le.mpr none)⟩
  have some : 0 ≤ ray.discriminant ball := not_lt.mp none
  rw [if_neg none]
  by_cases outside : ray.lowerRoot ball < least ∨ most < ray.lowerRoot ball
  · rw [if_pos outside]
    by_cases beyond : ray.upperRoot ball < least ∨ most < ray.upperRoot ball
    · rw [if_pos beyond]
      refine .inl ⟨rfl, ?_⟩
      rintro t ⟨-, rfl | rfl⟩ enough
      · exact outside.resolve_left (not_lt.mpr enough)
      · exact beyond.resolve_left (not_lt.mpr enough)
    · rw [if_neg beyond]
      obtain ⟨enough, within⟩ := not_or.mp beyond
      refine .inr ⟨⟨some, .inr rfl⟩, not_lt.mp enough, not_lt.mp within, ?_⟩
      rintro t ⟨-, rfl | rfl⟩ from_least
      · exact absurd (outside.resolve_left (not_lt.mpr from_least))
          (not_lt.mpr (ordered.trans (not_lt.mp within)))
      · exact le_rfl
  · rw [if_neg outside]
    obtain ⟨enough, within⟩ := not_or.mp outside
    refine .inr ⟨⟨some, .inl rfl⟩, not_lt.mp enough, not_lt.mp within, ?_⟩
    rintro t ⟨-, rfl | rfl⟩ -
    · exact le_rfl
    · exact ordered

end Roots

end Ray

/-- What is known of the place where a ray ends. -/
structure Hit where
  t : ℝ
  place : Vec3 ℝ
  normal : Vec3 ℝ
  object : UInt32
  front : Bool

namespace Hit

def noObject : UInt32 := 0xFFFFFFFF

/-- A ray that hits nothing, as far as it goes. -/
noncomputable def none (most : ℝ) : Hit := ⟨most, Vec3.splat 0, Vec3.splat 0, noObject, true⟩

end Hit

namespace Ray

variable (ray : Ray) (ball : Ball)

noncomputable def outward (t : ℝ) : Vec3 ℝ :=
  ((ray.point t).minus ball.center).map (· / ball.radius)

noncomputable def surface (t : ℝ) : Hit :=
  let front := decide (ray.dir.coords ⬝ᵥ (ray.outward ball t).coords < 0)
  ⟨t, ray.point t, if front then ray.outward ball t else (ray.outward ball t).map (-·), ball.id,
    front⟩

noncomputable def nearer (least : ℝ) (hit : Hit) : Hit :=
  if 0 < ray.firstRoot ball least hit.t then
    ray.surface ball (ray.firstRoot ball least hit.t)
  else hit

structure Reaches (least most t : ℝ) : Prop where
  meets : ray.Meets ball t
  least_le : least ≤ t
  le_most : t ≤ most

variable {ray ball}

theorem outward_coords (t : ℝ) : (ray.outward ball t).coords =
    ball.radius⁻¹ • ((ray.point t).minus ball.center).coords := by
  ext i
  fin_cases i <;> exact div_eq_inv_mul _ _

theorem coords_neg (v : Vec3 ℝ) : (v.map (-·)).coords = -v.coords := by
  ext i
  fin_cases i <;> rfl

theorem outward_square {t : ℝ} (meets : ray.Meets ball t) (positive : 0 < ball.radius) :
    (ray.outward ball t).coords ⬝ᵥ (ray.outward ball t).coords = 1 := by
  rw [outward_coords]
  have norm : ((ray.point t).minus ball.center).norm = ball.radius := meets
  rw [← norm]
  exact Vec3.normalized_dot_self (norm ▸ positive)

theorem norm_eq_one {v : Vec3 ℝ} (square : v.coords ⬝ᵥ v.coords = 1) : v.norm = 1 := by
  rw [Vec3.norm_eq_sqrt, square, Real.sqrt_one]

theorem surface_normal {t : ℝ} (meets : ray.Meets ball t) (positive : 0 < ball.radius) :
    (ray.surface ball t).normal.norm = 1 ∧
      ray.dir.coords ⬝ᵥ (ray.surface ball t).normal.coords ≤ 0 := by
  have square := outward_square meets positive
  unfold surface
  dsimp only
  by_cases front : ray.dir.coords ⬝ᵥ (ray.outward ball t).coords < 0
  · rw [decide_eq_true front, if_pos rfl]
    exact ⟨norm_eq_one square, front.le⟩
  · rw [decide_eq_false front, if_neg Bool.false_ne_true]
    constructor
    · apply norm_eq_one
      rw [coords_neg, neg_dotProduct_neg, square]
    · rw [coords_neg, dotProduct_neg]
      exact neg_nonpos.mpr (not_lt.mp front)

/-- A hit at the least place where the ray reaches any of some spheres. -/
structure Finds (ray : Ray) (least most : ℝ) (balls : List Ball) (hit : Hit) : Prop where
  nearest : IsLeast {t | ∃ ball ∈ balls, ray.Reaches ball least most t} hit.t
  on_ray : hit.place = ray.point hit.t
  on_ball : ∃ ball ∈ balls, hit.object = ball.id ∧ ray.Reaches ball least most hit.t ∧
    (hit.place.minus ball.center).norm = ball.radius
  unit_normal : hit.normal.norm = 1
  against : ray.dir.coords ⬝ᵥ hit.normal.coords ≤ 0

/-- The first hit on spheres, or none if no sphere is reached. -/
def FirstHit (ray : Ray) (least most : ℝ) (balls : List Ball) (hit : Hit) : Prop :=
  (∀ ball ∈ balls, ∀ t, ¬ ray.Reaches ball least most t) ∧ hit = .none most ∨
    ray.Finds least most balls hit

section Search

variable {least most : ℝ} {seen balls : List Ball} {hit : Hit}

theorem FirstHit.le_most (first : ray.FirstHit least most seen hit) : hit.t ≤ most := by
  rcases first with ⟨-, rfl⟩ | finds
  · exact le_rfl
  · obtain ⟨ball, -, -, reaches, -⟩ := finds.on_ball
    exact reaches.le_most

theorem FirstHit.hit_le (first : ray.FirstHit least most seen hit) {other : Ball}
    (member : other ∈ seen) {t : ℝ} (reaches : ray.Reaches other least most t) : hit.t ≤ t := by
  rcases first with ⟨none, -⟩ | finds
  · exact absurd reaches (none other member t)
  · exact finds.nearest.2 ⟨other, member, reaches⟩

section Step

variable (unit : ray.dir.norm = 1) (above : 0 < least)

include unit above

theorem FirstHit.step (first : ray.FirstHit least most seen hit) (positive : 0 < ball.radius) :
    ray.FirstHit least most (seen ++ [ball]) (ray.nearer ball least hit) := by
  unfold nearer
  rcases firstRoot_spec unit positive least hit.t with
    ⟨none, later⟩ | ⟨meets, enough, within, leastOne⟩
  · rw [none, if_neg (by norm_num)]
    have behind {t : ℝ} (reaches : ray.Reaches ball least most t) : hit.t < t :=
      later t reaches.meets reaches.least_le
    rcases first with ⟨nothing, rfl⟩ | finds
    · refine .inl ⟨fun other member t reaches => ?_, rfl⟩
      rcases List.mem_append.mp member with member | last
      · exact nothing other member t reaches
      · obtain rfl := List.mem_singleton.mp last
        exact absurd reaches.le_most (not_le.mpr (behind reaches))
    · obtain ⟨found, member, id, reaches, on⟩ := finds.on_ball
      have kept : found ∈ seen ++ [ball] := List.mem_append_left _ member
      refine .inr ⟨⟨⟨found, kept, reaches⟩, ?_⟩, finds.on_ray, ⟨found, kept, id, reaches, on⟩,
        finds.unit_normal, finds.against⟩
      rintro t ⟨other, member, reaches⟩
      rcases List.mem_append.mp member with member | last
      · exact finds.nearest.2 ⟨other, member, reaches⟩
      · obtain rfl := List.mem_singleton.mp last
        exact (behind reaches).le
  · rw [if_pos (above.trans_le enough)]
    obtain ⟨normal, against⟩ := surface_normal meets positive
    have own : ball ∈ seen ++ [ball] := List.mem_append_right _ (List.mem_singleton_self _)
    have reaches : ray.Reaches ball least most (ray.firstRoot ball least hit.t) :=
      ⟨meets, enough, within.trans first.le_most⟩
    refine .inr ⟨⟨⟨ball, own, reaches⟩, ?_⟩, rfl, ⟨ball, own, rfl, reaches, meets⟩, normal, against⟩
    rintro t ⟨other, member, others⟩
    rcases List.mem_append.mp member with member | last
    · exact within.trans (first.hit_le member others)
    · obtain rfl := List.mem_singleton.mp last
      exact leastOne t others.meets others.least_le

/-- The search through all spheres finds the first hit, whatever their order. -/
theorem firstHit_foldl (first : ray.FirstHit least most seen hit)
    (positive : ∀ ball ∈ balls, 0 < ball.radius) :
    ray.FirstHit least most (seen ++ balls)
      (balls.foldl (fun hit ball => ray.nearer ball least hit) hit) := by
  induction balls generalizing seen hit with
  | nil => rwa [List.append_nil]
  | cons ball balls ih =>
      have ⟨own, others⟩ := List.forall_mem_cons.mp positive
      have more := ih (first.step unit above own) others
      rwa [List.append_assoc] at more

end Step

theorem FirstHit.of_mem_iff (first : ray.FirstHit least most seen hit)
    (same : ∀ ball, ball ∈ seen ↔ ball ∈ balls) : ray.FirstHit least most balls hit := by
  rcases first with ⟨nothing, none⟩ | finds
  · exact .inl ⟨fun ball member => nothing ball ((same ball).mpr member), none⟩
  · obtain ⟨nearest, on_ray, on_ball, unit_normal, against⟩ := finds
    simp only [same] at nearest on_ball
    exact .inr ⟨nearest, on_ray, on_ball, unit_normal, against⟩

end Search

end Ray
end RayScene
