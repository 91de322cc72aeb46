import RayScene.Proofs.Geometry.Nonexpansive
import RayScene.Proofs.Geometry.Space
import RayScene.Proofs.Number.Arithmetic

/-!
Vectors of singles. Their lengths and cross products are those of real vectors but for a few units
in the last place, as long as nothing that is computed on the way overflows.
-/

namespace RayScene

open Matrix Single

namespace Vec3

section Real

variable (a b : Vec3 ℝ)

theorem zero_le_norm (v : Vec3 ℝ) : 0 ≤ v.norm := Real.sqrt_nonneg _

theorem abs_dot_le : |a.coords ⬝ᵥ b.coords| ≤ a.norm * b.norm := by
  have dot (p q : Vec3 ℝ) : p.coords ⬝ᵥ q.coords = p.x * q.x + p.y * q.y + p.z * q.z :=
    vec3_dotProduct _ _
  have opposite : (⟨-a.x, -a.y, -a.z⟩ : Vec3 ℝ).norm = a.norm := by
    rw [norm, norm, neg_sq, neg_sq, neg_sq]
  have above := dot_le a b
  have below := dot_le ⟨-a.x, -a.y, -a.z⟩ b
  rw [opposite] at below
  rw [dot, abs_le]
  constructor <;> linarith

theorem abs_coordinate_le : |a.x| ≤ a.norm ∧ |a.y| ≤ a.norm ∧ |a.z| ≤ a.norm := by
  have square := norm_sq a
  refine ⟨?_, ?_, ?_⟩ <;> apply abs_le_of_sq_le_sq _ (zero_le_norm a) <;>
    linarith [sq_nonneg a.x, sq_nonneg a.y, sq_nonneg a.z]

theorem sum_abs_le : |a.x| + |a.y| + |a.z| ≤ 2 * a.norm := by
  have square := norm_sq a
  rw [← sq_abs a.x, ← sq_abs a.y, ← sq_abs a.z] at square
  apply le_of_sq_le_sq _ (by linarith [zero_le_norm a])
  nlinarith [sq_nonneg (|a.x| - |a.y|), sq_nonneg (|a.y| - |a.z|), sq_nonneg (|a.x| - |a.z|)]

/-- A vector that is small in every coordinate, next to another one, is short next to it. -/
theorem norm_le_of_coordinates {a b : Vec3 ℝ} {k c : ℝ} (part : 0 ≤ k) (rest : 0 ≤ c)
    (x : |a.x| ≤ k * |b.x| + c) (y : |a.y| ≤ k * |b.y| + c) (z : |a.z| ≤ k * |b.z| + c) :
    a.norm ≤ k * b.norm + 2 * c := by
  have length := zero_le_norm b
  have square := norm_sq b
  rw [← sq_abs b.x, ← sq_abs b.y, ← sq_abs b.z] at square
  have sum := mul_le_mul_of_nonneg_left (sum_abs_le b) (mul_nonneg part rest)
  have x' := pow_le_pow_left₀ (abs_nonneg _) x 2
  have y' := pow_le_pow_left₀ (abs_nonneg _) y 2
  have z' := pow_le_pow_left₀ (abs_nonneg _) z 2
  apply le_of_sq_le_sq _ (by positivity)
  rw [norm_sq, ← sq_abs a.x, ← sq_abs a.y, ← sq_abs a.z]
  calc |a.x| ^ 2 + |a.y| ^ 2 + |a.z| ^ 2
      ≤ (k * |b.x| + c) ^ 2 + (k * |b.y| + c) ^ 2 + (k * |b.z| + c) ^ 2 := by linarith
    _ = k ^ 2 * b.norm ^ 2 + 2 * (k * c * (|b.x| + |b.y| + |b.z|)) + 3 * c ^ 2 := by
      rw [square]
      ring
    _ ≤ k ^ 2 * b.norm ^ 2 + 2 * (k * c * (2 * b.norm)) + 4 * c ^ 2 := by
      linarith [sq_nonneg c]
    _ = (k * b.norm + 2 * c) ^ 2 := by ring

end Real

noncomputable def values (v : Vec3 Single) : Vec3 ℝ := v.map Single.value

structure IsFinite (v : Vec3 Single) : Prop where
  x : Scalar.isFinite v.x = true
  y : Scalar.isFinite v.y = true
  z : Scalar.isFinite v.z = true

variable {a b v : Vec3 Single}

theorem finite_of_dot (finite : Scalar.isFinite (dot v v) = true) : v.IsFinite := by
  obtain ⟨two, third⟩ := add_finite finite
  obtain ⟨first, second⟩ := add_finite two
  exact ⟨(mul_finite first).1, (mul_finite second).1, (mul_finite third).1⟩

theorem finite_of_length (finite : Scalar.isFinite v.length = true) : v.IsFinite :=
  finite_of_dot (sqrt_finite finite).1

theorem square_near {c : Single} (finite : Scalar.isFinite (c * c) = true) :
    |(c * c).value - c.value ^ 2| ≤ epsilon * c.value ^ 2 + smallest := by
  have near := (mul_approximates (mul_finite finite).1 (mul_finite finite).1).near finite
  rwa [← sq, abs_of_nonneg (sq_nonneg c.value)] at near

theorem sum_near {c d : Single} (finite : Scalar.isFinite (c + d) = true) :
    |(c + d).value - (c.value + d.value)| ≤ epsilon * (|c.value| + |d.value|) + smallest := by
  have near := (add_approximates (add_finite finite).1 (add_finite finite).2).near finite
  have triangle := abs_add_le c.value d.value
  rw [epsilon_eq] at near ⊢
  linarith

theorem abs_le_of_near {x v d : ℝ} (near : |x - v| ≤ d) : |x| ≤ |v| + d := by
  linarith [abs_sub_abs_le_abs_sub x v]

/-- Errors of the terms of a sum, and of the sum itself. -/
theorem three_terms_near {x y z a b c first sum : ℝ} (x_near : |x - a| ≤ epsilon * a + smallest)
    (y_near : |y - b| ≤ epsilon * b + smallest) (z_near : |z - c| ≤ epsilon * c + smallest)
    (a_nonneg : 0 ≤ a) (b_nonneg : 0 ≤ b) (c_nonneg : 0 ≤ c)
    (first_near : |first - (x + y)| ≤ epsilon * (|x| + |y|) + smallest)
    (sum_near : |sum - (first + z)| ≤ epsilon * (|first| + |z|) + smallest) :
    |sum - (a + b + c)| ≤ 4 * epsilon * (a + b + c) + 7 * smallest := by
  have least := smallest_pos
  have x_size := abs_le_of_near x_near
  have y_size := abs_le_of_near y_near
  have z_size := abs_le_of_near z_near
  have first_size := abs_le_of_near first_near
  have both := abs_add_le x y
  rw [abs_of_nonneg a_nonneg] at x_size
  rw [abs_of_nonneg b_nonneg] at y_size
  rw [abs_of_nonneg c_nonneg] at z_size
  rw [epsilon_eq] at *
  rw [abs_le] at x_near y_near z_near first_near sum_near ⊢
  constructor <;> linarith

theorem dot_self_near (finite : Scalar.isFinite (dot v v) = true) :
    |(dot v v).value - v.values.norm ^ 2| ≤ 4 * epsilon * v.values.norm ^ 2 + 7 * smallest := by
  obtain ⟨two, third⟩ := add_finite finite
  obtain ⟨first, second⟩ := add_finite two
  rw [norm_sq]
  exact three_terms_near (square_near first) (square_near second) (square_near third)
    (sq_nonneg _) (sq_nonneg _) (sq_nonneg _) (sum_near two) (sum_near finite)

theorem root_near {computed r d : ℝ} (length : 0 ≤ d) (nonneg : 0 ≤ r) (some : 5e-7 ≤ computed)
    (near : |r ^ 2 - d ^ 2| ≤ 4 * epsilon * d ^ 2 + 7 * smallest)
    (root : |computed - r| ≤ epsilon * r + smallest) : |computed - d| ≤ 6 * epsilon * d := by
  have least := smallest_le
  rw [epsilon_eq] at *
  obtain ⟨low, high⟩ := abs_le.mp root
  -- the length is large enough for the error of its square to be a part of the square
  have above : 4e-7 ≤ r := by linarith
  have above' : 3e-7 ≤ d := by
    by_contra below
    have square : d ^ 2 ≤ 9e-14 := by nlinarith
    have square' : 1.6e-13 ≤ r ^ 2 := by nlinarith
    linarith [(abs_le.mp near).2]
  have square : 9e-14 ≤ d ^ 2 := by nlinarith
  have product : |r - d| * d ≤ 4.1 * (1 / 8388608) * d * d := by
    have factors : |r - d| * (r + d) = |r ^ 2 - d ^ 2| := by
      rw [← abs_of_nonneg (add_nonneg nonneg length), ← abs_mul]
      congr 1
      ring
    have drop : 0 ≤ |r - d| * r := mul_nonneg (abs_nonneg _) nonneg
    linarith
  have close : |r - d| ≤ 4.1 * (1 / 8388608) * d :=
    le_of_mul_le_mul_right product (by linarith)
  obtain ⟨low', high'⟩ := abs_le.mp close
  rw [abs_le]
  constructor <;> linarith

/-- Lengths below which squares underflow are the only ones that are lost. -/
theorem le_of_root {computed r d : ℝ} (nonneg : 0 ≤ r)
    (near : |r ^ 2 - d ^ 2| ≤ 4 * epsilon * d ^ 2 + 7 * smallest)
    (root : |computed - r| ≤ epsilon * r + smallest) :
    d ≤ 1.0001 * (computed + smallest) + 1e-21 := by
  have least := smallest_le
  rw [epsilon_eq] at *
  obtain ⟨large, -⟩ := abs_le.mp near
  obtain ⟨low, -⟩ := abs_le.mp root
  have above : 0.99999 * r ≤ computed + smallest := by linarith
  apply le_of_sq_le_sq _ (by linarith)
  have square : (0.99999 * r) ^ 2 ≤ (computed + smallest) ^ 2 :=
    pow_le_pow_left₀ (by linarith) above 2
  have product : 0 ≤ (computed + smallest) * (1e-21 : ℝ) := by
    apply mul_nonneg (by linarith)
    norm_num
  rw [mul_pow] at square
  calc d ^ 2 ≤ 1.0002 * (computed + smallest) ^ 2 + 1e-42 := by linarith [sq_nonneg r]
    _ ≤ 1.0001 ^ 2 * (computed + smallest) ^ 2 +
        2 * 1.0001 * ((computed + smallest) * 1e-21) + 1e-21 ^ 2 := by
      linarith [sq_nonneg (computed + (smallest : ℝ))]
    _ = (1.0001 * (computed + smallest) + 1e-21) ^ 2 := by ring

/-- A computed length is nearly the root of what is nearly the square of the length. -/
theorem length_root (finite : Scalar.isFinite v.length = true) :
    ∃ r : ℝ, 0 ≤ r ∧ r ≤ 2 ^ 64 ∧
      |r ^ 2 - v.values.norm ^ 2| ≤ 4 * epsilon * v.values.norm ^ 2 + 7 * smallest ∧
      |v.length.value - r| ≤ epsilon * r + smallest := by
  obtain ⟨squared, nonneg⟩ := sqrt_finite finite
  have near := dot_self_near squared
  have root := (sqrt_approximates squared nonneg).near finite
  rw [← Real.sq_sqrt nonneg] at near
  rw [abs_of_nonneg (Real.sqrt_nonneg _)] at root
  refine ⟨√(dot v v).value, Real.sqrt_nonneg _, ?_, near, root⟩
  rw [Real.sqrt_le_left (by positivity), ← pow_mul]
  exact (le_abs_self _).trans (abs_value_lt _).le

/-- A length that is not tiny, and does not overflow, is the length but for a few units. -/
theorem length_near (finite : Scalar.isFinite v.length = true) (some : 5e-7 ≤ v.length.value) :
    |v.length.value - v.values.norm| ≤ 6 * epsilon * v.values.norm := by
  obtain ⟨r, nonneg, -, near, root⟩ := length_root finite
  exact root_near (zero_le_norm _) nonneg some near root

theorem norm_le_length (finite : Scalar.isFinite v.length = true) :
    v.values.norm ≤ 1.0001 * (v.length.value + smallest) + 1e-21 := by
  obtain ⟨r, nonneg, -, near, root⟩ := length_root finite
  exact le_of_root nonneg near root

theorem length_le (finite : Scalar.isFinite v.length = true) : v.length.value ≤ 2 ^ 65 := by
  obtain ⟨r, -, small, -, root⟩ := length_root finite
  have least := smallest_le
  rw [epsilon_eq] at root
  linarith [(abs_le.mp root).2]

theorem difference_near {c d e f : Single} (finite : Scalar.isFinite (c * d - e * f) = true) :
    |(c * d - e * f).value - (c.value * d.value - e.value * f.value)| ≤
      2.01 * epsilon * (|c.value * d.value| + |e.value * f.value|) + 4 * smallest := by
  obtain ⟨first, second⟩ := sub_finite finite
  have near := (sub_approximates first second).near finite
  have first_near := (mul_approximates (mul_finite first).1 (mul_finite first).2).near first
  have second_near := (mul_approximates (mul_finite second).1 (mul_finite second).2).near second
  have first_size := abs_le_of_near first_near
  have second_size := abs_le_of_near second_near
  have both := abs_sub (c * d).value (e * f).value
  have least := smallest_pos
  rw [epsilon_eq] at *
  rw [abs_le] at near first_near second_near ⊢
  constructor <;> linarith [abs_nonneg (c.value * d.value), abs_nonneg (e.value * f.value)]

noncomputable def crossTerms (a b : Vec3 ℝ) : Vec3 ℝ :=
  ⟨|a.y * b.z| + |b.y * a.z|, |a.z * b.x| + |b.z * a.x|, |a.x * b.y| + |b.x * a.y|⟩

theorem norm_crossTerms_le (a b : Vec3 ℝ) : (crossTerms a b).norm ≤ 1.5 * (a.norm * b.norm) := by
  have product : 0 ≤ a.norm * b.norm := mul_nonneg (zero_le_norm a) (zero_le_norm b)
  have twice (c d : ℝ) : (|c| + |d|) ^ 2 ≤ 2 * c ^ 2 + 2 * d ^ 2 := by
    rw [← sq_abs c, ← sq_abs d]
    linarith [sq_nonneg (|c| - |d|)]
  have x := twice (a.y * b.z) (b.y * a.z)
  have y := twice (a.z * b.x) (b.z * a.x)
  have z := twice (a.x * b.y) (b.x * a.y)
  have all : 2 * ((a.y * b.z) ^ 2 + (b.y * a.z) ^ 2 + (a.z * b.x) ^ 2 + (b.z * a.x) ^ 2 +
      (a.x * b.y) ^ 2 + (b.x * a.y) ^ 2) ≤ 2 * (a.norm * b.norm) ^ 2 := by
    rw [mul_pow a.norm, norm_sq a, norm_sq b]
    linarith [sq_nonneg (a.x * b.x), sq_nonneg (a.y * b.y), sq_nonneg (a.z * b.z)]
  apply le_of_sq_le_sq _ (by linarith)
  rw [norm_sq, mul_pow]
  show (|a.y * b.z| + |b.y * a.z|) ^ 2 + (|a.z * b.x| + |b.z * a.x|) ^ 2 +
    (|a.x * b.y| + |b.x * a.y|) ^ 2 ≤ _
  linarith [sq_nonneg (a.norm * b.norm)]

theorem cross_near (finite : (cross a b).IsFinite) :
    ((cross a b).values.minus (ofCoords (a.values.coords ⨯₃ b.values.coords))).norm ≤
      3.1 * epsilon * (a.values.norm * b.values.norm) + 8 * smallest := by
  have terms := norm_crossTerms_le a.values b.values
  have product := mul_nonneg (zero_le_norm a.values) (zero_le_norm b.values)
  have least := smallest_pos
  have bound : ((cross a b).values.minus (ofCoords (a.values.coords ⨯₃ b.values.coords))).norm ≤
      2.01 * epsilon * (crossTerms a.values b.values).norm + 2 * (4 * smallest) := by
    have term (p q : ℝ) : |(|p| + |q|)| = |p| + |q| :=
      abs_of_nonneg (add_nonneg (abs_nonneg p) (abs_nonneg q))
    have x := difference_near finite.x
    have y := difference_near finite.y
    have z := difference_near finite.z
    apply norm_le_of_coordinates
    · rw [epsilon_eq]
      norm_num
    · linarith
    · show |(a.y * b.z - b.y * a.z).value - (a.y.value * b.z.value - a.z.value * b.y.value)| ≤
        2.01 * epsilon * |(|a.y.value * b.z.value| + |b.y.value * a.z.value|)| + 4 * smallest
      rwa [term, mul_comm a.z.value]
    · show |(a.z * b.x - b.z * a.x).value - (a.z.value * b.x.value - a.x.value * b.z.value)| ≤
        2.01 * epsilon * |(|a.z.value * b.x.value| + |b.z.value * a.x.value|)| + 4 * smallest
      rwa [term, mul_comm a.x.value]
    · show |(a.x * b.y - b.x * a.y).value - (a.x.value * b.y.value - a.y.value * b.x.value)| ≤
        2.01 * epsilon * |(|a.x.value * b.y.value| + |b.x.value * a.y.value|)| + 4 * smallest
      rwa [term, mul_comm a.y.value]
  rw [epsilon_eq] at *
  linarith

/-- A computed cross product is nearly perpendicular to all that the exact one is. -/
theorem cross_dot_le (finite : (cross a b).IsFinite) {p : Vec3 ℝ}
    (level : (a.values.coords ⨯₃ b.values.coords) ⬝ᵥ p.coords = 0) :
    |(cross a b).values.coords ⬝ᵥ p.coords| ≤
      (3.1 * epsilon * (a.values.norm * b.values.norm) + 8 * smallest) * p.norm := by
  have off := abs_dot_le
    ((cross a b).values.minus (ofCoords (a.values.coords ⨯₃ b.values.coords))) p
  rw [coords_minus, coords_ofCoords, sub_dotProduct, level, sub_zero] at off
  exact off.trans (mul_le_mul_of_nonneg_right (cross_near finite) (zero_le_norm p))

theorem norm_scaled (k : ℝ) (v : Vec3 ℝ) : (ofCoords (k • v.coords)).norm = |k| * v.norm := by
  show √((k * v.x) ^ 2 + (k * v.y) ^ 2 + (k * v.z) ^ 2) = _
  rw [norm, ← Real.sqrt_sq_eq_abs, ← Real.sqrt_mul (sq_nonneg k)]
  congr 1
  ring

structure Directs (n v : Vec3 ℝ) (k : ℝ) : Prop where
  positive : 0 < k
  unit : |k * v.norm - 1| ≤ 9 * epsilon
  near : (n.minus (ofCoords (k • v.coords))).norm ≤ 1.1 * epsilon

theorem Directs.norm_near {n v : Vec3 ℝ} {k : ℝ} (directs : Directs n v k) :
    |n.norm - 1| ≤ 11 * epsilon := by
  have steady := norm_steady n (ofCoords (k • v.coords))
  have unit := directs.unit
  have near := directs.near
  rw [norm_scaled, abs_of_pos directs.positive] at steady
  have triangle := abs_sub_le n.norm (k * v.norm) 1
  rw [epsilon_eq] at *
  linarith

theorem Directs.dot_le {n v : Vec3 ℝ} {k : ℝ} (directs : Directs n v k) (p : Vec3 ℝ) :
    |n.coords ⬝ᵥ p.coords| ≤ 1.1 * epsilon * p.norm + k * |v.coords ⬝ᵥ p.coords| := by
  have parts : n.coords ⬝ᵥ p.coords =
      (n.minus (ofCoords (k • v.coords))).coords ⬝ᵥ p.coords + k * (v.coords ⬝ᵥ p.coords) := by
    rw [coords_minus, coords_ofCoords, sub_dotProduct, smul_dotProduct, smul_eq_mul]
    ring
  have off := abs_dot_le (n.minus (ofCoords (k • v.coords))) p
  have small := mul_le_mul_of_nonneg_right directs.near (zero_le_norm p)
  calc |n.coords ⬝ᵥ p.coords|
      ≤ |(n.minus (ofCoords (k • v.coords))).coords ⬝ᵥ p.coords| +
        |k * (v.coords ⬝ᵥ p.coords)| := by
        rw [parts]
        exact abs_add_le _ _
    _ ≤ 1.1 * epsilon * p.norm + k * |v.coords ⬝ᵥ p.coords| := by
        rw [abs_mul, abs_of_pos directs.positive]
        linarith

theorem directs_of_coordinates {n : Vec3 Single} {v : Vec3 ℝ} {k : ℝ} (positive : 0 < k)
    (unit : |k * v.norm - 1| ≤ 9 * epsilon) (x : Approximates n.x (k * v.x))
    (y : Approximates n.y (k * v.y)) (z : Approximates n.z (k * v.z)) :
    n.IsFinite ∧ Directs n.values v k := by
  obtain ⟨x_le, y_le, z_le⟩ := abs_coordinate_le (ofCoords (k • v.coords))
  rw [norm_scaled, abs_of_pos positive] at x_le y_le z_le
  have short : k * v.norm ≤ 1.001 := by
    have high := (abs_le.mp unit).2
    rw [epsilon_eq] at high
    linarith
  have bounded {c : ℝ} (small : |c| ≤ k * v.norm) : |c| ≤ 2 ^ 127 :=
    small.trans (short.trans (by norm_num))
  have finite : n.IsFinite :=
    ⟨x.bounded (bounded x_le), y.bounded (bounded y_le), z.bounded (bounded z_le)⟩
  refine ⟨finite, positive, unit, ?_⟩
  have nonneg : (0 : ℝ) ≤ epsilon := by
    rw [epsilon_eq]
    norm_num
  have near : (n.values.minus (ofCoords (k • v.coords))).norm ≤
      epsilon * (ofCoords (k • v.coords)).norm + 2 * smallest :=
    norm_le_of_coordinates nonneg smallest_pos.le (x.near finite.x) (y.near finite.y)
      (z.near finite.z)
  have least := smallest_le
  rw [norm_scaled, abs_of_pos positive] at near
  rw [epsilon_eq] at *
  linarith

theorem length_ratio (finite : Scalar.isFinite v.length = true) (some : 5e-7 ≤ v.length.value) :
    |v.values.norm / v.length.value - 1| ≤ 7 * epsilon := by
  have near := length_near finite some
  have positive : 0 < v.length.value := by linarith
  have length := zero_le_norm v.values
  rw [epsilon_eq] at *
  have ratio : v.values.norm / v.length.value - 1 =
      (v.values.norm - v.length.value) / v.length.value := by
    field_simp
  rw [ratio, abs_div, abs_of_pos positive, div_le_iff₀ positive, abs_sub_comm]
  have high := (abs_le.mp near).1
  linarith

theorem divided_directs (finite : Scalar.isFinite v.length = true)
    (some : 5e-7 ≤ v.length.value) :
    (v / v.length).IsFinite ∧ Directs (v / v.length).values v.values v.length.value⁻¹ := by
  have positive : 0 < v.length.value := by linarith
  have ratio := length_ratio finite some
  have all := finite_of_length finite
  have quotient {c : Single} (finite' : Scalar.isFinite c = true) :
      Approximates (c / v.length) (v.length.value⁻¹ * c.value) := by
    rw [inv_mul_eq_div]
    exact div_approximates finite' finite positive.ne'
  apply directs_of_coordinates (inv_pos.mpr positive) _ (quotient all.x) (quotient all.y)
    (quotient all.z)
  rw [inv_mul_eq_div]
  rw [epsilon_eq] at *
  linarith

theorem inverse_near {x : Single} (finite : Scalar.isFinite x = true) (some : 5e-7 ≤ x.value)
    (bounded : x.value ≤ 2 ^ 65) : Scalar.isFinite (1.0 / x) = true ∧
      |(1.0 / x : Single).value * x.value - 1| ≤ 1.01 * epsilon := by
  have positive : 0 < x.value := by linarith
  have one : Scalar.isFinite (1.0 : Single) = true := by decide
  have inverse := div_approximates one finite positive.ne'
  rw [one_value] at inverse
  have large : |1 / x.value| ≤ 2 ^ 127 := by
    rw [abs_of_pos (by positivity), div_le_iff₀ positive]
    linarith
  have finite' := inverse.bounded large
  refine ⟨finite', ?_⟩
  have near := mul_le_mul_of_nonneg_right (inverse.near finite') positive.le
  have least := mul_le_mul smallest_le bounded positive.le (by norm_num)
  have product : (1.0 / x : Single).value * x.value - 1 =
      ((1.0 / x : Single).value - 1 / x.value) * x.value := by
    field_simp
  have unit : |1 / x.value| * x.value = 1 := by
    rw [abs_of_pos (by positivity)]
    field_simp
  rw [product, abs_mul, abs_of_pos positive]
  rw [add_mul, mul_assoc, unit] at near
  rw [epsilon_eq] at *
  linarith

theorem normalize_directs (finite : Scalar.isFinite v.length = true)
    (some : 5e-7 ≤ v.length.value) :
    v.normalize.IsFinite ∧ ∃ k, Directs v.normalize.values v.values k ∧
      k * v.length.value ≤ 1.001 := by
  have positive : 0 < v.length.value := by linarith
  have ratio := length_ratio finite some
  have all := finite_of_length finite
  obtain ⟨finite', near⟩ := inverse_near finite some (length_le finite)
  obtain ⟨k, same⟩ : ∃ k, (1.0 / v.length : Single).value = k := ⟨_, rfl⟩
  have product {c : Single} (finite : Scalar.isFinite c = true) :
      Approximates (c * (1.0 / v.length)) (k * c.value) := by
    rw [mul_comm k, ← same]
    exact mul_approximates finite finite'
  rw [same] at near
  have whole : k * v.values.norm - 1 =
      (k * v.length.value - 1) * (v.values.norm / v.length.value) +
        (v.values.norm / v.length.value - 1) := by
    field_simp
    ring
  have steps : |k * v.values.norm - 1| ≤
      |k * v.length.value - 1| * |v.values.norm / v.length.value| +
        |v.values.norm / v.length.value - 1| := by
    rw [whole, ← abs_mul]
    exact abs_add_le _ _
  have size := abs_le_of_near ratio
  rw [abs_one] at size
  rw [epsilon_eq] at *
  have together := mul_le_mul near size (abs_nonneg _) (by norm_num)
  have unit : |k * v.values.norm - 1| ≤ 9 * (1 / 8388608) := by linarith
  obtain ⟨low, high⟩ := abs_le.mp near
  have scales : 0 < k := pos_of_mul_pos_left (by linarith) positive.le
  rw [← epsilon_eq] at unit
  have directed : v.normalize.IsFinite ∧ Directs v.normalize.values v.values k :=
    directs_of_coordinates scales unit (product all.x) (product all.y) (product all.z)
  exact ⟨directed.1, k, directed.2, by linarith⟩

/-- Every coordinate is finite, and no further from zero than `r`. -/
structure Within (v : Vec3 Single) (r : ℝ) : Prop where
  x : v.x.Within r
  y : v.y.Within r
  z : v.z.Within r

theorem IsFinite.within (finite : v.IsFinite) {r : ℝ} (short : v.values.norm ≤ r) : v.Within r := by
  obtain ⟨x, y, z⟩ := abs_coordinate_le v.values
  exact ⟨⟨finite.x, x.trans short⟩, ⟨finite.y, y.trans short⟩, ⟨finite.z, z.trans short⟩⟩

theorem Within.finite {r : ℝ} (within : v.Within r) : v.IsFinite :=
  ⟨within.x.1, within.y.1, within.z.1⟩

theorem scaled_within {c : Single} {r s : ℝ} (scale : c.Within r) (within : v.Within s)
    (bounded : r * s ≤ 1e38) : (c * v).Within (1.001 * (r * s) + 1) :=
  ⟨mul_within scale within.x bounded, mul_within scale within.y bounded,
    mul_within scale within.z bounded⟩

theorem minus_within {r s : ℝ} (first : a.Within r) (second : b.Within s)
    (bounded : r + s ≤ 1e38) : (a - b).Within (1.001 * (r + s) + 1) :=
  ⟨sub_within first.x second.x bounded, sub_within first.y second.y bounded,
    sub_within first.z second.z bounded⟩

theorem cross_finite (first : a.Within 2) (second : b.Within 2) : (cross a b).IsFinite := by
  have coordinate {c d e f : Single} (c' : c.Within 2) (d' : d.Within 2) (e' : e.Within 2)
      (f' : f.Within 2) : Scalar.isFinite (c * d - e * f) = true :=
    (sub_within (mul_within c' d' (by norm_num)) (mul_within e' f' (by norm_num)) (by norm_num)).1
  exact ⟨coordinate first.y second.z second.y first.z, coordinate first.z second.x second.z first.x,
    coordinate first.x second.y second.x first.y⟩

theorem norm_cross_sq (a b : Vec3 ℝ) : (ofCoords (a.coords ⨯₃ b.coords)).norm ^ 2 =
    (a.norm * b.norm) ^ 2 - (b.coords ⬝ᵥ a.coords) ^ 2 := by
  rw [sq, norm_mul_self, coords_ofCoords, cross_dot_cross, dotProduct_comm a.coords b.coords,
    ← norm_mul_self, ← norm_mul_self]
  ring

structure NearlyOrthonormal (tolerance : ℝ) (u v w : Vec3 ℝ) : Prop where
  first : |u.norm - 1| ≤ tolerance
  second : |v.norm - 1| ≤ tolerance
  third : |w.norm - 1| ≤ tolerance
  first_second : |u.coords ⬝ᵥ v.coords| ≤ tolerance
  second_third : |v.coords ⬝ᵥ w.coords| ≤ tolerance
  third_first : |w.coords ⬝ᵥ u.coords| ≤ tolerance

/-- The product of two lengths that are nearly one, and the length of a nearly upright product. -/
theorem norm_cross_near {a b : Vec3 ℝ} (first : |a.norm - 1| ≤ 11 * epsilon)
    (second : |b.norm - 1| ≤ 11 * epsilon) (tilt : |b.coords ⬝ᵥ a.coords| ≤ 52 * epsilon) :
    |(ofCoords (a.coords ⨯₃ b.coords)).norm - 1| ≤ 23 * epsilon := by
  have square := norm_cross_sq a b
  have nonneg := zero_le_norm (ofCoords (a.coords ⨯₃ b.coords))
  have tilted := pow_le_pow_left₀ (abs_nonneg _) tilt 2
  obtain ⟨low, high⟩ := abs_le.mp first
  obtain ⟨low', high'⟩ := abs_le.mp second
  rw [epsilon_eq] at *
  rw [sq_abs] at tilted
  have less : a.norm * b.norm ≤ (1 + 11 * (1 / 8388608)) * (1 + 11 * (1 / 8388608)) :=
    mul_le_mul (by linarith) (by linarith) (zero_le_norm b) (by norm_num)
  have more : (1 - 11 * (1 / 8388608)) * (1 - 11 * (1 / 8388608)) ≤ a.norm * b.norm :=
    mul_le_mul (by linarith) (by linarith) (by norm_num) (zero_le_norm a)
  have most := pow_le_pow_left₀ (mul_nonneg (zero_le_norm a) (zero_le_norm b)) less 2
  have least := pow_le_pow_left₀ (by norm_num) more 2
  norm_num at most least tilted
  rw [abs_le]
  constructor
  · have root : (1 - 23 * (1 / 8388608)) ≤ (ofCoords (a.coords ⨯₃ b.coords)).norm := by
      apply le_of_sq_le_sq _ nonneg
      rw [square]
      norm_num
      linarith
    linarith
  · have root : (ofCoords (a.coords ⨯₃ b.coords)).norm ≤ 1 + 23 * (1 / 8388608) := by
      apply le_of_sq_le_sq _ (by norm_num)
      rw [square]
      norm_num
      linarith [sq_nonneg (b.coords ⬝ᵥ a.coords)]
    linarith

/-- The cross product of two directions that are nearly perpendicular completes a basis. -/
theorem nearlyOrthonormal_cross (a_finite : a.IsFinite) (b_finite : b.IsFinite)
    (first : |a.values.norm - 1| ≤ 11 * epsilon) (second : |b.values.norm - 1| ≤ 11 * epsilon)
    (tilt : |b.values.coords ⬝ᵥ a.values.coords| ≤ 52 * epsilon) :
    (cross a b).IsFinite ∧
      NearlyOrthonormal 1e-5 b.values (cross a b).values a.values := by
  have a_high := (abs_le.mp first).2
  have b_high := (abs_le.mp second).2
  have across := norm_cross_near first second tilt
  have least := smallest_le
  have tiny := smallest_pos
  have short {v : Vec3 Single} (length : v.values.norm - 1 ≤ 11 * epsilon) :
      v.values.norm ≤ 1.001 := by
    rw [epsilon_eq] at length
    linarith
  have finite : (cross a b).IsFinite :=
    cross_finite (a_finite.within ((short a_high).trans (by norm_num)))
      (b_finite.within ((short b_high).trans (by norm_num)))
  have product : a.values.norm * b.values.norm ≤ 1.001 * 1.001 :=
    mul_le_mul (short a_high) (short b_high) (zero_le_norm _) (by norm_num)
  have error : 3.1 * epsilon * (a.values.norm * b.values.norm) + 8 * smallest ≤ 4 * epsilon := by
    rw [epsilon_eq]
    linarith
  have steady := (norm_steady _ _).trans ((cross_near finite).trans error)
  have upright {p : Vec3 ℝ} (length : p.norm ≤ 1.001)
      (level : (a.values.coords ⨯₃ b.values.coords) ⬝ᵥ p.coords = 0) :
      |(cross a b).values.coords ⬝ᵥ p.coords| ≤ 1e-5 := by
    refine (cross_dot_le finite level).trans ?_
    have bound := mul_le_mul error length (zero_le_norm p) (by rw [epsilon_eq]; norm_num)
    rw [epsilon_eq] at *
    linarith
  refine ⟨finite, ?_, ?_, ?_, ?_, ?_, ?_⟩
  · rw [epsilon_eq] at second
    linarith
  · have triangle := abs_sub_le (cross a b).values.norm
      (ofCoords (a.values.coords ⨯₃ b.values.coords)).norm 1
    rw [epsilon_eq] at *
    linarith
  · rw [epsilon_eq] at first
    linarith
  · rw [dotProduct_comm]
    exact upright (short b_high) (by rw [dotProduct_comm, dot_cross_self])
  · exact upright (short a_high) (by rw [dotProduct_comm, dot_self_cross])
  · rw [dotProduct_comm]
    rw [epsilon_eq] at tilt
    linarith

end Vec3

end RayScene
