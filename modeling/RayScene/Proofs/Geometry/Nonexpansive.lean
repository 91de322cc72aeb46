import Mathlib.Analysis.InnerProductSpace.PiL2
import RayScene.Proofs.Geometry.Exact

/-!
Distances change no faster than points move. A distance is the greatest, or the least, of some
expressions of which each has this property, so a step that is shorter than the distance does not
cross the surface. Repetition does not have it: fields jump where two periods meet.
-/

namespace RayScene

namespace Vec3

theorem norm_eq (v : Vec3 ℝ) : v.norm = ‖!₂[v.x, v.y, v.z]‖ := by
  rw [EuclideanSpace.norm_eq]
  simp [Fin.sum_univ_three, norm]

theorem norm_sq (v : Vec3 ℝ) : v.norm ^ 2 = v.x ^ 2 + v.y ^ 2 + v.z ^ 2 :=
  Real.sq_sqrt (by positivity)

theorem norm_steady (p q : Vec3 ℝ) : |p.norm - q.norm| ≤ (p.minus q).norm := by
  have difference : !₂[(p.minus q).x, (p.minus q).y, (p.minus q).z] =
      !₂[p.x, p.y, p.z] - !₂[q.x, q.y, q.z] := by
    ext i
    fin_cases i <;> rfl
  rw [norm_eq, norm_eq, norm_eq, difference]
  exact abs_norm_sub_norm_le _ _

theorem norm_le_norm {v w : Vec3 ℝ} (x : |v.x| ≤ |w.x|) (y : |v.y| ≤ |w.y|)
    (z : |v.z| ≤ |w.z|) : v.norm ≤ w.norm :=
  Real.sqrt_le_sqrt (add_le_add (add_le_add (sq_le_sq.mpr x) (sq_le_sq.mpr y)) (sq_le_sq.mpr z))

theorem norm_minus_comm (p q : Vec3 ℝ) : (p.minus q).norm = (q.minus p).norm := by
  rw [norm, norm]
  congr 1
  show (p.x - q.x) ^ 2 + (p.y - q.y) ^ 2 + (p.z - q.z) ^ 2 = (q.x - p.x) ^ 2 + (q.y - p.y) ^ 2 +
    (q.z - p.z) ^ 2
  ring

theorem dot_le (n v : Vec3 ℝ) : n.x * v.x + n.y * v.y + n.z * v.z ≤ n.norm * v.norm := by
  have cauchy := Real.sum_mul_le_sqrt_mul_sqrt Finset.univ ![n.x, n.y, n.z] ![v.x, v.y, v.z]
  simpa [Fin.sum_univ_three, norm] using cauchy

end Vec3

namespace Exact

theorem planar_eq_norm (x y : ℝ) : planar x y = Vec3.norm ⟨x, y, 0⟩ := by
  simp [planar, Vec3.norm]

theorem planar_le_planar (x : ℝ) {y y' : ℝ} (less : |y| ≤ |y'|) : planar x y ≤ planar x y' :=
  Real.sqrt_le_sqrt (add_le_add le_rfl (sq_le_sq.mpr less))

theorem planar_steady (x y x' y' : ℝ) :
    |planar x y - planar x' y'| ≤ planar (x - x') (y - y') := by
  have steady := Vec3.norm_steady ⟨x, y, 0⟩ ⟨x', y', 0⟩
  rw [planar_eq_norm, planar_eq_norm, planar_eq_norm]
  simpa [Vec3.minus, Vec3.zipWith] using steady

structure Upward (n : Vec3 ℝ) : Prop where
  x : 0 ≤ n.x
  y : 0 ≤ n.y
  z : 0 ≤ n.z
  unit : n.norm = 1

/-- Coordinates of a direction are at most one, and together at least one. -/
theorem Upward.one_le_sum {n : Vec3 ℝ} (up : Upward n) : 1 ≤ n.x + n.y + n.z := by
  have square := n.norm_sq
  rw [up.unit] at square
  have x := up.x
  have y := up.y
  have z := up.z
  have products : 0 ≤ n.x * n.y + n.x * n.z + n.y * n.z := by positivity
  nlinarith

/-- How far a point is up in any such direction is at most its distance from the corner. -/
theorem Upward.dot_le_corner {n : Vec3 ℝ} (up : Upward n) (a b c : ℝ) :
    n.x * a + n.y * b + n.z * c ≤ corner a b c := by
  rcases le_or_gt (max a (max b c)) 0 with inside | outside
  · have x := mul_le_mul_of_nonneg_left (le_max_left a (max b c)) up.x
    have y := mul_le_mul_of_nonneg_left ((le_max_left b c).trans (le_max_right a _)) up.y
    have z := mul_le_mul_of_nonneg_left ((le_max_right b c).trans (le_max_right a _)) up.z
    have bound := mul_nonpos_of_nonneg_of_nonpos (sub_nonneg.mpr up.one_le_sum) inside
    rw [corner_of_nonpos inside]
    linarith
  · have x := mul_le_mul_of_nonneg_left (le_max_left a 0) up.x
    have y := mul_le_mul_of_nonneg_left (le_max_left b 0) up.y
    have z := mul_le_mul_of_nonneg_left (le_max_left c 0) up.z
    have cauchy := Vec3.dot_le n ⟨max a 0, max b 0, max c 0⟩
    rw [up.unit, one_mul] at cauchy
    rw [corner_of_pos outside]
    linarith

theorem max_zero_mul_self (a : ℝ) : max a 0 * a = max a 0 ^ 2 := by
  rcases max_cases a 0 with ⟨same, -⟩ | ⟨same, -⟩ <;> rw [same] <;> ring

theorem exists_upward (a b c : ℝ) :
    ∃ n, Upward n ∧ corner a b c = n.x * a + n.y * b + n.z * c := by
  rcases le_or_gt (max a (max b c)) 0 with inside | outside
  · rw [corner_of_nonpos inside]
    rcases max_cases a (max b c) with ⟨most, -⟩ | ⟨most, -⟩ <;> rw [most]
    · exact ⟨⟨1, 0, 0⟩, ⟨by simp, by simp, by simp, by simp [Vec3.norm]⟩, by simp⟩
    · rcases max_cases b c with ⟨most, -⟩ | ⟨most, -⟩ <;> rw [most]
      · exact ⟨⟨0, 1, 0⟩, ⟨by simp, by simp, by simp, by simp [Vec3.norm]⟩, by simp⟩
      · exact ⟨⟨0, 0, 1⟩, ⟨by simp, by simp, by simp, by simp [Vec3.norm]⟩, by simp⟩
  · -- the coordinates above zero point away from the corner
    have positive := norm_pos_of_pos outside
    have square := Vec3.norm_sq ⟨max a 0, max b 0, max c 0⟩
    rw [corner_of_pos outside]
    generalize Vec3.norm ⟨max a 0, max b 0, max c 0⟩ = length at positive square
    dsimp only at square
    have unit : Vec3.norm ⟨max a 0 / length, max b 0 / length, max c 0 / length⟩ = 1 := by
      rw [Vec3.norm, div_pow, div_pow, div_pow, ← add_div, ← add_div, ← square,
        div_self (pow_ne_zero 2 positive.ne'), Real.sqrt_one]
    refine ⟨_, ⟨?_, ?_, ?_, unit⟩, ?_⟩
    · exact div_nonneg (le_max_right a 0) positive.le
    · exact div_nonneg (le_max_right b 0) positive.le
    · exact div_nonneg (le_max_right c 0) positive.le
    · have cut (x : ℝ) : max x 0 / length * x = max x 0 ^ 2 / length := by
        rw [div_mul_eq_mul_div, max_zero_mul_self]
      rw [cut, cut, cut, ← add_div, ← add_div, ← square, sq, mul_div_cancel_right₀ _ positive.ne']

theorem corner_sub_le (a b c a' b' c' : ℝ) :
    corner a b c - corner a' b' c' ≤ Vec3.norm ⟨a - a', b - b', c - c'⟩ := by
  obtain ⟨n, up, reached⟩ := exists_upward a b c
  have bound := up.dot_le_corner a' b' c'
  have cauchy := Vec3.dot_le n ⟨a - a', b - b', c - c'⟩
  rw [up.unit, one_mul] at cauchy
  linarith

theorem planarCorner_sub_le (a b a' b' : ℝ) :
    planarCorner a b - planarCorner a' b' ≤ planar (a - a') (b - b') := by
  -- one plane below both points
  have below : min (min b b') 0 ≤ 0 := min_le_right _ _
  have first : min (min b b') 0 ≤ b := (min_le_left _ _).trans (min_le_left _ _)
  have second : min (min b b') 0 ≤ b' := (min_le_left _ _).trans (min_le_right _ _)
  have steady := corner_sub_le a b (min (min b b') 0) a' b' (min (min b b') 0)
  rw [corner_eq_planarCorner below first, corner_eq_planarCorner below second, sub_self,
    ← planar_eq_norm] at steady
  exact steady

/-- Turning around the y axis leaves distances as they are, so distances within the half plane of
the profile are no greater than those in space. -/
theorem profile_le (p q : Vec3 ℝ) :
    planar (planar p.x p.z - planar q.x q.z) (p.y - q.y) ≤ (p.minus q).norm := by
  have radial := planar_steady p.x p.z q.x q.z
  have square : (planar p.x p.z - planar q.x q.z) ^ 2 ≤ (p.x - q.x) ^ 2 + (p.z - q.z) ^ 2 := by
    rw [← Real.sq_sqrt (show 0 ≤ (p.x - q.x) ^ 2 + (p.z - q.z) ^ 2 by positivity)]
    exact sq_le_sq.mpr (radial.trans (le_abs_self _))
  refine Real.sqrt_le_sqrt ?_
  show _ ≤ (p.x - q.x) ^ 2 + (p.y - q.y) ^ 2 + (p.z - q.z) ^ 2
  linarith

end Exact

open Exact

theorem Primitive.exact_sub_le (kind : Primitive) (p q d : Vec3 ℝ) :
    kind.exact p d - kind.exact q d ≤ (p.minus q).norm := by
  have across (x y r : ℝ) : |(|x| - r) - (|y| - r)| ≤ |x - y| := by
    rw [sub_sub_sub_cancel_right]
    exact abs_abs_sub_abs_le_abs_sub x y
  cases kind with
  | sphere =>
      show p.norm - d.x - (q.norm - d.x) ≤ _
      rw [sub_sub_sub_cancel_right]
      exact (le_abs_self _).trans (Vec3.norm_steady p q)
  | box =>
      refine (corner_sub_le _ _ _ _ _ _).trans (Vec3.norm_le_norm ?_ ?_ ?_)
      · exact across _ _ _
      · exact across _ _ _
      · exact across _ _ _
  | torus =>
      show planar (planar p.x p.z - d.x) p.y - d.y - (planar (planar q.x q.z - d.x) q.y - d.y) ≤ _
      rw [sub_sub_sub_cancel_right]
      refine (le_abs_self _).trans ((planar_steady _ _ _ _).trans ?_)
      rw [sub_sub_sub_cancel_right]
      exact profile_le p q
  | cylinder =>
      refine (planarCorner_sub_le _ _ _ _).trans (le_trans ?_ (profile_le p q))
      rw [sub_sub_sub_cancel_right]
      exact planar_le_planar _ (across _ _ _)

namespace Vec3

variable (p q : Vec3 ℝ)

theorem minus_minus (offset : Vec3 ℝ) : (p.minus offset).minus (q.minus offset) = p.minus q := by
  simp [minus, zipWith]

theorem turnX_norm (t : ℝ) : ((p.turnX t).minus (q.turnX t)).norm = (p.minus q).norm := by
  simp only [norm, minus, zipWith, turnX]
  congr 1
  linear_combination ((p.y - q.y) ^ 2 + (p.z - q.z) ^ 2) * Real.sin_sq_add_cos_sq t

theorem turnY_norm (t : ℝ) : ((p.turnY t).minus (q.turnY t)).norm = (p.minus q).norm := by
  simp only [norm, minus, zipWith, turnY]
  congr 1
  linear_combination ((p.x - q.x) ^ 2 + (p.z - q.z) ^ 2) * Real.sin_sq_add_cos_sq t

theorem turnZ_norm (t : ℝ) : ((p.turnZ t).minus (q.turnZ t)).norm = (p.minus q).norm := by
  simp only [norm, minus, zipWith, turnZ]
  congr 1
  linear_combination ((p.x - q.x) ^ 2 + (p.y - q.y) ^ 2) * Real.sin_sq_add_cos_sq t

theorem turnBack_norm (angles : Vec3 ℝ) :
    ((p.turnBack angles).minus (q.turnBack angles)).norm = (p.minus q).norm := by
  rw [turnBack, turnBack, turnX_norm, turnY_norm, turnZ_norm]

end Vec3

namespace Exact

open Extended

noncomputable def mixture (a b k h : ℝ) : ℝ := b + (a - b) * h - k * h * (1 - h)

noncomputable def part (a b k : ℝ) : ℝ :=
  let share := 0.5 + 0.5 * (b - a) / k
  if share < 0 then 0 else if 1 < share then 1 else share

theorem smoothUnion_coe (a b : ℝ) {k : ℝ} (positive : 0 < k) :
    Distance.smoothUnion (a : EReal) b k = mixture a b k (part a b k) := by
  have half : (0.5 : EReal) = (0.5 : ℝ) := rfl
  have zero : (0.0 : EReal) = (0 : ℝ) := zero_eq
  have one : (1.0 : EReal) = (1 : ℝ) := by
    show ((1.0 : ℝ) : EReal) = _
    norm_num
  have clamped : Scalar.clamp ((0.5 : EReal) + 0.5 * (b - a) / k) 0.0 1.0 = part a b k := by
    rw [half, zero, one, ← EReal.coe_sub, ← EReal.coe_mul, ← EReal.coe_div, ← EReal.coe_add,
      Scalar.clamp, part]
    norm_cast
    split_ifs <;> rfl
  rw [Distance.smoothUnion, zero_eq, if_neg (EReal.coe_pos.mpr positive).not_ge, clamped, one]
  rfl

theorem part_mem (a b k : ℝ) : 0 ≤ part a b k ∧ part a b k ≤ 1 := by
  unfold part
  dsimp only
  split
  next => norm_num
  next low =>
    split
    next => norm_num
    next high => exact ⟨not_lt.mp low, not_lt.mp high⟩

theorem mixture_part_le (a b : ℝ) {k h : ℝ} (positive : 0 < k) (low : 0 ≤ h) (high : h ≤ 1) :
    mixture a b k (part a b k) ≤ mixture a b k h := by
  have share_eq : a - b = k * (1 - 2 * (0.5 + 0.5 * (b - a) / k)) := by
    field_simp
    ring
  unfold part
  dsimp only
  generalize 0.5 + 0.5 * (b - a) / k = share at share_eq
  -- a parabola with its lowest point at the share, of which clamping takes the nearest in range
  have gap (g : ℝ) : mixture a b k h - mixture a b k g = k * ((h - g) * (h + g - 2 * share)) := by
    rw [mixture, mixture, share_eq]
    ring
  rw [← sub_nonneg, gap]
  refine mul_nonneg positive.le ?_
  split
  next left => exact mul_nonneg (by linarith) (by linarith)
  next =>
    split
    next right => exact mul_nonneg_of_nonpos_of_nonpos (by linarith) (by linarith)
    next =>
      have square := mul_self_nonneg (h - share)
      linarith

theorem blend_sub_le {a b a' b' k e : ℝ} (positive : 0 < k) (first : a - a' ≤ e)
    (second : b - b' ≤ e) :
    mixture a b k (part a b k) - mixture a' b' k (part a' b' k) ≤ e := by
  obtain ⟨low, high⟩ := part_mem a' b' k
  have least := mixture_part_le a b positive low high
  have weighted := mul_le_mul_of_nonneg_left first low
  have weighted' := mul_le_mul_of_nonneg_left second (sub_nonneg.mpr high)
  unfold mixture at least ⊢
  linarith

end Exact

def Close (e : ℝ) (d d' : EReal) : Prop := ∃ x y : ℝ, d = x ∧ d' = y ∧ x - y ≤ e ∧ y - x ≤ e

namespace Close

open Extended

variable {e : ℝ} {a a' b b' : EReal}

theorem neg (close : Close e a a') : Close e (-a) (-a') := by
  obtain ⟨x, y, rfl, rfl, upper, lower⟩ := close
  exact ⟨-x, -y, rfl, rfl, by linarith, by linarith⟩

theorem min (first : Close e a a') (second : Close e b b') :
    Close e (Scalar.min a b) (Scalar.min a' b') := by
  obtain ⟨x, x', rfl, rfl, upper, lower⟩ := first
  obtain ⟨y, y', rfl, rfl, upper', lower'⟩ := second
  refine ⟨_, _, (min_eq _ _).trans (coe_min x y), (min_eq _ _).trans (coe_min x' y'), ?_, ?_⟩
  · rw [sub_le_iff_le_add, ← min_add_add_left]
    exact min_le_min (by linarith) (by linarith)
  · rw [sub_le_iff_le_add, ← min_add_add_left]
    exact min_le_min (by linarith) (by linarith)

theorem max (first : Close e a a') (second : Close e b b') :
    Close e (Scalar.max a b) (Scalar.max a' b') := by
  obtain ⟨x, x', rfl, rfl, upper, lower⟩ := first
  obtain ⟨y, y', rfl, rfl, upper', lower'⟩ := second
  refine ⟨_, _, (max_eq _ _).trans (coe_max x y), (max_eq _ _).trans (coe_max x' y'), ?_, ?_⟩
  · rw [sub_le_iff_le_add, ← max_add_add_left]
    exact max_le_max (by linarith) (by linarith)
  · rw [sub_le_iff_le_add, ← max_add_add_left]
    exact max_le_max (by linarith) (by linarith)

theorem smoothUnion {k : ℝ} (positive : 0 < k) (first : Close e a a') (second : Close e b b') :
    Close e (Distance.smoothUnion a b k) (Distance.smoothUnion a' b' k) := by
  obtain ⟨x, x', rfl, rfl, upper, lower⟩ := first
  obtain ⟨y, y', rfl, rfl, upper', lower'⟩ := second
  exact ⟨_, _, smoothUnion_coe x y positive, smoothUnion_coe x' y' positive,
    blend_sub_le positive upper upper', blend_sub_le positive lower lower'⟩

/-- Operators that combine their operands one by one keep closeness if one combination does. -/
theorem foldl {op : EReal → EReal → EReal}
    (keeps : ∀ {a a' b b'}, Close e a a' → Close e b b' → Close e (op a b) (op a' b'))
    {trees : List (Sdf ℝ)} {p q : Vec3 ℝ}
    (each : ∀ tree ∈ trees, Close e (tree.exactDistance p) (tree.exactDistance q))
    (start : Close e a a') :
    Close e ((trees.map (·.exactDistance p)).foldl op a)
      ((trees.map (·.exactDistance q)).foldl op a') := by
  induction trees generalizing a a' with
  | nil => exact start
  | cons tree trees ih =>
      exact ih (fun other member => each other (List.mem_cons_of_mem _ member))
        (keeps start (each tree List.mem_cons_self))

theorem fold {op : EReal → EReal → EReal} {unit : EReal}
    (keeps : ∀ {a a' b b'}, Close e a a' → Close e b b' → Close e (op a b) (op a' b'))
    (start : ∀ d, op unit d = d) {trees : List (Sdf ℝ)} {p q : Vec3 ℝ}
    (each : ∀ tree ∈ trees, Close e (tree.exactDistance p) (tree.exactDistance q))
    (nonempty : trees ≠ []) :
    Close e ((trees.map (·.exactDistance p)).foldl op unit)
      ((trees.map (·.exactDistance q)).foldl op unit) := by
  obtain ⟨first, rest, rfl⟩ := List.exists_cons_of_ne_nil nonempty
  rw [List.map_cons, List.map_cons, List.foldl_cons, List.foldl_cons, start, start]
  exact foldl keeps (fun other member => each other (List.mem_cons_of_mem _ member))
    (each first List.mem_cons_self)

end Close

theorem Close.tree {tree : Sdf ℝ} (nodes : ∀ node ∈ tree.subtrees,
      node.extended.NodeSound ∧ ∀ period child, node ≠ .repeated period child) :
    ∀ p q, Close (p.minus q).norm (tree.exactDistance p) (tree.exactDistance q) := by
  refine Sdf.induction_on_nodes
    (motive := fun tree =>
      ∀ p q : Vec3 ℝ, Close (p.minus q).norm (tree.exactDistance p) (tree.exactDistance q))
    (fun tree here each p q => ?_) nodes
  obtain ⟨sound, single⟩ := here
  cases tree with
  | primitive kind position d =>
      rw [Sdf.exactDistance_primitive, Sdf.exactDistance_primitive]
      have upper := kind.exact_sub_le (p.minus position) (q.minus position) d
      have lower := kind.exact_sub_le (q.minus position) (p.minus position) d
      rw [Vec3.minus_minus] at upper lower
      exact ⟨_, _, rfl, rfl, upper, Vec3.norm_minus_comm q p ▸ lower⟩
  | union children =>
      rw [Sdf.exactDistance_union, Sdf.exactDistance_union]
      exact .fold .min Scalar.Regular.infinity_min (fun child member => each child member p q)
        fun none => sound (none ▸ rfl)
  | smoothUnion k children =>
      obtain ⟨nonempty, positive⟩ := sound
      cases children with
      | nil => exact absurd rfl nonempty
      | cons first rest =>
          rw [Sdf.exactDistance_smoothUnion, Sdf.exactDistance_smoothUnion]
          exact .foldl (.smoothUnion (Sdf.coe_positive positive))
            (fun other member => each other (List.mem_cons_of_mem _ member) p q)
            (each first List.mem_cons_self p q)
  | intersection children =>
      rw [Sdf.exactDistance_intersection, Sdf.exactDistance_intersection]
      exact .fold .max Scalar.Regular.neg_infinity_max (fun child member => each child member p q)
        fun none => sound (none ▸ rfl)
  | subtraction base cut =>
      rw [Sdf.exactDistance_subtraction, Sdf.exactDistance_subtraction]
      exact .max (each base (by simp [Sdf.children]) p q)
        (.neg (each cut (by simp [Sdf.children]) p q))
  | translate offset child =>
      have close := each child List.mem_cons_self (p.minus offset) (q.minus offset)
      rw [Vec3.minus_minus] at close
      rw [Sdf.exactDistance_translate, Sdf.exactDistance_translate]
      exact close
  | rotate angles child =>
      have close := each child List.mem_cons_self (p.turnBack angles) (q.turnBack angles)
      rw [Vec3.turnBack_norm] at close
      rw [Sdf.exactDistance_rotate, Sdf.exactDistance_rotate]
      exact close
  | repeated period child => exact absurd rfl (single period child)

/-- The distance of a valid tree that repeats nothing changes no faster than the point moves. A step
shorter than the distance stays on the same side of the surface. -/
theorem distance_is_nonexpansive {tree : Sdf ℝ} (valid : tree.extended.IsValid)
    (single : ∀ period child, .repeated period child ∉ tree.subtrees) :
    ∃ distance : Vec3 ℝ → ℝ, (∀ p, tree.exactDistance p = distance p) ∧
      (∀ p q, |distance p - distance q| ≤ (p.minus q).norm) ∧
      ∀ p q, (p.minus q).norm < |distance p| → 0 < distance p * distance q := by
  have close := Close.tree fun node inside => ⟨Sdf.nodeSound_of_isValid valid node inside,
    fun period child same => single period child (same ▸ inside)⟩
  have real (p : Vec3 ℝ) : tree.exactDistance p = (tree.exactDistance p).toReal := by
    obtain ⟨x, -, same, -⟩ := close p p
    rw [same, EReal.toReal_coe]
  have steady (p q : Vec3 ℝ) :
      |(tree.exactDistance p).toReal - (tree.exactDistance q).toReal| ≤ (p.minus q).norm := by
    obtain ⟨x, y, first, second, upper, lower⟩ := close p q
    rw [first, second, EReal.toReal_coe, EReal.toReal_coe]
    exact abs_sub_le_iff.mpr ⟨upper, lower⟩
  refine ⟨fun p => (tree.exactDistance p).toReal, real, steady, fun p q short => ?_⟩
  have near := abs_le.mp (steady p q)
  rcases lt_abs.mp short with outside | inside
  · exact mul_pos (by linarith) (by linarith)
  · exact mul_pos_of_neg_of_neg (by linarith) (by linarith)

noncomputable def meltedShapes : Sdf ℝ :=
  .intersection [
    .subtraction
      (.smoothUnion 1 [.primitive .box (Vec3.splat 0) (Vec3.splat 1),
        .rotate ⟨30.0, 40.0, 50.0⟩ (.primitive .cylinder (Vec3.splat 1) ⟨1, 3.0, 0⟩)])
      (.translate ⟨0, 1, 0⟩ (.primitive .torus (Vec3.splat 0) ⟨3.0, 1, 0⟩)),
    .union [.primitive .sphere (Vec3.splat 0) (Vec3.splat 3.0)]]

theorem meltedShapes_valid : meltedShapes.extended.IsValid := by
  have one : Scalar.isPositive (1 : EReal) = true := Sdf.isPositive_coe one_pos
  have three := Sdf.isPositive_coe (show (0 : ℝ) < 3.0 by norm_num)
  simp only [Sdf.IsValid, Sdf.error?, meltedShapes, Sdf.extended, Sdf.map, Sdf.mapAll, Sdf.depth,
    Sdf.depthOfAll, Sdf.maxDepth, Sdf.subtrees, Sdf.subtreesOfAll, Vec3.map, Vec3.splat]
  simp [Sdf.nodeError?, Vec3.toList, Primitive.arity, one, three]

theorem meltedShapes_steady :
    meltedShapes.extended.IsValid ∧
      (∀ period child, .repeated period child ∉ meltedShapes.subtrees) ∧
      ∃ here there : ℝ, meltedShapes.exactDistance (Vec3.splat 0) = here ∧
        meltedShapes.exactDistance ⟨1, 0, 0⟩ = there ∧ |here - there| ≤ 1 := by
  have single : ∀ period child, Sdf.repeated period child ∉ meltedShapes.subtrees := by
    simp [meltedShapes, Sdf.subtrees, Sdf.subtreesOfAll]
  obtain ⟨distance, real, steady, -⟩ := distance_is_nonexpansive meltedShapes_valid single
  refine ⟨meltedShapes_valid, single, _, _, real _, real _, (steady _ _).trans_eq ?_⟩
  simp [Vec3.norm, Vec3.minus, Vec3.zipWith, Vec3.splat]

end RayScene
