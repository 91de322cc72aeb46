import RayScene.Proofs.Geometry.Regular
import RayScene.Proofs.Geometry.Soundness
import RayScene.Proofs.Geometry.Trees

/-!
Distances of real trees at real points, without rounding. The extended reals are there for operators
without operands; on real numbers their arithmetic is that of the reals.
-/

namespace RayScene

namespace Extended

theorem min_eq (a b : EReal) : Scalar.min a b = min a b := by
  have same : (a == a) = true := (beq_iff a a).mpr rfl
  rw [Scalar.min, same, if_pos rfl]
  rcases lt_or_ge b a with less | atLeast
  · rw [if_pos less, min_eq_right less.le]
  · rw [if_neg atLeast.not_gt, min_eq_left atLeast]

theorem max_eq (a b : EReal) : Scalar.max a b = max a b := by
  have same : (a == a) = true := (beq_iff a a).mpr rfl
  rw [Scalar.max, same, if_pos rfl]
  rcases lt_or_ge a b with less | atLeast
  · rw [if_pos less, max_eq_right less.le]
  · rw [if_neg atLeast.not_gt, max_eq_left atLeast]

theorem coe_min (a b : ℝ) : min (a : EReal) b = (min a b : ℝ) :=
  (EReal.coe_strictMono.monotone.map_min (a := a) (b := b)).symm

theorem coe_max (a b : ℝ) : max (a : EReal) b = (max a b : ℝ) :=
  (EReal.coe_strictMono.monotone.map_max (a := a) (b := b)).symm

theorem lift_coe (f : ℝ → ℝ) (x : ℝ) : lift f x = f x := by
  simp [lift]

theorem sqrt_coe (x : ℝ) : Scalar.sqrt (x : EReal) = (√x : ℝ) := lift_coe _ x

theorem floor_coe (x : ℝ) : Scalar.floor (x : EReal) = ((⌊x⌋ : ℝ) : EReal) := lift_coe _ x

theorem abs_coe (x : ℝ) : Scalar.abs (x : EReal) = (|x| : ℝ) := by
  show max (x : EReal) (-x) = _
  rw [← EReal.coe_neg, coe_max]
  rfl

end Extended

open Extended

namespace Vec3

noncomputable def extended (v : Vec3 ℝ) : Vec3 EReal := v.map (↑)

/-- The way from `q` to `p`. -/
noncomputable def minus (p q : Vec3 ℝ) : Vec3 ℝ := zipWith (· - ·) p q

noncomputable def norm (v : Vec3 ℝ) : ℝ := √(v.x ^ 2 + v.y ^ 2 + v.z ^ 2)

theorem extended_minus (p q : Vec3 ℝ) : p.extended - q.extended = (p.minus q).extended := rfl

theorem abs_extended (v : Vec3 ℝ) : v.extended.abs = extended ⟨|v.x|, |v.y|, |v.z|⟩ :=
  congr (congr (congrArg Vec3.mk (abs_coe v.x)) (abs_coe v.y)) (abs_coe v.z)

theorem max_zero_extended (v : Vec3 ℝ) :
    v.extended.max Vec3.zero = extended ⟨Max.max v.x 0, Max.max v.y 0, Max.max v.z 0⟩ := by
  show Vec3.mk (Scalar.max (v.x : EReal) Scalar.zero) (Scalar.max (v.y : EReal) Scalar.zero)
    (Scalar.max (v.z : EReal) Scalar.zero) = _
  rw [zero_eq, max_eq, max_eq, max_eq, ← EReal.coe_zero, coe_max, coe_max, coe_max]
  rfl

theorem maxComponent_extended (v : Vec3 ℝ) :
    v.extended.maxComponent = (Max.max v.x (Max.max v.y v.z) : ℝ) := by
  show Scalar.max (v.x : EReal) (Scalar.max (v.y : EReal) v.z) = _
  rw [max_eq, max_eq, coe_max, coe_max]

theorem length_extended (v : Vec3 ℝ) : v.extended.length = v.norm := by
  show Scalar.sqrt ((v.x : EReal) * v.x + v.y * v.y + v.z * v.z) = _
  norm_cast
  rw [sqrt_coe, norm, sq, sq, sq]

end Vec3

namespace Exact

noncomputable def planar (x y : ℝ) : ℝ := √(x ^ 2 + y ^ 2)

noncomputable def corner (a b c : ℝ) : ℝ :=
  Vec3.norm ⟨max a 0, max b 0, max c 0⟩ + min (max a (max b c)) 0

noncomputable def planarCorner (a b : ℝ) : ℝ := planar (max a 0) (max b 0) + min (max a b) 0

theorem planar_nonneg (x y : ℝ) : 0 ≤ planar x y := Real.sqrt_nonneg _

theorem planarLength_coe (x y : ℝ) : Distance.planarLength (x : EReal) y = planar x y := by
  rw [Distance.planarLength]
  norm_cast
  rw [sqrt_coe, planar, sq, sq]

theorem corner_of_nonpos {a b c : ℝ} (inside : max a (max b c) ≤ 0) :
    corner a b c = max a (max b c) := by
  obtain ⟨x, y, z⟩ : a ≤ 0 ∧ b ≤ 0 ∧ c ≤ 0 := by
    simpa only [max_le_iff] using inside
  rw [corner, max_eq_right x, max_eq_right y, max_eq_right z, Vec3.norm, min_eq_left inside]
  simp

theorem corner_of_pos {a b c : ℝ} (outside : 0 < max a (max b c)) :
    corner a b c = Vec3.norm ⟨max a 0, max b 0, max c 0⟩ := by
  rw [corner, min_eq_right outside.le, add_zero]

theorem norm_pos_of_pos {a b c : ℝ} (outside : 0 < max a (max b c)) :
    0 < Vec3.norm ⟨max a 0, max b 0, max c 0⟩ := by
  rw [Vec3.norm, Real.sqrt_pos]
  rcases lt_max_iff.mp outside with x | outside
  · have : 0 < max a 0 := lt_max_of_lt_left x
    positivity
  rcases lt_max_iff.mp outside with y | z
  · have : 0 < max b 0 := lt_max_of_lt_left y
    positivity
  · have : 0 < max c 0 := lt_max_of_lt_left z
    positivity

/-- A third coordinate that is negative, and no greater than the others, does not matter. -/
theorem corner_eq_planarCorner {a b c : ℝ} (below : c ≤ 0) (least : c ≤ b) :
    corner a b c = planarCorner a b := by
  rw [corner, planarCorner, max_eq_right below, max_eq_left least, planar, Vec3.norm]
  simp

end Exact

open Exact

/-- The distance of a primitive around the origin. -/
noncomputable def Primitive.exact : Primitive → Vec3 ℝ → Vec3 ℝ → ℝ
  | sphere, q, d => q.norm - d.x
  | box, q, d => corner (|q.x| - d.x) (|q.y| - d.y) (|q.z| - d.z)
  | torus, q, d => planar (planar q.x q.z - d.x) q.y - d.y
  | cylinder, q, d => planarCorner (planar q.x q.z - d.x) (|q.y| - d.y)

theorem Primitive.distance_extended (kind : Primitive) (q d : Vec3 ℝ) :
    kind.distance q.extended d.extended = kind.exact q d := by
  cases kind with
  | sphere =>
      show q.extended.length - (d.x : EReal) = _
      rw [Vec3.length_extended]
      rfl
  | box =>
      show Vec3.length (Vec3.max (q.extended.abs - d.extended) Vec3.zero) +
        Scalar.min (q.extended.abs - d.extended).maxComponent Scalar.zero = _
      rw [Vec3.abs_extended, Vec3.extended_minus, Vec3.max_zero_extended,
        Vec3.maxComponent_extended, Vec3.length_extended, zero_eq, min_eq, ← EReal.coe_zero,
        coe_min]
      rfl
  | torus =>
      show Distance.planarLength (Distance.planarLength (q.x : EReal) q.z - d.x) q.y - d.y = _
      rw [planarLength_coe, ← EReal.coe_sub, planarLength_coe]
      rfl
  | cylinder =>
      show Scalar.min (Scalar.max (Scalar.abs (Distance.planarLength (q.x : EReal) q.z) - d.x)
          (Scalar.abs (q.y : EReal) - d.y)) Scalar.zero +
        Distance.planarLength
          (Scalar.max (Scalar.abs (Distance.planarLength (q.x : EReal) q.z) - d.x) Scalar.zero)
          (Scalar.max (Scalar.abs (q.y : EReal) - d.y) Scalar.zero) = _
      rw [planarLength_coe, abs_coe, abs_coe, abs_of_nonneg (planar_nonneg _ _), ← EReal.coe_sub,
        ← EReal.coe_sub, zero_eq, ← EReal.coe_zero, max_eq, max_eq, max_eq, min_eq, coe_max,
        coe_max, coe_max, coe_min, planarLength_coe, ← EReal.coe_add, add_comm]
      rfl

namespace Exact

noncomputable def fold (x c : ℝ) : ℝ := if 0 < c then x - c * ⌊x / c + 0.5⌋ else x

theorem fold_coe (x c : ℝ) : Distance.fold (x : EReal) c = fold x c := by
  have half : (0.5 : EReal) = (0.5 : ℝ) := rfl
  rw [Distance.fold, fold, zero_eq]
  by_cases positive : 0 < c
  · rw [if_pos (EReal.coe_pos.mpr positive), if_pos positive, half, ← EReal.coe_div,
      ← EReal.coe_add, floor_coe]
    rfl
  · rw [if_neg (mt EReal.coe_pos.mp positive), if_neg positive]

end Exact

namespace Vec3

noncomputable def turnX (p : Vec3 ℝ) (t : ℝ) : Vec3 ℝ :=
  ⟨p.x, t.cos * p.y - t.sin * p.z, t.sin * p.y + t.cos * p.z⟩

noncomputable def turnY (p : Vec3 ℝ) (t : ℝ) : Vec3 ℝ :=
  ⟨t.cos * p.x + t.sin * p.z, p.y, -t.sin * p.x + t.cos * p.z⟩

noncomputable def turnZ (p : Vec3 ℝ) (t : ℝ) : Vec3 ℝ :=
  ⟨t.cos * p.x - t.sin * p.y, t.sin * p.x + t.cos * p.y, p.z⟩

noncomputable def turnBack (p angles : Vec3 ℝ) : Vec3 ℝ :=
  let radians (degrees : ℝ) : ℝ := degrees * oneDegree
  ((p.turnZ (-radians angles.z)).turnY (-radians angles.y)).turnX (-radians angles.x)

noncomputable def folded (p period : Vec3 ℝ) : Vec3 ℝ :=
  zipWith (fun x c => x - c * ⌊x / c + 0.5⌋) p period

theorem turnBack_extended (p angles : Vec3 ℝ) :
    Distance.inverseRotate p.extended angles.extended = (p.turnBack angles).extended := rfl

theorem folded_extended {p period : Vec3 ℝ} (x : 0 < period.x) (y : 0 < period.y)
    (z : 0 < period.z) :
    Distance.repeatDomain p.extended period.extended = (p.folded period).extended := by
  show Vec3.mk (Distance.fold (p.x : EReal) period.x) (Distance.fold (p.y : EReal) period.y)
    (Distance.fold (p.z : EReal) period.z) = _
  rw [fold_coe, fold_coe, fold_coe, fold, fold, fold, if_pos x, if_pos y, if_pos z]
  rfl

end Vec3

namespace Sdf

/-- The tree among those with extended real numbers. -/
noncomputable def extended (tree : Sdf ℝ) : Sdf EReal := tree.map (↑)

/-- The distance of a real tree at a real point, without rounding. -/
noncomputable def exactDistance (tree : Sdf ℝ) (p : Vec3 ℝ) : EReal :=
  tree.extended.distance p.extended

section
variable (p : Vec3 ℝ)

theorem exactDistance_primitive (kind : Primitive) (position dimensions : Vec3 ℝ) :
    (primitive kind position dimensions).exactDistance p =
      kind.exact (p.minus position) dimensions :=
  kind.distance_extended (p.minus position) dimensions

theorem distances_extended (children : List (Sdf ℝ)) :
    distances (mapAll (↑) children) p.extended = children.map (·.exactDistance p) := by
  rw [mapAll_eq, distances_eq, List.map_map]
  rfl

theorem exactDistance_union (children : List (Sdf ℝ)) :
    (union children).exactDistance p =
      (children.map (·.exactDistance p)).foldl Scalar.min Scalar.infinity := by
  rw [← distances_extended]
  rfl

theorem exactDistance_smoothUnion (k : ℝ) (children : List (Sdf ℝ)) :
    (smoothUnion k children).exactDistance p =
      blend (k : EReal) (children.map (·.exactDistance p)) := by
  rw [← distances_extended]
  rfl

theorem exactDistance_intersection (children : List (Sdf ℝ)) :
    (intersection children).exactDistance p =
      (children.map (·.exactDistance p)).foldl Scalar.max (-Scalar.infinity) := by
  rw [← distances_extended]
  rfl

theorem exactDistance_subtraction (base cut : Sdf ℝ) :
    (subtraction base cut).exactDistance p =
      Scalar.max (base.exactDistance p) (-cut.exactDistance p) := rfl

theorem exactDistance_translate (offset : Vec3 ℝ) (child : Sdf ℝ) :
    (translate offset child).exactDistance p = child.exactDistance (p.minus offset) :=
  congrArg (distance child.extended) (Vec3.extended_minus p offset)

theorem exactDistance_rotate (angles : Vec3 ℝ) (child : Sdf ℝ) :
    (rotate angles child).exactDistance p = child.exactDistance (p.turnBack angles) :=
  congrArg (distance child.extended) (Vec3.turnBack_extended p angles)

theorem exactDistance_repeated {period : Vec3 ℝ} (child : Sdf ℝ) (x : 0 < period.x)
    (y : 0 < period.y) (z : 0 < period.z) :
    (repeated period child).exactDistance p = child.exactDistance (p.folded period) :=
  congrArg (distance child.extended) (Vec3.folded_extended x y z)

end

theorem nodeSound_of_isValid {tree : Sdf ℝ} (valid : tree.extended.IsValid) :
    ∀ node ∈ tree.subtrees, node.extended.NodeSound := fun _ inside =>
  ((isValid_iff_sound _).mp valid).nodes _ (map_mem_subtrees _ tree inside)

theorem isPositive_coe {x : ℝ} (positive : 0 < x) : Scalar.isPositive (x : EReal) = true :=
  (isPositive_iff _).mpr ⟨EReal.coe_pos.mpr positive, EReal.coe_ne_top x⟩

theorem coe_positive {x : ℝ} (positive : Scalar.Positive (x : EReal)) : 0 < x := by
  have above := positive.above_zero
  rw [zero_eq] at above
  exact EReal.coe_pos.mp above

end Sdf
end RayScene
