import RayScene.Proofs.Geometry.Exact

/-!
Solids as sets of points. Operators combine their operands as sets, strictly inside and strictly
outside at once, and the sign of the distance tells on which side of the surface a point is.
-/

namespace RayScene

structure Region where
  Inside : Vec3 ℝ → Prop
  Outside : Vec3 ℝ → Prop

namespace Region

def empty : Region := ⟨fun _ => False, fun _ => False⟩

def union (regions : List Region) : Region where
  Inside p := ∃ region ∈ regions, region.Inside p
  Outside p := ∀ region ∈ regions, region.Outside p

def intersection (regions : List Region) : Region where
  Inside p := ∀ region ∈ regions, region.Inside p
  Outside p := ∃ region ∈ regions, region.Outside p

def subtraction (base cut : Region) : Region where
  Inside p := base.Inside p ∧ cut.Outside p
  Outside p := base.Outside p ∨ cut.Inside p

def preimage (region : Region) (f : Vec3 ℝ → Vec3 ℝ) : Region where
  Inside p := region.Inside (f p)
  Outside p := region.Outside (f p)

end Region

open Exact (planar)

/-- A primitive around the origin. -/
def Primitive.region : Primitive → Vec3 ℝ → Region
  | sphere, d => {
      Inside := fun q => q.norm < d.x
      Outside := fun q => d.x < q.norm }
  | box, d => {
      Inside := fun q => |q.x| < d.x ∧ |q.y| < d.y ∧ |q.z| < d.z
      Outside := fun q => d.x < |q.x| ∨ d.y < |q.y| ∨ d.z < |q.z| }
  | torus, d => {
      Inside := fun q => (planar q.x q.z - d.x) ^ 2 + q.y ^ 2 < d.y ^ 2
      Outside := fun q => d.y ^ 2 < (planar q.x q.z - d.x) ^ 2 + q.y ^ 2 }
  | cylinder, d => {
      Inside := fun q => planar q.x q.z < d.x ∧ |q.y| < d.y
      Outside := fun q => d.x < planar q.x q.z ∨ d.y < |q.y| }

namespace Sdf

mutual

/-- The points of a tree; a smooth union, which is no operation on sets, gets none. -/
noncomputable def region : Sdf ℝ → Region
  | primitive kind position dimensions => (kind.region dimensions).preimage (·.minus position)
  | union children => .union (regions children)
  | smoothUnion _ _ => .empty
  | intersection children => .intersection (regions children)
  | subtraction base cut => .subtraction (region base) (region cut)
  | translate offset child => (region child).preimage (·.minus offset)
  | rotate angles child => (region child).preimage (·.turnBack angles)
  | repeated period child => (region child).preimage (·.folded period)

noncomputable def regions : List (Sdf ℝ) → List Region
  | [] => []
  | child :: children => region child :: regions children

end

theorem regions_eq (children : List (Sdf ℝ)) : regions children = children.map region := by
  induction children with
  | nil => rfl
  | cons child children ih => rw [regions, ih, List.map_cons]

end Sdf

namespace Exact

theorem corner_pos_iff (a b c : ℝ) : 0 < corner a b c ↔ 0 < a ∨ 0 < b ∨ 0 < c := by
  rw [← lt_max_iff, ← lt_max_iff]
  rcases le_or_gt (max a (max b c)) 0 with inside | outside
  · rw [corner_of_nonpos inside]
  · rw [corner_of_pos outside]
    exact iff_of_true (norm_pos_of_pos outside) outside

theorem corner_neg_iff (a b c : ℝ) : corner a b c < 0 ↔ a < 0 ∧ b < 0 ∧ c < 0 := by
  rw [← max_lt_iff, ← max_lt_iff]
  rcases le_or_gt (max a (max b c)) 0 with inside | outside
  · rw [corner_of_nonpos inside]
  · rw [corner_of_pos outside]
    exact iff_of_false (norm_pos_of_pos outside).not_gt outside.not_gt

theorem planarCorner_sign (a b : ℝ) :
    (planarCorner a b < 0 ↔ a < 0 ∧ b < 0) ∧ (0 < planarCorner a b ↔ 0 < a ∨ 0 < b) := by
  have below : min b (-1) < 0 := (min_le_right _ _).trans_lt (by norm_num)
  have flat := corner_eq_planarCorner (a := a) below.le (min_le_left b (-1))
  rw [← flat, corner_neg_iff, corner_pos_iff]
  constructor
  · simp only [below, and_true]
  · simp only [below.not_gt, or_false]

end Exact

open Exact

structure Agrees (d : EReal) (region : Region) (p : Vec3 ℝ) : Prop where
  real : ∃ x : ℝ, d = x
  inside : d < 0 ↔ region.Inside p
  outside : 0 < d ↔ region.Outside p

theorem Agrees.coe {x : ℝ} {region : Region} {p : Vec3 ℝ} (inside : x < 0 ↔ region.Inside p)
    (outside : 0 < x ↔ region.Outside p) : Agrees x region p :=
  ⟨⟨x, rfl⟩, EReal.coe_neg'.trans inside, EReal.coe_pos.trans outside⟩

theorem Agrees.preimage {d : EReal} {region : Region} {f : Vec3 ℝ → Vec3 ℝ} {p : Vec3 ℝ}
    (agrees : Agrees d region (f p)) : Agrees d (region.preimage f) p :=
  ⟨agrees.real, agrees.inside, agrees.outside⟩

theorem Primitive.agrees {kind : Primitive} {position d : Vec3 ℝ}
    (sound : (Sdf.primitive kind position d).extended.NodeSound) (q : Vec3 ℝ) :
    Agrees (kind.exact q d) (kind.region d) q := by
  cases kind with
  | sphere => exact .coe sub_neg sub_pos
  | box =>
      refine .coe ((corner_neg_iff _ _ _).trans ?_) ((corner_pos_iff _ _ _).trans ?_)
      · rw [sub_neg, sub_neg, sub_neg]
        rfl
      · rw [sub_pos, sub_pos, sub_pos]
        rfl
  | torus =>
      have radius : 0 < d.y := Sdf.coe_positive sound.2
      refine .coe (sub_neg.trans ?_) (sub_pos.trans ?_)
      · exact Real.sqrt_lt' radius
      · exact Real.lt_sqrt radius.le
  | cylinder =>
      obtain ⟨inside, outside⟩ := planarCorner_sign (planar q.x q.z - d.x) (|q.y| - d.y)
      refine .coe (inside.trans ?_) (outside.trans ?_)
      · rw [sub_neg, sub_neg]
        rfl
      · rw [sub_pos, sub_pos]
        rfl

section
variable (d : EReal) (ds : List EReal)

theorem foldl_min_neg_iff : ds.foldl Scalar.min d < 0 ↔ d < 0 ∨ ∃ e ∈ ds, e < 0 := by
  induction ds generalizing d with
  | nil => simp
  | cons e ds ih => rw [List.foldl_cons, ih, Extended.min_eq, min_lt_iff]; simp [or_assoc]

theorem foldl_min_pos_iff : 0 < ds.foldl Scalar.min d ↔ 0 < d ∧ ∀ e ∈ ds, 0 < e := by
  induction ds generalizing d with
  | nil => simp
  | cons e ds ih => rw [List.foldl_cons, ih, Extended.min_eq, lt_min_iff]; simp [and_assoc]

theorem foldl_max_neg_iff : ds.foldl Scalar.max d < 0 ↔ d < 0 ∧ ∀ e ∈ ds, e < 0 := by
  induction ds generalizing d with
  | nil => simp
  | cons e ds ih => rw [List.foldl_cons, ih, Extended.max_eq, max_lt_iff]; simp [and_assoc]

theorem foldl_max_pos_iff : 0 < ds.foldl Scalar.max d ↔ 0 < d ∨ ∃ e ∈ ds, 0 < e := by
  induction ds generalizing d with
  | nil => simp
  | cons e ds ih => rw [List.foldl_cons, ih, Extended.max_eq, lt_max_iff]; simp [or_assoc]

end

theorem real_foldl {op : EReal → EReal → EReal} (closed : ∀ x y : ℝ, ∃ z : ℝ, op x y = z)
    {ds : List EReal} (each : ∀ d ∈ ds, ∃ x : ℝ, d = x) (x : ℝ) :
    ∃ z : ℝ, ds.foldl op x = z := by
  induction ds generalizing x with
  | nil => exact ⟨x, rfl⟩
  | cons d ds ih =>
      obtain ⟨y, rfl⟩ := each d List.mem_cons_self
      obtain ⟨z, same⟩ := closed x y
      rw [List.foldl_cons, same]
      exact ih (fun e member => each e (List.mem_cons_of_mem _ member)) z

section
variable {children : List (Sdf ℝ)} {p : Vec3 ℝ}
  (each : ∀ child ∈ children, Agrees (child.exactDistance p) child.region p)
include each

theorem real_children {op : EReal → EReal → EReal} {unit : EReal}
    (closed : ∀ x y : ℝ, ∃ z : ℝ, op x y = z) (start : ∀ d, op unit d = d)
    (nonempty : children ≠ []) :
    ∃ z : ℝ, (children.map (·.exactDistance p)).foldl op unit = z := by
  obtain ⟨first, rest, rfl⟩ := List.exists_cons_of_ne_nil nonempty
  obtain ⟨x, same⟩ := (each first List.mem_cons_self).real
  rw [List.map_cons, List.foldl_cons, start, same]
  refine real_foldl closed (fun d member => ?_) x
  obtain ⟨child, inside, rfl⟩ := List.mem_map.mp member
  exact (each child (List.mem_cons_of_mem _ inside)).real

theorem Agrees.union (nonempty : children ≠ []) :
    Agrees ((Sdf.union children).exactDistance p) (Sdf.union children).region p := by
  have top : (Scalar.infinity : EReal) = ⊤ := rfl
  rw [Sdf.exactDistance_union, Sdf.region, Sdf.regions_eq]
  refine ⟨real_children each (fun x y => ⟨min x y, ?_⟩) Scalar.Regular.infinity_min nonempty,
    ?_, ?_⟩
  · rw [Extended.min_eq, Extended.coe_min]
  · rw [foldl_min_neg_iff, top, or_iff_right not_top_lt]
    simp only [Region.union, List.mem_map, exists_exists_and_eq_and]
    exact exists_congr fun child => and_congr_right fun member => (each child member).inside
  · rw [foldl_min_pos_iff, top, and_iff_right EReal.zero_lt_top]
    simp only [Region.union, List.forall_mem_map]
    exact forall₂_congr fun child member => (each child member).outside

theorem Agrees.intersection (nonempty : children ≠ []) :
    Agrees ((Sdf.intersection children).exactDistance p) (Sdf.intersection children).region p := by
  have bottom : (-Scalar.infinity : EReal) = ⊥ := EReal.neg_top
  rw [Sdf.exactDistance_intersection, Sdf.region, Sdf.regions_eq]
  refine ⟨real_children each (fun x y => ⟨max x y, ?_⟩) Scalar.Regular.neg_infinity_max nonempty,
    ?_, ?_⟩
  · rw [Extended.max_eq, Extended.coe_max]
  · rw [foldl_max_neg_iff, bottom, and_iff_right EReal.bot_lt_zero]
    simp only [Region.intersection, List.forall_mem_map]
    exact forall₂_congr fun child member => (each child member).inside
  · rw [foldl_max_pos_iff, bottom, or_iff_right not_lt_bot]
    simp only [Region.intersection, List.mem_map, exists_exists_and_eq_and]
    exact exists_congr fun child => and_congr_right fun member => (each child member).outside

end

theorem Agrees.subtraction {base cut : EReal} {solid hole : Region} {p : Vec3 ℝ}
    (first : Agrees base solid p) (second : Agrees cut hole p) :
    Agrees (Scalar.max base (-cut)) (.subtraction solid hole) p := by
  obtain ⟨x, rfl⟩ := first.real
  obtain ⟨y, rfl⟩ := second.real
  rw [Extended.max_eq]
  refine ⟨⟨max x (-y), ?_⟩, ?_, ?_⟩
  · rw [← EReal.coe_neg, Extended.coe_max]
  · rw [max_lt_iff, EReal.neg_lt_zero, first.inside, second.outside]
    rfl
  · rw [lt_max_iff, EReal.neg_pos, first.outside, second.inside]
    rfl

theorem Agrees.tree {tree : Sdf ℝ}
    (nodes : ∀ node ∈ tree.subtrees, node.extended.NodeSound ∧ node.isSmoothUnion = false) :
    ∀ p, Agrees (tree.exactDistance p) tree.region p := by
  refine Sdf.induction_on_nodes
    (motive := fun tree => ∀ p, Agrees (tree.exactDistance p) tree.region p)
    (fun tree here each p => ?_) nodes
  obtain ⟨sound, sharp⟩ := here
  cases tree with
  | primitive kind position d =>
      rw [Sdf.exactDistance_primitive]
      exact .preimage (Primitive.agrees sound (p.minus position))
  | union children =>
      exact .union (fun child member => each child member p) fun none => sound (none ▸ rfl)
  | smoothUnion k children => cases sharp
  | intersection children =>
      exact .intersection (fun child member => each child member p) fun none => sound (none ▸ rfl)
  | subtraction base cut =>
      rw [Sdf.exactDistance_subtraction]
      exact .subtraction (each base (by simp [Sdf.children]) p)
        (each cut (by simp [Sdf.children]) p)
  | translate offset child =>
      rw [Sdf.exactDistance_translate]
      exact .preimage (each child List.mem_cons_self (p.minus offset))
  | rotate angles child =>
      rw [Sdf.exactDistance_rotate]
      exact .preimage (each child List.mem_cons_self (p.turnBack angles))
  | repeated period child =>
      obtain ⟨x, y, z⟩ := sound
      rw [Sdf.exactDistance_repeated p child (Sdf.coe_positive x) (Sdf.coe_positive y)
        (Sdf.coe_positive z)]
      exact .preimage (each child List.mem_cons_self (p.folded period))

/-- The distance of a valid tree without smooth unions is negative strictly inside of it, and
positive strictly outside. -/
theorem sign_of_distance_is_membership {tree : Sdf ℝ} (valid : tree.extended.IsValid)
    (sharp : tree.usesSmoothUnion = false) (p : Vec3 ℝ) :
    ∃ distance : ℝ, tree.exactDistance p = distance ∧
      (distance < 0 ↔ tree.region.Inside p) ∧ (0 < distance ↔ tree.region.Outside p) := by
  have nodes : ∀ node ∈ tree.subtrees, node.extended.NodeSound ∧ node.isSmoothUnion = false :=
    fun node inside => ⟨Sdf.nodeSound_of_isValid valid node inside, by
      simpa using List.any_eq_false.mp sharp node inside⟩
  obtain ⟨⟨distance, same⟩, inside, outside⟩ := Agrees.tree nodes p
  rw [same] at inside outside
  exact ⟨distance, same, EReal.coe_neg'.symm.trans inside, EReal.coe_pos.symm.trans outside⟩

noncomputable def drilledCube : Sdf ℝ :=
  .subtraction
    (.union [.primitive .box (Vec3.splat 0) (Vec3.splat 2.0),
      .translate ⟨5.0, 0, 0⟩ (.primitive .sphere (Vec3.splat 0) (Vec3.splat 1))])
    (.primitive .cylinder (Vec3.splat 0) ⟨1, 3.0, 0⟩)

theorem drilledCube_valid : drilledCube.extended.IsValid := by
  have one : Scalar.isPositive (1 : EReal) = true := Sdf.isPositive_coe one_pos
  have two := Sdf.isPositive_coe (show (0 : ℝ) < 2.0 by norm_num)
  have three := Sdf.isPositive_coe (show (0 : ℝ) < 3.0 by norm_num)
  simp only [Sdf.IsValid, Sdf.error?, drilledCube, Sdf.extended, Sdf.map, Sdf.mapAll, Sdf.depth,
    Sdf.depthOfAll, Sdf.maxDepth, Sdf.subtrees, Sdf.subtreesOfAll, Vec3.map, Vec3.splat]
  simp [Sdf.nodeError?, Vec3.toList, Primitive.arity, one, two, three]

theorem drilledCube_membership :
    drilledCube.extended.IsValid ∧ drilledCube.usesSmoothUnion = false ∧
      (∃ distance : ℝ, drilledCube.exactDistance ⟨3 / 2, 0, 0⟩ = distance ∧ distance < 0) ∧
      ∃ distance : ℝ, drilledCube.exactDistance (Vec3.splat 0) = distance ∧ 0 < distance := by
  have sharp : drilledCube.usesSmoothUnion = false := by rfl
  obtain ⟨wall, wall_eq, inside, -⟩ :=
    sign_of_distance_is_membership drilledCube_valid sharp ⟨3 / 2, 0, 0⟩
  obtain ⟨hole, hole_eq, -, outside⟩ :=
    sign_of_distance_is_membership drilledCube_valid sharp (Vec3.splat 0)
  refine ⟨drilledCube_valid, sharp, ⟨wall, wall_eq, inside.mpr ⟨?_, ?_⟩⟩,
    hole, hole_eq, outside.mpr (.inr ?_)⟩
  · refine ⟨_, List.mem_cons_self, ?_⟩
    norm_num [Sdf.region, Region.preimage, Primitive.region, Vec3.minus, Vec3.zipWith, Vec3.splat,
      abs_lt]
  · refine .inl (Real.lt_sqrt_of_sq_lt ?_)
    norm_num [Vec3.minus, Vec3.zipWith, Vec3.splat]
  · norm_num [Sdf.region, Region.preimage, Primitive.region, Vec3.minus, Vec3.zipWith, Vec3.splat,
      planar]

end RayScene
