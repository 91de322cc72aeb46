import RayScene.Proofs.Geometry.Nonexpansive

/-!
Unions and the primitives that they join. A union is as far away as the nearest of its primitives. A
smooth union is nearer than that, for every child but the first by at most a quarter of its width.
-/

namespace RayScene

namespace Sdf

/-- A node that joins its children, sharply or smoothly, or has none. -/
def Joins {S : Type} : Sdf S → Prop
  | primitive .. | union _ | smoothUnion .. => True
  | _ => False

/-- The primitives of a tree. -/
def leaves {S : Type} (tree : Sdf S) : List (Sdf S) := tree.subtrees.filter (·.primitive?.isSome)

noncomputable def swell : Sdf ℝ → ℝ
  | smoothUnion k children => (children.length - 1) * k / 4
  | _ => 0

noncomputable def totalSwell (tree : Sdf ℝ) : ℝ := (tree.subtrees.map swell).sum

theorem leaves_eq {S : Type} {tree : Sdf S} (inner : tree.primitive? = none) :
    tree.leaves = tree.children.flatMap leaves := by
  rw [leaves, subtrees_eq, List.filter_cons_of_neg (by simp [inner]), List.filter_flatMap]
  rfl

theorem totalSwell_eq (tree : Sdf ℝ) :
    tree.totalSwell = tree.swell + (tree.children.map totalSwell).sum := by
  rw [totalSwell, subtrees_eq, List.map_cons, List.sum_cons, List.map_flatMap, List.flatMap_def,
    List.sum_flatten, List.map_map]
  rfl

theorem swell_eq_zero {tree : Sdf ℝ} (sharp : tree.isSmoothUnion = false) : tree.swell = 0 := by
  cases tree <;> first | rfl | cases sharp

theorem totalSwell_eq_zero {tree : Sdf ℝ} (sharp : tree.usesSmoothUnion = false) :
    tree.totalSwell = 0 := by
  have none : ∀ node ∈ tree.subtrees, node.swell = 0 := fun node inside =>
    swell_eq_zero (by simpa using List.any_eq_false.mp sharp node inside)
  rw [totalSwell]
  exact List.sum_eq_zero (by simpa using none)

end Sdf

namespace Exact

variable (a b : ℝ) {k h : ℝ}

theorem mixture_part_le_min (positive : 0 < k) : mixture a b k (part a b k) ≤ min a b := by
  have first := mixture_part_le a b positive zero_le_one le_rfl
  have second := mixture_part_le a b positive le_rfl zero_le_one
  refine le_min (first.trans_eq ?_) (second.trans_eq ?_)
  · rw [mixture]
    ring
  · rw [mixture]
    ring

theorem min_le_mixture (positive : 0 < k) (low : 0 ≤ h) (high : h ≤ 1) :
    min a b - k / 4 ≤ mixture a b k h := by
  have first := mul_le_mul_of_nonneg_left (min_le_left a b) low
  have second := mul_le_mul_of_nonneg_left (min_le_right a b) (sub_nonneg.mpr high)
  have middle : k * (h * (1 - h)) ≤ k * (1 / 4) :=
    mul_le_mul_of_nonneg_left (by nlinarith [sq_nonneg (h - 1 / 2)]) positive.le
  rw [mixture]
  linarith

end Exact

def Lessens (op : EReal → EReal → EReal) (gap : ℝ) : Prop :=
  ∀ x y : ℝ, ∃ z : ℝ, op x y = z ∧ z ≤ min x y ∧ min x y - gap ≤ z

theorem lessens_min : Lessens Scalar.min 0 := fun x y =>
  ⟨min x y, by rw [Extended.min_eq, Extended.coe_min], le_rfl, by rw [sub_zero]⟩

theorem lessens_smoothUnion {k : ℝ} (positive : 0 < k) :
    Lessens (Distance.smoothUnion · · k) (k / 4) := fun x y =>
  ⟨_, Exact.smoothUnion_coe x y positive, Exact.mixture_part_le_min x y positive,
    Exact.min_le_mixture x y positive (Exact.part_mem x y k).1 (Exact.part_mem x y k).2⟩

structure Under (gap : ℝ) (others : List EReal) (d : EReal) : Prop where
  nonneg : 0 ≤ gap
  least : ∃ x y : ℝ, d = x ∧ IsLeast {e | e ∈ others} (y : EReal) ∧ x ≤ y ∧ y - gap ≤ x

namespace Under

variable {gap gap' more : ℝ} {others others' : List EReal} {d d' : EReal}

theorem self (x : ℝ) : Under 0 [x] x :=
  ⟨le_rfl, x, x, rfl, by simp [isLeast_singleton], le_rfl, by rw [sub_zero]⟩

theorem combine {op : EReal → EReal → EReal} (lessens : Lessens op more) (nonneg : 0 ≤ more)
    (first : Under gap others d) (second : Under gap' others' d') :
    Under (gap + (gap' + more)) (others ++ others') (op d d') := by
  obtain ⟨positive, x, y, rfl, least, upper, lower⟩ := first
  obtain ⟨positive', x', y', rfl, least', upper', lower'⟩ := second
  obtain ⟨z, same, below, above⟩ := lessens x x'
  refine ⟨by linarith, z, min y y', same, ?_, below.trans (min_le_min upper upper'), ?_⟩
  · have joined : {e | e ∈ others ++ others'} = {e | e ∈ others} ∪ {e | e ∈ others'} := by
      ext e
      exact List.mem_append
    rw [← Extended.coe_min, joined]
    exact least.union least'
  · rcases min_cases x x' with ⟨lesser, -⟩ | ⟨lesser, -⟩ <;> rw [lesser] at above
    · linarith [min_le_left y y']
    · linarith [min_le_right y y']

theorem foldl {op : EReal → EReal → EReal} (lessens : Lessens op more) (nonneg : 0 ≤ more)
    {children : List (Sdf ℝ)} {p : Vec3 ℝ}
    (each : ∀ child ∈ children,
      Under child.totalSwell (child.leaves.map (·.exactDistance p)) (child.exactDistance p))
    (start : Under gap others d) :
    Under (gap + ((children.map Sdf.totalSwell).sum + children.length * more))
      (others ++ (children.flatMap Sdf.leaves).map (·.exactDistance p))
      ((children.map (·.exactDistance p)).foldl op d) := by
  induction children generalizing gap others d with
  | nil => simpa using start
  | cons child children ih =>
      have next := ih (fun other member => each other (List.mem_cons_of_mem _ member))
        (start.combine lessens nonneg (each child List.mem_cons_self))
      have sum : gap + (((child :: children).map Sdf.totalSwell).sum +
          (child :: children).length * more) = gap + (child.totalSwell + more) +
            ((children.map Sdf.totalSwell).sum + children.length * more) := by
        simp only [List.map_cons, List.sum_cons, List.length_cons]
        push_cast
        ring
      rw [sum, List.flatMap_cons, List.map_append, ← List.append_assoc]
      exact next

/-- A node that folds the distances of its children. -/
theorem node {op : EReal → EReal → EReal} (lessens : Lessens op more) (nonneg : 0 ≤ more)
    {tree first : Sdf ℝ} {rest : List (Sdf ℝ)} {p : Vec3 ℝ} (inner : tree.primitive? = none)
    (children : tree.children = first :: rest) (swell : tree.swell = rest.length * more)
    (folds : tree.exactDistance p =
      (rest.map (·.exactDistance p)).foldl op (first.exactDistance p))
    (each : ∀ child ∈ tree.children,
      Under child.totalSwell (child.leaves.map (·.exactDistance p)) (child.exactDistance p)) :
    Under tree.totalSwell (tree.leaves.map (·.exactDistance p)) (tree.exactDistance p) := by
  rw [children] at each
  have joined := foldl lessens nonneg
    (fun other member => each other (List.mem_cons_of_mem _ member)) (each first List.mem_cons_self)
  have sum : tree.totalSwell =
      first.totalSwell + ((rest.map Sdf.totalSwell).sum + rest.length * more) := by
    rw [Sdf.totalSwell_eq, swell, children, List.map_cons, List.sum_cons]
    ring
  rw [sum, folds, Sdf.leaves_eq inner, children, List.flatMap_cons, List.map_append]
  exact joined

end Under

theorem Under.tree {tree : Sdf ℝ} (p : Vec3 ℝ)
    (nodes : ∀ node ∈ tree.subtrees, node.extended.NodeSound ∧ node.Joins) :
    Under tree.totalSwell (tree.leaves.map (·.exactDistance p)) (tree.exactDistance p) := by
  refine Sdf.induction_on_nodes (motive := fun tree : Sdf ℝ =>
    Under tree.totalSwell (tree.leaves.map (·.exactDistance p)) (tree.exactDistance p))
    (fun tree here each => ?_) nodes
  obtain ⟨sound, joins⟩ := here
  cases tree with
  | primitive kind position d =>
      have alone : (Sdf.primitive kind position d).leaves = [.primitive kind position d] := by rfl
      have none : (Sdf.primitive kind position d).totalSwell = 0 := Sdf.totalSwell_eq_zero rfl
      rw [alone, none, List.map_singleton, Sdf.exactDistance_primitive]
      exact .self _
  | union children =>
      have nonempty : children ≠ [] := fun none => sound (none ▸ rfl)
      obtain ⟨first, rest, rfl⟩ := List.exists_cons_of_ne_nil nonempty
      refine .node lessens_min le_rfl rfl rfl ?_ ?_ each
      · rw [Sdf.swell_eq_zero rfl, mul_zero]
      · rw [Sdf.exactDistance_union, List.map_cons, List.foldl_cons, Scalar.Regular.infinity_min]
  | smoothUnion k children =>
      have nonempty : children ≠ [] := fun none => sound.1 (none ▸ rfl)
      have positive := Sdf.coe_positive sound.2
      obtain ⟨first, rest, rfl⟩ := List.exists_cons_of_ne_nil nonempty
      refine .node (lessens_smoothUnion positive) (by positivity) rfl rfl ?_ ?_ each
      · rw [Sdf.swell, List.length_cons]
        push_cast
        ring
      · exact Sdf.exactDistance_smoothUnion p k (first :: rest)
  | _ => exact joins.elim

/-- The distance of a valid tree of unions is at most that of the nearest of its primitives. It is
less by at most what smooth unions swell, so without them it is the same. -/
theorem distance_is_near_least_leaf {tree : Sdf ℝ} (valid : tree.extended.IsValid)
    (joined : ∀ node ∈ tree.subtrees, node.Joins) (p : Vec3 ℝ) :
    ∃ distance least : ℝ, tree.exactDistance p = distance ∧
      IsLeast {d | ∃ leaf ∈ tree.leaves, leaf.exactDistance p = d} (least : EReal) ∧
      distance ≤ least ∧ least - tree.totalSwell ≤ distance ∧
      (tree.usesSmoothUnion = false → distance = least) := by
  obtain ⟨-, distance, least, same, isLeast, upper, lower⟩ := Under.tree p fun node inside =>
    ⟨Sdf.nodeSound_of_isValid valid node inside, joined node inside⟩
  simp only [List.mem_map] at isLeast
  refine ⟨distance, least, same, isLeast, upper, lower, fun sharp => le_antisymm upper ?_⟩
  rwa [Sdf.totalSwell_eq_zero sharp, sub_zero] at lower

noncomputable def meltedPair : Sdf ℝ :=
  .smoothUnion 1 [.union [.primitive .sphere ⟨1, 0, 0⟩ (Vec3.splat 1)],
    .primitive .sphere ⟨-1, 0, 0⟩ (Vec3.splat 1)]

theorem meltedPair_near_balls :
    meltedPair.extended.IsValid ∧ (∀ node ∈ meltedPair.subtrees, node.Joins) ∧
      ∃ distance : ℝ, meltedPair.exactDistance (Vec3.splat 0) = distance ∧
        distance ≤ 0 ∧ -1 / 4 ≤ distance := by
  have valid : meltedPair.extended.IsValid := by
    have one : Scalar.isPositive (1 : EReal) = true := Sdf.isPositive_coe one_pos
    simp only [Sdf.IsValid, Sdf.error?, meltedPair, Sdf.extended, Sdf.map, Sdf.mapAll, Sdf.depth,
      Sdf.depthOfAll, Sdf.maxDepth, Sdf.subtrees, Sdf.subtreesOfAll, Vec3.map, Vec3.splat]
    simp [Sdf.nodeError?, Vec3.toList, Primitive.arity, one]
  have joined : ∀ node ∈ meltedPair.subtrees, node.Joins := by
    simp [meltedPair, Sdf.subtrees, Sdf.subtreesOfAll, Sdf.Joins]
  obtain ⟨distance, least, same, isLeast, upper, lower, -⟩ :=
    distance_is_near_least_leaf valid joined (Vec3.splat 0)
  have touches (x : ℝ) (unit : x ^ 2 = 1) :
      (Sdf.primitive .sphere ⟨x, 0, 0⟩ (Vec3.splat 1)).exactDistance (Vec3.splat 0) = (0 : ℝ) := by
    rw [Sdf.exactDistance_primitive]
    norm_num [Primitive.exact, Vec3.norm, Vec3.minus, Vec3.zipWith, Vec3.splat, unit]
  obtain ⟨leaf, member, reached⟩ := isLeast.1
  have touched : leaf.exactDistance (Vec3.splat 0) = (0 : ℝ) := by
    simp [meltedPair, Sdf.leaves, Sdf.subtrees, Sdf.subtreesOfAll, Sdf.primitive?] at member
    rcases member with rfl | rfl
    · exact touches 1 (by norm_num)
    · exact touches (-1) (by norm_num)
  obtain rfl : least = 0 := EReal.coe_injective (reached.symm.trans touched)
  have swell : meltedPair.totalSwell = 1 / 4 := by
    norm_num [meltedPair, Sdf.totalSwell, Sdf.subtrees, Sdf.subtreesOfAll, Sdf.swell]
  rw [swell] at lower
  exact ⟨valid, joined, distance, same, upper, by linarith⟩

end RayScene
