import RayScene.Geometry.Validity

namespace RayScene

variable {S : Type} [Scalar S]

structure Scalar.Positive (x : S) : Prop where
  finite : Scalar.isFinite x = true
  above_zero : Scalar.zero < x

theorem Scalar.isPositive_eq_true_iff (x : S) : Scalar.isPositive x = true ↔ Positive x := by
  rw [Scalar.isPositive, Bool.and_eq_true, decide_eq_true_iff]
  constructor
  · intro ⟨finite, above⟩
    exact ⟨finite, above⟩
  · intro positive
    exact ⟨positive.finite, positive.above_zero⟩

namespace Sdf

open Scalar (Positive isPositive_eq_true_iff)

/-- A node without a fault of its own: operators have operands, and all sizes are positive. -/
def NodeSound : Sdf S → Prop
  | primitive .sphere _ dimensions => Positive dimensions.x
  | primitive .torus _ dimensions | primitive .cylinder _ dimensions =>
    Positive dimensions.x ∧ Positive dimensions.y
  | primitive .box _ dimensions =>
    Positive dimensions.x ∧ Positive dimensions.y ∧ Positive dimensions.z
  | union children | intersection children => children ≠ []
  | smoothUnion k children => children ≠ [] ∧ Positive k
  | repeated period _ => Positive period.x ∧ Positive period.y ∧ Positive period.z
  | subtraction .. | translate .. | rotate .. => True

theorem nodeError?_primitive (kind : Primitive) (position dimensions : Vec3 S) :
    (primitive kind position dimensions).nodeError? = none ↔
      ∀ size ∈ dimensions.toList.take kind.arity, Positive size := by
  simp only [nodeError?, ite_eq_left_iff, reduceCtorEq, imp_false, Classical.not_not,
    List.all_eq_true, isPositive_eq_true_iff]

theorem nodeError?_repeated (period : Vec3 S) (child : Sdf S) :
    (repeated period child).nodeError? = none ↔ ∀ size ∈ period.toList, Positive size := by
  simp only [nodeError?, Option.map_eq_none_iff, List.find?_eq_none, Bool.not_eq_true',
    Bool.not_eq_false, isPositive_eq_true_iff]

theorem nodeError?_eq_none_iff (node : Sdf S) : node.nodeError? = none ↔ node.NodeSound := by
  cases node with
  | primitive kind position dimensions =>
      rw [nodeError?_primitive]
      cases kind <;> simp [Primitive.arity, Vec3.toList, NodeSound]
  | union children => cases children <;> simp [nodeError?, NodeSound]
  | intersection children => cases children <;> simp [nodeError?, NodeSound]
  | smoothUnion k children =>
      cases children with
      | nil => simp [nodeError?, NodeSound]
      | cons child children => simp [nodeError?, NodeSound, isPositive_eq_true_iff]
  | repeated period child =>
      rw [nodeError?_repeated]
      simp [Vec3.toList, NodeSound]
  | subtraction base cut => simp [nodeError?, NodeSound]
  | translate offset child => simp [nodeError?, NodeSound]
  | rotate angles child => simp [nodeError?, NodeSound]

/-- A solid: not too deep, and without a fault at any node. -/
structure Sound (tree : Sdf S) : Prop where
  shallow : tree.depth ≤ maxDepth
  nodes : ∀ node ∈ tree.subtrees, node.NodeSound

theorem isValid_iff_sound (tree : Sdf S) : tree.IsValid ↔ tree.Sound := by
  unfold IsValid error?
  by_cases deep : maxDepth < tree.depth
  · rw [if_pos deep]
    constructor
    · intro none
      cases none
    · intro sound
      exact absurd sound.shallow (Nat.not_le_of_lt deep)
  · rw [if_neg deep, List.findSome?_eq_none_iff]
    constructor
    · intro faultless
      refine ⟨Nat.le_of_not_lt deep, ?_⟩
      intro node inside
      exact (nodeError?_eq_none_iff node).mp (faultless node inside)
    · intro sound node inside
      exact (nodeError?_eq_none_iff node).mpr (sound.nodes node inside)

end Sdf
end RayScene
