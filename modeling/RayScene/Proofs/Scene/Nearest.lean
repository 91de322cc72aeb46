import RayScene.Proofs.Number.Order
import RayScene.Scene.Basic

namespace RayScene

variable (p : Vec3 Single)

def closerOf (best next : SceneObject Single) : SceneObject Single :=
  if next.shape.distance p < best.shape.distance p then next else best

structure Closest (candidates : List (SceneObject Single)) (o : SceneObject Single) : Prop where
  mem : o ∈ candidates
  least : ∀ other ∈ candidates, o.shape.distance p ≤ other.shape.distance p

structure FirstClosest (candidates : List (SceneObject Single)) (o : SceneObject Single) : Prop
    extends Closest p candidates o where
  first : ∀ other ∈ candidates, other.id < o.id → o.shape.distance p < other.shape.distance p

/-- All distances are numbers. -/
def Numeric (objects : List (SceneObject Single)) : Prop :=
  ∀ o ∈ objects, (o.shape.distance p).isNaN = false

variable {p}

theorem Closest.singleton {o : SceneObject Single} (numbers : Numeric p [o]) :
    Closest p [o] o where
  mem := List.mem_singleton_self o
  least other member := by
    have number := numbers o (List.mem_singleton_self o)
    rw [List.mem_singleton.mp member]
    exact (Single.le_iff_rank number number).mpr le_rfl

section Step

variable {seen : List (SceneObject Single)} {best next : SceneObject Single}
  (numbers : Numeric p (seen ++ [next]))

include numbers

theorem Closest.beaten (closest : Closest p seen best)
    (closer : next.shape.distance p < best.shape.distance p) {o : SceneObject Single}
    (member : o ∈ seen) : next.shape.distance p < o.shape.distance p := by
  have numberNext := numbers next (List.mem_append_right seen (List.mem_singleton_self next))
  have numberBest := numbers best (List.mem_append_left [next] closest.mem)
  have number := numbers o (List.mem_append_left [next] member)
  have below := (Single.lt_iff_rank numberNext numberBest).mp closer
  have least := (Single.le_iff_rank numberBest number).mp (closest.least o member)
  exact (Single.lt_iff_rank numberNext number).mpr (lt_of_lt_of_le below least)

theorem Closest.step (closest : Closest p seen best) :
    Closest p (seen ++ [next]) (closerOf p best next) := by
  have numberNext := numbers next (List.mem_append_right seen (List.mem_singleton_self next))
  have numberBest := numbers best (List.mem_append_left [next] closest.mem)
  unfold closerOf
  split
  next closer =>
    refine ⟨List.mem_append_right seen (List.mem_singleton_self next), ?_⟩
    intro other member
    rcases List.mem_append.mp member with before | last
    · have number := numbers other member
      have below := (Single.lt_iff_rank numberNext number).mp (closest.beaten numbers closer before)
      exact (Single.le_iff_rank numberNext number).mpr below.le
    · rw [List.mem_singleton.mp last]
      exact (Single.le_iff_rank numberNext numberNext).mpr le_rfl
  next farther =>
    refine ⟨List.mem_append_left [next] closest.mem, ?_⟩
    intro other member
    rcases List.mem_append.mp member with before | last
    · exact closest.least other before
    · rw [List.mem_singleton.mp last]
      have least := not_lt.mp (mt (Single.lt_iff_rank numberNext numberBest).mpr farther)
      exact (Single.le_iff_rank numberBest numberNext).mpr least

theorem FirstClosest.step (closest : FirstClosest p seen best)
    (later : ∀ o ∈ seen, o.id < next.id) :
    FirstClosest p (seen ++ [next]) (closerOf p best next) := by
  refine ⟨closest.toClosest.step numbers, ?_⟩
  intro other member ahead
  unfold closerOf at ahead ⊢
  split at ahead
  next closer =>
    rw [if_pos closer]
    rcases List.mem_append.mp member with before | last
    · exact closest.toClosest.beaten numbers closer before
    · rw [List.mem_singleton.mp last] at ahead
      exact absurd ahead (UInt32.lt_irrefl next.id)
  next farther =>
    rw [if_neg farther]
    rcases List.mem_append.mp member with before | last
    · exact closest.first other before ahead
    · rw [List.mem_singleton.mp last] at ahead
      exact absurd (UInt32.lt_trans ahead (later best closest.mem)) (UInt32.lt_irrefl next.id)

end Step

theorem Numeric.before {first second : List (SceneObject Single)}
    (numbers : Numeric p (first ++ second)) : Numeric p first :=
  fun o member => numbers o (List.mem_append_left second member)

theorem Closest.foldl {seen rest : List (SceneObject Single)} {best : SceneObject Single}
    (closest : Closest p seen best) (numbers : Numeric p (seen ++ rest)) :
    Closest p (seen ++ rest) (rest.foldl (closerOf p) best) := by
  induction rest generalizing seen best with
  | nil =>
      rw [List.append_nil]
      exact closest
  | cons next rest ih =>
      rw [List.append_cons] at numbers ⊢
      exact ih (closest.step numbers.before) numbers

theorem FirstClosest.foldl {seen rest : List (SceneObject Single)} {best : SceneObject Single}
    (closest : FirstClosest p seen best) (numbers : Numeric p (seen ++ rest))
    (sorted : (seen ++ rest).Pairwise (·.id < ·.id)) :
    FirstClosest p (seen ++ rest) (rest.foldl (closerOf p) best) := by
  induction rest generalizing seen best with
  | nil =>
      rw [List.append_nil]
      exact closest
  | cons next rest ih =>
      rw [List.append_cons] at numbers sorted ⊢
      have ordered := (List.pairwise_append.mp sorted).1
      have later : ∀ o ∈ seen, o.id < next.id := fun o member =>
        (List.pairwise_append.mp ordered).2.2 o member next (List.mem_singleton_self next)
      exact ih (closest.step numbers.before later) numbers sorted

theorem closest_foldl {o : SceneObject Single} {rest : List (SceneObject Single)}
    (numbers : Numeric p (o :: rest)) :
    Closest p (o :: rest) (rest.foldl (closerOf p) o) := by
  have numeric : Numeric p ([o] ++ rest) := numbers
  exact (Closest.singleton numeric.before).foldl numeric

theorem firstClosest_foldl {o : SceneObject Single} {rest : List (SceneObject Single)}
    (numbers : Numeric p (o :: rest)) (sorted : (o :: rest).Pairwise (·.id < ·.id)) :
    FirstClosest p (o :: rest) (rest.foldl (closerOf p) o) := by
  have numeric : Numeric p ([o] ++ rest) := numbers
  have start : FirstClosest p [o] o := by
    refine ⟨Closest.singleton numeric.before, ?_⟩
    intro other member ahead
    rw [List.mem_singleton.mp member] at ahead
    exact absurd ahead (UInt32.lt_irrefl o.id)
  exact start.foldl numeric sorted

/-- The lesser of two numbers; the first one if neither is less. -/
theorem min_number {a : Single} (b : Single) (number : a.isNaN = false) :
    Scalar.min a b = if b < a then b else a := by
  have self : (a == a) = true := (Single.beq_iff_rank number number).mpr rfl
  rw [Scalar.min, self, if_pos rfl]

/-- The distance of a scene is that of the object found by going through its list. -/
theorem distance_eq_foldl {o : SceneObject Single} {rest : List (SceneObject Single)}
    (numbers : Numeric p (o :: rest)) :
    (Scene.ofObjects (o :: rest)).distance p =
      (rest.foldl (closerOf p) o).shape.distance p := by
  show (rest.map (·.shape.distance p)).foldl Scalar.min (o.shape.distance p) = _
  induction rest generalizing o with
  | nil => rfl
  | cons next rest ih =>
      have first := numbers o List.mem_cons_self
      have kept : Scalar.min (o.shape.distance p) (next.shape.distance p) =
          (closerOf p o next).shape.distance p := by
        rw [min_number _ first, closerOf]
        split <;> rfl
      have later : Numeric p (closerOf p o next :: rest) := by
        intro other member
        rcases List.mem_cons.mp member with rfl | member
        · unfold closerOf
          split
          · exact numbers next (List.mem_cons_of_mem o List.mem_cons_self)
          · exact first
        · exact numbers other (List.mem_cons_of_mem o (List.mem_cons_of_mem next member))
      rw [List.map_cons, List.foldl_cons, kept, ih later, List.foldl_cons]

theorem Closest.beq {candidates : List (SceneObject Single)} {a b : SceneObject Single}
    (first : Closest p candidates a) (second : Closest p candidates b)
    (numbers : Numeric p candidates) : (a.shape.distance p == b.shape.distance p) = true := by
  have numberA := numbers a first.mem
  have numberB := numbers b second.mem
  have below := (Single.le_iff_rank numberA numberB).mp (first.least b second.mem)
  have above := (Single.le_iff_rank numberB numberA).mp (second.least a first.mem)
  exact (Single.beq_iff_rank numberA numberB).mpr (le_antisymm below above)

theorem Closest.perm {first second : List (SceneObject Single)} {o : SceneObject Single}
    (closest : Closest p first o) (perm : first.Perm second) : Closest p second o where
  mem := perm.mem_iff.mp closest.mem
  least other member := closest.least other (perm.mem_iff.mpr member)

/-- Going through the objects of a scene in another order finds the same distance. -/
theorem beq_distance {objects rest : List (SceneObject Single)} {o : SceneObject Single}
    (numbers : Numeric p objects) (perm : (o :: rest).Perm objects) :
    ((rest.foldl (closerOf p) o).shape.distance p == (Scene.ofObjects objects).distance p) =
      true := by
  have reordered : Numeric p (o :: rest) := fun other member =>
    numbers other (perm.mem_iff.mp member)
  have closest := (closest_foldl reordered).perm perm
  cases objects with
  | nil => exact absurd perm.length_eq (Nat.succ_ne_zero _)
  | cons first others =>
      rw [distance_eq_foldl numbers]
      exact closest.beq (closest_foldl numbers) numbers

end RayScene
