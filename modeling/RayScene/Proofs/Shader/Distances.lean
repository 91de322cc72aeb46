import RayScene.Proofs.Geometry.Folding
import RayScene.Proofs.Geometry.Nonexpansive
import RayScene.Proofs.Shader.Search

/-!
What shaders measure. Executed without rounding, the routines for primitives, for blends and for
maps of space compute what the distances of solids are computed with.
-/

namespace RayScene.Wgsl.Unrounded

open Exact Shader

/-- The functions of the language itself, as far as distances are computed from them. -/
noncomputable def mathematics : Calls
  | "length", [.vector xs] => some (.number √(xs.map (· ^ 2)).sum)
  | "abs", [.vector xs] => some (.vector (xs.map fun x => |x|))
  | "floor", [.vector xs] => some (.vector (xs.map fun x => (⌊x⌋ : ℝ)))
  | "radians", [.vector degrees] => some (.vector (degrees.map (· * Extended.oneDegree)))
  | "sin", [.number t] => some (.number t.sin)
  | "cos", [.number t] => some (.number t.cos)
  | "min", [.number x, .number y] => some (.number (min x y))
  | "max", [.number x, .number y] => some (.number (max x y))
  | "max", [.vector xs, .vector ys] =>
    if xs.length = ys.length then some (.vector (xs.zipWith max ys)) else none
  | "clamp", [.number x, .number low, .number high] => some (.number (min (max x low) high))
  | "mix", [.number x, .number y, .number t] => some (.number (x * (1 - t) + y * t))
  | "select", [.vector no, .vector yes, .flags choice] =>
    if no.length = choice.length ∧ yes.length = choice.length then
      some (.vector ((choice.zip (no.zip yes)).map fun (chosen, x, y) => if chosen then y else x))
    else none
  | "vec2f", [.number x] => some (.vector [x, x])
  | "vec2f", [.number x, .number y] => some (.vector [x, y])
  | name, arguments => language name arguments

theorem sum_squares (v : Vec3 ℝ) : √(v.toList.map (· ^ 2)).sum = v.norm := by
  rw [Vec3.norm, Vec3.toList]
  simp [add_assoc]

theorem planar_squares (x y : ℝ) : √([x, y].map (· ^ 2)).sum = planar x y := by
  simp [planar]

section Routines

variable (globals : Globals) (p d : Vec3 ℝ)

theorem sdfSphere_run :
    run? mathematics globals sdfSphere [vectorContent p, vectorContent d] =
      some (.number (Primitive.sphere.exact p d)) := by
  refine run?_of_block rfl (execBlock?_ret ?_)
  show some (Content.number (√(p.toList.map (· ^ 2)).sum - d.x)) = _
  rw [sum_squares]
  rfl

theorem sdfBox_run :
    run? mathematics globals sdfBox [vectorContent p, vectorContent d] =
      some (.number (Primitive.box.exact p d)) := by
  let q : Vec3 ℝ := ⟨|p.x| - d.x, |p.y| - d.y, |p.z| - d.z⟩
  refine run?_of_block rfl ?_
  refine (execBlock?_bind _ (vectorContent q) rfl rfl).trans (execBlock?_ret ?_)
  show some (Content.number (√(Vec3.toList ⟨max q.x (0.0 : Single).value,
    max q.y (0.0 : Single).value, max q.z (0.0 : Single).value⟩ |>.map (· ^ 2)).sum +
      min (max q.x (max q.y q.z)) (0.0 : Single).value)) = _
  rw [sum_squares, Single.literal_zero_value]
  rfl

theorem sdfTorus_run :
    run? mathematics globals sdfTorus [vectorContent p, vectorContent d] =
      some (.number (Primitive.torus.exact p d)) := by
  refine run?_of_block rfl ?_
  refine (execBlock?_bind _
    (.vector [√([p.x, p.z].map (· ^ 2)).sum - d.x, p.y]) rfl rfl).trans (execBlock?_ret ?_)
  show some (Content.number
    (√([√([p.x, p.z].map (· ^ 2)).sum - d.x, p.y].map (· ^ 2)).sum - d.y)) = _
  rw [planar_squares, planar_squares]
  rfl

theorem sdfCylinder_run :
    run? mathematics globals sdfCylinder [vectorContent p, vectorContent d] =
      some (.number (Primitive.cylinder.exact p d)) := by
  let across := planar p.x p.z - d.x
  let along := |p.y| - d.y
  refine run?_of_block rfl ?_
  refine (execBlock?_bind _ (.vector [across, along]) ?_ rfl).trans (execBlock?_ret ?_)
  · show some (Content.vector [|√([p.x, p.z].map (· ^ 2)).sum| - d.x, along]) = _
    rw [planar_squares, abs_of_nonneg (planar_nonneg _ _)]
  show some (Content.number (min (max across along) (0.0 : Single).value +
    √([max across (0.0 : Single).value, max along (0.0 : Single).value].map (· ^ 2)).sum)) = _
  rw [planar_squares, Single.literal_zero_value, add_comm]
  rfl

theorem inverseRotate_run (angles : Vec3 ℝ) :
    run? mathematics globals inverseRotate [vectorContent p, vectorContent angles] =
      some (vectorContent (p.turnBack angles)) := by
  let r : Vec3 ℝ := angles.map fun degrees => -(degrees * Extended.oneDegree)
  refine run?_of_block rfl ?_
  refine (execBlock?_bind _ (vectorContent r) rfl rfl).trans ?_
  refine (execBlock?_bind _ (.number r.z.cos) rfl rfl).trans ?_
  refine (execBlock?_bind _ (.number r.z.sin) rfl rfl).trans ?_
  refine (execBlock?_declare _ (vectorContent (p.turnZ r.z)) rfl rfl).trans ?_
  refine (execBlock?_bind _ (.number r.y.cos) rfl rfl).trans ?_
  refine (execBlock?_bind _ (.number r.y.sin) rfl rfl).trans ?_
  refine (execBlock?_assign _ (vectorContent ((p.turnZ r.z).turnY r.y)) rfl rfl).trans ?_
  refine (execBlock?_bind _ (.number r.x.cos) rfl rfl).trans ?_
  refine (execBlock?_bind _ (.number r.x.sin) rfl rfl).trans ?_
  exact execBlock?_ret rfl

theorem repeatDomain_run (period : Vec3 ℝ) :
    run? mathematics globals repeatDomain [vectorContent p, vectorContent period] =
      some (vectorContent (p.wrapped period)) := by
  -- without a period the quotient means nothing, and is not chosen
  let moved (x c : ℝ) : ℝ := x - c * ⌊x / c + (0.5 : Single).value⌋
  have chosen (x c : ℝ) :
      (if decide ((0.0 : Single).value < c) then moved x c else x) = fold x c := by
    rw [Single.literal_zero_value, fold]
    dsimp only [moved]
    rw [Single.half_value]
    simp only [decide_eq_true_eq]
  refine run?_of_block rfl ?_
  refine (execBlock?_bind _ (vectorContent (Vec3.zipWith moved p period)) rfl rfl).trans
    (execBlock?_ret ?_)
  show some (Content.vector [
    if decide ((0.0 : Single).value < period.x) then moved p.x period.x else p.x,
    if decide ((0.0 : Single).value < period.y) then moved p.y period.y else p.y,
    if decide ((0.0 : Single).value < period.z) then moved p.z period.z else p.z]) = _
  rw [chosen, chosen, chosen]
  rfl

theorem clamp_share (a b k : ℝ) : min (max (0.5 + 0.5 * (b - a) / k) 0) 1 = part a b k := by
  unfold part
  generalize 0.5 + 0.5 * (b - a) / k = share
  show min (max share 0) 1 = if share < 0 then 0 else if 1 < share then 1 else share
  split
  next left => rw [max_eq_right left.le, min_eq_left zero_le_one]
  next inside =>
    rw [max_eq_left (not_lt.mp inside)]
    split
    next right => exact min_eq_right right.le
    next inside => exact min_eq_left (not_lt.mp inside)

theorem smoothUnion_run (a b k : ℝ) :
    run? mathematics globals smoothUnion [.number a, .number b, .number k] =
      some (.number (mixture a b k (part a b k))) := by
  refine run?_of_block rfl ?_
  refine (execBlock?_bind _ (.number (part a b k)) ?_ rfl).trans (execBlock?_ret ?_)
  · show some (Content.number (min (max ((0.5 : Single).value + (0.5 : Single).value * (b - a) / k)
      (0.0 : Single).value) (1.0 : Single).value)) = _
    rw [Single.half_value, Single.literal_zero_value, Single.one_value, clamp_share]
  show some (Content.number (b * (1 - part a b k) + a * part a b k -
    k * part a b k * ((1.0 : Single).value - part a b k))) = _
  rw [Single.one_value, mixture]
  congr 2
  ring

end Routines

theorem primitive_run (globals : Globals) (kind : Primitive) (p d : Vec3 ℝ) :
    (Routine.primitive kind).functions.map
        (run? mathematics globals · [vectorContent p, vectorContent d]) =
      [some (.number (kind.exact p d))] := by
  cases kind with
  | sphere => exact congrArg ([·]) (sdfSphere_run globals p d)
  | box => exact congrArg ([·]) (sdfBox_run globals p d)
  | torus => exact congrArg ([·]) (sdfTorus_run globals p d)
  | cylinder => exact congrArg ([·]) (sdfCylinder_run globals p d)

/-- The routines of a shader and the distances of solids agree: the primitives, the maps of space
for all angles and periods, and blends over a range. -/
theorem routines_compute_distances (globals : Globals) (p q : Vec3 ℝ) :
    (∀ kind : Primitive, ∃ d : ℝ, kind.distance p.extended q.extended = d ∧
      (Routine.primitive kind).functions.map
        (run? mathematics globals · [vectorContent p, vectorContent q]) = [some (.number d)]) ∧
    (∃ r : Vec3 ℝ, Distance.inverseRotate p.extended q.extended = r.extended ∧
      Routine.inverseRotate.functions.map
        (run? mathematics globals · [vectorContent p, vectorContent q]) =
          [some (vectorContent r)]) ∧
    (∃ r : Vec3 ℝ, Distance.repeatDomain p.extended q.extended = r.extended ∧
      Routine.repeatDomain.functions.map
        (run? mathematics globals · [vectorContent p, vectorContent q]) =
          [some (vectorContent r)]) ∧
    ∀ a b k : ℝ, 0 < k → ∃ d : ℝ, Distance.smoothUnion (a : EReal) b k = d ∧
      Routine.smoothUnion.functions.map
        (run? mathematics globals · [.number a, .number b, .number k]) = [some (.number d)] := by
  refine ⟨fun kind => ⟨_, kind.distance_extended p q, primitive_run globals kind p q⟩, ?_, ?_, ?_⟩
  · exact ⟨_, p.turnBack_extended q, congrArg ([·]) (inverseRotate_run globals p q)⟩
  · exact ⟨_, p.wrapped_extended q, congrArg ([·]) (repeatDomain_run globals p q)⟩
  · intro a b k positive
    exact ⟨_, smoothUnion_coe a b positive, congrArg ([·]) (smoothUnion_run globals a b k)⟩

/-- Two surfaces that meet are blended to a quarter of the range below them. -/
theorem smoothUnion_of_touching :
    (0 : ℝ) < 1 ∧ Distance.smoothUnion ((0 : ℝ) : EReal) (0 : ℝ) (1 : ℝ) = ((-0.25 : ℝ) : EReal) ∧
      Routine.smoothUnion.functions.map
        (run? mathematics (fun _ => none) · [.number 0, .number 0, .number 1]) =
          [some (.number (-0.25))] := by
  obtain ⟨-, -, -, blends⟩ := routines_compute_distances (fun _ => none) ⟨0, 0, 0⟩ ⟨0, 0, 0⟩
  obtain ⟨d, measured, computed⟩ := blends 0 0 1 one_pos
  have half : d = -0.25 := by
    have same := EReal.coe_injective (measured.symm.trans (smoothUnion_coe 0 0 one_pos))
    rw [same, ← clamp_share, mixture]
    norm_num
  exact ⟨one_pos, half ▸ measured, half ▸ computed⟩

end RayScene.Wgsl.Unrounded
