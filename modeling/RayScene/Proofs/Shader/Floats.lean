import RayScene.Proofs.Color.RoundTrip
import RayScene.Proofs.Number.Finite
import RayScene.Proofs.Shader.Closure

namespace RayScene

namespace Wgsl

variable {S : Type}

mutual

def Expr.floats : Expr S → List S
  | .float value => [value]
  | .whole _ | .unsigned _ | .signed _ | .bool _ | .var _ => []
  | .member base _ => base.floats
  | .index base position => base.floats ++ position.floats
  | .neg operand => operand.floats
  | .binary _ left right => left.floats ++ right.floats
  | .paren inner => inner.floats
  | .call _ arguments | .tallCall _ arguments => floatsOfAll arguments

def floatsOfAll : List (Expr S) → List S
  | [] => []
  | e :: es => e.floats ++ floatsOfAll es

end

mutual

def Stmt.floats : Stmt S → List S
  | .bind _ value | .declare _ value | .ret value => value.floats
  | .declareEmpty .. | .stop | .leave => []
  | .assign target _ value => target.floats ++ value.floats
  | .effect call => call.floats
  | .branch condition yes no => condition.floats ++ blockFloats yes ++ blockFloats no
  | .count _ bound body => bound.floats ++ blockFloats body
  | .switch value cases => value.floats ++ caseFloats cases

def blockFloats : List (Stmt S) → List S
  | [] => []
  | s :: rest => s.floats ++ blockFloats rest

def caseFloats : List (Nat × List (Stmt S)) → List S
  | [] => []
  | (_, body) :: rest => blockFloats body ++ caseFloats rest

end

def Item.floats : Item S → List S
  | constant _ _ value => value.floats
  | function definition => blockFloats definition.body
  | comment _ | struct .. | global .. => []

def Module.floats (m : Module S) : List S := m.items.flatMap Item.floats

@[simp] theorem floatsOfAll_eq (es : List (Expr S)) : floatsOfAll es = es.flatMap Expr.floats := by
  induction es with
  | nil => simp [floatsOfAll]
  | cons e es ih => simp [floatsOfAll, ih]

@[simp] theorem blockFloats_eq (body : List (Stmt S)) :
    blockFloats body = body.flatMap Stmt.floats := by
  induction body with
  | nil => simp [blockFloats]
  | cons s body ih => simp [blockFloats, ih]

@[simp] theorem caseFloats_eq (cases : List (Nat × List (Stmt S))) :
    caseFloats cases = cases.flatMap fun case => case.2.flatMap Stmt.floats := by
  induction cases with
  | nil => simp [caseFloats]
  | cons case cases ih =>
      obtain ⟨label, body⟩ := case
      simp [caseFloats, ih]

@[simp] theorem Expr.floats_vec3 (v : Vec3 S) : (Expr.vec3 v).floats = v.toList := by
  simp [Expr.vec3, Expr.floats, Vec3.toList]

end Wgsl

namespace Shader

open Wgsl

variable {S : Type}

def nodeNumbers [Scalar S] : Sdf S → List S
  | .primitive _ position dimensions =>
    (if position.isZero then [] else position.toList) ++ dimensions.toList
  | .smoothUnion k children => if Scalar.zero < k ∧ 2 ≤ children.length then [k] else []
  | .translate offset _ => offset.toList
  | .rotate angles _ => angles.toList
  | .repeated period _ => period.toList
  | .union _ | .intersection _ | .subtraction .. => []

namespace FieldChain

def floats (chain : FieldChain S) : List S := chain.links.flatMap fun link => link.2.floats

theorem floats_single (letter : Char) (value : Expr S) (count : Nat) :
    (single letter value count).floats = value.floats := by
  simp [floats, single]

theorem floats_andThen (chain : FieldChain S) (next : String → Nat → FieldChain S) :
    (chain.andThen next).floats = chain.floats ++ (next chain.result chain.count).floats := by
  simp [floats, andThen]

theorem floats_call (function : String) (arguments : List (Expr S)) :
    (call function arguments).floats = arguments.flatMap Expr.floats := by
  simp [call, Expr.floats]

theorem floats_moved (point : String) (v : Vec3 S) :
    (.var point - .vec3 v : Expr S).floats = v.toList := by
  show (Expr.var point).floats ++ (Expr.vec3 v).floats = v.toList
  simp [Expr.floats]

variable [Scalar S]

theorem floats_primitiveCall (kind : Primitive) (position dimensions : Vec3 S) (point : String) :
    (primitiveCall kind position dimensions point).floats =
      nodeNumbers (.primitive kind position dimensions) := by
  by_cases zero : position.isZero = true
  · simp [primitiveCall, nodeNumbers, floats_call, zero, Expr.floats]
  · simp [primitiveCall, nodeNumbers, floats_call, zero, floats_moved]

mutual

theorem mem_floats_ofTree (x : S) (tree : Sdf S) (point : String) (count : Nat) :
    x ∈ (ofTree tree point count).floats ↔ ∃ node ∈ tree.subtrees, x ∈ nodeNumbers node := by
  match tree with
  | .primitive kind position dimensions =>
      simp [ofTree, floats_single, floats_primitiveCall, Sdf.subtrees]
  | .union children =>
      have joins : ∀ a b, (lesser a b : Expr S).floats = [] := by
        simp [lesser, floats_call, Expr.floats]
      have below := mem_floats_ofTrees x joins children none point count
      simpa [ofTree, Sdf.subtrees, nodeNumbers] using below
  | .intersection children =>
      have joins : ∀ a b, (greater a b : Expr S).floats = [] := by
        simp [greater, floats_call, Expr.floats]
      have below := mem_floats_ofTrees x joins children none point count
      simpa [ofTree, Sdf.subtrees, nodeNumbers] using below
  | .smoothUnion k children =>
      by_cases positive : Scalar.zero < k
      · have joins : ∀ a b, (blended k a b : Expr S).floats = [k] := by
          simp [blended, floats_call, Expr.floats]
        have below := mem_floats_ofTrees x joins children none point count
        -- A blend stands between two children, so a single child leaves no trace of the range.
        have own : x ∈ nodeNumbers (.smoothUnion k children) ↔ x ∈ [k] ∧ 2 ≤ children.length := by
          by_cases several : 2 ≤ children.length <;> simp [nodeNumbers, positive, several]
        simp only [ofTree, positive, if_true, below, Sdf.subtrees, List.exists_mem_cons_iff, own]
        exact or_comm
      · have joins : ∀ a b, (lesser a b : Expr S).floats = [] := by
          simp [lesser, floats_call, Expr.floats]
        have below := mem_floats_ofTrees x joins children none point count
        simpa [ofTree, Sdf.subtrees, nodeNumbers, positive] using below
  | .subtraction base cut =>
      have joins : ∀ a b, (carved a b : Expr S).floats = [] := by
        simp [carved, floats_call, Expr.floats]
      have kept := mem_floats_ofTree x base point count
      have cutting := mem_floats_ofTree x cut point
      have own : nodeNumbers (.subtraction base cut) = [] := rfl
      simp [ofTree, floats_andThen, floats_single, kept, cutting, joins, own, Sdf.subtrees,
        or_and_right, exists_or]
  | .translate offset child =>
      have below := mem_floats_ofTree x child
      have own : nodeNumbers (.translate offset child) = offset.toList := rfl
      simp [ofTree, floats_andThen, floats_single, floats_moved, below, Sdf.subtrees, own]
  | .rotate angles child =>
      have below := mem_floats_ofTree x child
      have own : nodeNumbers (.rotate angles child) = angles.toList := rfl
      simp [ofTree, floats_andThen, floats_single, floats_call, Expr.floats, below, Sdf.subtrees,
        own]
  | .repeated period child =>
      have below := mem_floats_ofTree x child
      have own : nodeNumbers (.repeated period child) = period.toList := rfl
      simp [ofTree, floats_andThen, floats_single, floats_call, Expr.floats, below, Sdf.subtrees,
        own]

theorem mem_floats_ofTrees (x : S) {joint : Joint S} {joined : List S}
    (joins : ∀ a b, (joint a b).floats = joined) (children : List (Sdf S)) (sum : Option String)
    (point : String) (count : Nat) :
    x ∈ (ofTrees joint sum children point count).floats ↔
      (∃ node ∈ Sdf.subtreesOfAll children, x ∈ nodeNumbers node) ∨
        x ∈ joined ∧ 2 ≤ children.length + sum.toList.length := by
  match sum, children with
  | none, [] => simp [ofTrees, floats_single, Expr.floats, Sdf.subtreesOfAll]
  | some sum, [] => simp [ofTrees, floats, Sdf.subtreesOfAll]
  | none, child :: children =>
      have first := mem_floats_ofTree x child point count
      have rest := mem_floats_ofTrees x joins children
      simp [ofTrees, floats_andThen, first, rest, Sdf.subtreesOfAll, or_and_right, exists_or,
        or_assoc]
  | some sum, child :: children =>
      have first := mem_floats_ofTree x child point count
      have rest := mem_floats_ofTrees x joins children
      by_cases merged : x ∈ joined <;>
        simp [ofTrees, floats_andThen, floats_single, joins, first, rest, Sdf.subtreesOfAll, merged,
          or_and_right, exists_or]

end

theorem mem_floats_function (x : S) (id : UInt32) (tree : Sdf S) :
    x ∈ blockFloats (function id tree).body ↔ ∃ node ∈ tree.subtrees, x ∈ nodeNumbers node := by
  rw [← mem_floats_ofTree x tree startPoint 0]
  simp [function, Function.plain, floats, Stmt.floats, Expr.floats, List.flatMap_map]

end FieldChain

def colorNumbers : SurfaceColor Single → List Single
  | .literal rgb => rgb.toList
  | .expression _ root => root.numbers

mutual

theorem floats_ofColor : ∀ e : Color.Expr Single, (ofColor e).floats = e.numbers
  | .number _ | .input _ => rfl
  | .negate operand => floats_ofColor operand
  | .binary op left right => by
      have first := floats_ofColor left
      have second := floats_ofColor right
      simp [ofColor, Expr.floats, Color.Expr.numbers, first, second]
  | .call _ arguments => by
      have inner := floats_ofColors arguments
      simpa [ofColor, Expr.floats, Color.Expr.numbers] using inner
  | .swizzle base _ => floats_ofColor base

theorem floats_ofColors : ∀ es : List (Color.Expr Single),
    (ofColor.ofColors es).flatMap Expr.floats = Color.numbersOfAll es
  | [] => rfl
  | e :: es => by
      have first := floats_ofColor e
      have rest := floats_ofColors es
      simp [ofColor.ofColors, Color.numbersOfAll, first, rest]

end

theorem floats_albedo (id : UInt32) (color : SurfaceColor Single) :
    blockFloats (albedo id color).body = colorNumbers color := by
  cases color with
  | literal rgb => simp [albedo, Function.plain, Stmt.floats, colorNumbers]
  | expression source root =>
      simp [albedo, Function.plain, Stmt.floats, Expr.floats, colorNumbers, floats_ofColor]

theorem floats_tryHit (sphere : UInt32 × Vec3 Single × Single) :
    (tryHit sphere).flatMap Stmt.floats =
      sphere.2.1.toList ++ [sphere.2.2, 0.0] ++ sphere.2.1.toList ++ [sphere.2.2] := rfl

def partNumbers (part : ObjectPart Single) : List Single :=
  (part.analytic.elim [] fun sphere => sphere.1.toList ++ [sphere.2]) ++
    (part.field.elim [] fun tree => tree.subtrees.flatMap nodeNumbers) ++
    part.shading.elim [] fun shading => colorNumbers shading.2

theorem routine_floats_finite (routine : Routine) :
    ∀ item ∈ (routine.items : List (Item Single)), ∀ x ∈ item.floats,
      Scalar.isFinite x = true := by
  have each : ∀ routine ∈ Routine.all, ∀ item ∈ (routine.items : List (Item Single)),
      ∀ x ∈ item.floats, Scalar.isFinite x = true := by
    decide
  exact each routine routine.mem_all

theorem entryPoint_floats_finite (entry : EntryPoint) :
    ∀ x ∈ blockFloats (entry.function : Function Single).body, Scalar.isFinite x = true := by
  cases entry <;> decide

theorem constant_floats_finite (options : Options Single) :
    ∀ constant ∈ constants options, ∀ x ∈ (constant.2.item constant.1).floats,
      Scalar.isFinite x = true := by
  have floats : (constants options).flatMap (fun constant => (constant.2.item constant.1).floats) =
      [hitEpsilon, hitEpsilon * 4.0, Distance.far, 0.3, 0.02, 1.5] := rfl
  have each : ∀ x ∈ ([hitEpsilon, hitEpsilon * 4.0, Distance.far, 0.3, 0.02, 1.5] : List Single),
      Scalar.isFinite x = true := by
    decide
  intro constant member x own
  exact each x (floats ▸ List.mem_flatMap.mpr ⟨constant, member, own⟩)

theorem sceneSdf_floats (ids : List UInt32) :
    blockFloats (sceneSdf ids : Function Single).body = [] := by
  have closer_floats (id : UInt32) : (closer id : List (Stmt Single)).flatMap Stmt.floats = [] :=
    rfl
  cases ids with
  | nil => rfl
  | cons id ids =>
      rw [sceneSdf_body]
      simp [Stmt.floats, Expr.floats, List.flatMap_assoc, closer_floats]

theorem sceneHit_floats (spheres : List (UInt32 × Vec3 Single × Single)) (marches : Bool) :
    blockFloats (sceneHit spheres marches).body =
      spheres.flatMap fun sphere => (tryHit sphere).flatMap Stmt.floats := by
  rw [sceneHit_body]
  cases marches <;> simp [Stmt.floats, Expr.floats, List.flatMap_assoc]

theorem objectScatter_floats (materials : List (UInt32 × Material)) :
    ∀ x ∈ blockFloats (objectScatter materials : Function Single).body,
      Scalar.isFinite x = true := by
  have zero : (0.0 : Expr Single).floats = [0.0] := rfl
  have finite : Scalar.isFinite (0.0 : Single) = true := by decide
  have scatter_floats (id : UInt32) (material : Material) :
      (scatterCase id material : Nat × List (Stmt Single)).2.flatMap Stmt.floats = [] := rfl
  rw [objectScatter_body]
  simp [Stmt.floats, Expr.floats, zero, finite, List.flatMap_map, scatter_floats]

section

variable {options : Options Single} {objects : List (SceneObject Single)}

/-- A number of an object that counts is written into the shader. -/
theorem mem_floats_of_part {part : ObjectPart Single}
    (member : part ∈ (planOf options objects).objects) {x : Single} (own : x ∈ partNumbers part) :
    x ∈ (planOf options objects).module.floats := by
  have made : part ∈ parts options objects := List.mem_mergeSort.mp member
  have written {f : Function Single} (listed : f ∈ (planOf options objects).objectFunctions)
      (inside : x ∈ blockFloats f.body) : x ∈ (planOf options objects).module.floats :=
    List.mem_flatMap.mpr ⟨.function f, function_item listed, inside⟩
  simp only [partNumbers, List.mem_append] at own
  rcases own with (own | own) | own
  · cases analytic : part.analytic with
    | none => simp [analytic] at own
    | some sphere =>
        have screen := screen_of_analytic made (by simp [analytic])
        have tried : (part.id, sphere) ∈ (planOf options objects).analytic :=
          List.mem_filterMap.mpr ⟨part, member, by simp [analytic]⟩
        refine written (Plan.mem_objectFunctions.mpr (.inr (.inr (.inl ⟨screen, .inl rfl⟩)))) ?_
        rw [sceneHit_floats]
        refine List.mem_flatMap.mpr ⟨_, tried, ?_⟩
        rw [floats_tryHit]
        simp only [analytic, Option.elim_some, List.mem_append, List.mem_singleton] at own
        rcases own with own | own <;> simp [own]
  · cases field : part.field with
    | none => simp [field] at own
    | some tree =>
        have marched := Plan.mem_marched.mpr ⟨part, member, rfl, field⟩
        refine written (Plan.mem_objectFunctions.mpr (.inl ⟨_, marched, rfl⟩))
          ((FieldChain.mem_floats_function x part.id tree).mpr ?_)
        simpa [field] using own
  · cases shading : part.shading with
    | none => simp [shading] at own
    | some shade =>
        have screen := screen_of_shading made shading
        have shaded : (part.id, shade) ∈ (planOf options objects).shadings :=
          List.mem_filterMap.mpr ⟨part, member, by simp [shading]⟩
        refine written (Plan.mem_objectFunctions.mpr
          (.inr (.inr (.inl ⟨screen, .inr (.inl ⟨_, shaded, rfl⟩)⟩)))) ?_
        rw [floats_albedo]
        simpa [shading] using own

/-- A number in a function that was made for the objects is one of them, or finite. -/
theorem objectFunction_floats {f : Function Single}
    (made : f ∈ (planOf options objects).objectFunctions) {x : Single}
    (inside : x ∈ blockFloats f.body) :
    Scalar.isFinite x = true ∨ ∃ part ∈ (planOf options objects).objects, x ∈ partNumbers part := by
  rcases Plan.mem_objectFunctions.mp made with ⟨⟨id, tree⟩, marched, rfl⟩ | ⟨-, rfl⟩ |
    ⟨-, rfl | ⟨⟨id, material, color⟩, shaded, rfl⟩ | rfl⟩ | ⟨-, rfl⟩
  · obtain ⟨part, member, -, field⟩ := Plan.mem_marched.mp marched
    have own := (FieldChain.mem_floats_function x id tree).mp inside
    exact .inr ⟨part, member, by simp [partNumbers, field, own]⟩
  · rw [sceneSdf_floats] at inside
    cases inside
  · rw [sceneHit_floats] at inside
    obtain ⟨sphere, tried, own⟩ := List.mem_flatMap.mp inside
    obtain ⟨part, member, same⟩ := List.mem_filterMap.mp tried
    obtain ⟨analytic, found, rfl⟩ := Option.map_eq_some_iff.mp same
    have finite : Scalar.isFinite (0.0 : Single) = true := by decide
    rw [floats_tryHit] at own
    by_cases zero : x = 0.0
    · exact .inl (zero ▸ finite)
    · refine .inr ⟨part, member, ?_⟩
      simp [zero] at own
      simp [partNumbers, found]
      tauto
  · obtain ⟨part, member, same⟩ := List.mem_filterMap.mp shaded
    obtain ⟨shading, found, rest⟩ := Option.map_eq_some_iff.mp same
    rw [floats_albedo] at inside
    obtain rfl : shading = (material, color) := (Prod.mk.inj rest).2
    exact .inr ⟨part, member, by simp [partNumbers, found, inside]⟩
  · exact .inl (objectScatter_floats _ x inside)
  · have none (marches : Bool) :
        blockFloats (gridDistance marches : Function Single).body = [] := by
      cases marches <;> rfl
    rw [none] at inside
    cases inside

theorem finite_or_part (uniform : options.camera = .uniform) {x : Single}
    (written : x ∈ (planOf options objects).module.floats) :
    Scalar.isFinite x = true ∨ ∃ part ∈ (planOf options objects).objects, x ∈ partNumbers part := by
  obtain ⟨item, member, inside⟩ := List.mem_flatMap.mp written
  rcases Plan.mem_module_items.mp member with rfl | ⟨constant, listed, rfl⟩ | struct |
    ⟨binding, -, rfl⟩ | ⟨-, rfl⟩ | ⟨routine, -, own⟩ | ⟨f, made, rfl⟩ | ⟨entry, -, rfl⟩
  · cases inside
  · exact .inl (constant_floats_finite options constant listed x inside)
  · have none : (structs (planOf options objects).target : List (Item Single)).flatMap
        Item.floats = [] := by
      cases (planOf options objects).target <;> rfl
    have own := List.mem_flatMap.mpr ⟨item, struct, inside⟩
    rw [none] at own
    cases own
  · have none : (binding.item : Item Single).floats = [] := by
      unfold Binding.item
      split <;> rfl
    rw [none] at inside
    cases inside
  · have same : (planOf options objects).camera = .uniform := uniform
    rw [same] at inside
    cases inside
  · exact .inl (routine_floats_finite routine item own x inside)
  · exact objectFunction_floats made inside
  · exact .inl (entryPoint_floats_finite entry x inside)

end

end Shader
end RayScene
