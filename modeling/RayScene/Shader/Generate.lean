import RayScene.Shader.CameraBlock
import RayScene.Shader.FieldChain
import RayScene.Shader.Plan
import RayScene.Shader.WgslText

namespace RayScene.Shader

open Wgsl

variable {S : Type}

private def name (text : String) : Expr S := .var text

private def idFloat (id : UInt32) : Expr S := .whole id.toNat

def ConstantValue.item (constant : String) : ConstantValue S → Item S
  | .u32 value => .constant constant .u32 (.unsigned value.toNat)
  | .f32 value => .constant constant .f32 (.float value)

def cameraSlot : CameraBlock.Field → Slot
  | .vector field => slot field .vec4f
  | .scalar field => slot field .f32
  | .padding index => slot s!"_pad{index}" .f32

def cameraStruct : Item S := .struct "Camera" (CameraBlock.fields.map cameraSlot)

def structs : Target → List (Item S)
  | .screen => cameraStruct :: frameStruct :: screenStructs
  | .grid => [exportParamsStruct]

def Binding.item (b : Binding) : Item S :=
  let attributes := [.group bindingGroup, .binding b.index]
  match b.kind with
  | .camera => .global attributes .uniform b.name cameraType
  | .frame => .global attributes .uniform b.name (.struct "Frame")
  | .accumTexture => .global attributes .handle b.name .texture
  | .exportParams => .global attributes .uniform b.name (.struct "ExportParams")
  | .exportValues => .global attributes .storage b.name .floats

def bakedField : CameraBlock.Field × List S → Expr S
  | (.vector _, words) => .call "vec4f" (words.map .float)
  | (_, word :: _) => .float word
  | (_, []) => .call "f32" []

def activeCamera [Scalar S] (source : CameraSource S) : Function S :=
  .plain "active_camera" [] (some cameraType) [.ret (match source with
    | .uniform => name Binding.camera.name
    | .baked camera => .tallCall "Camera" ((CameraBlock.filled camera).map bakedField))]

def sceneSdf (ids : List UInt32) : Function S :=
  let field (id : UInt32) : Expr S := .call (FieldChain.functionName id) [name "p"]
  let first (id : UInt32) : Stmt S := .declare "best" (.call "vec2f" [field id, idFloat id])
  let another (id : UInt32) : List (Stmt S) := [
    .bind s!"d{id}" (field id),
    .branch (.lt (name s!"d{id}") ((name "best").dot "x"))
      [.assign (name "best") .set (.call "vec2f" [name s!"d{id}", idFloat id])] []]
  .plain "scene_sdf" [("p", .vec3f)] (some .vec2f)
    ((ids.head?.map first).toList ++ ids.tail.flatMap another ++ [.ret (name "best")])

def sceneHit [Scalar S] (spheres : List (UInt32 × Vec3 S × S)) (marches : Bool) : Function S :=
  let sphere : UInt32 × Vec3 S × S → List (Stmt S) := fun (id, center, radius) =>
    let t : Expr S := name s!"t{id}"
    let ray := name "r"
    [.bind s!"t{id}" (.call "hit_sphere"
        [.vec3 center, .float radius, ray, (name "closest").dot "t"]),
      .branch (.gt t 0.0) [
        .assign (name "closest") .set (.call "surface_hit" [ray, t,
          .paren (ray.dot "origin" + t * ray.dot "dir" - .vec3 center) / .float radius,
          .unsigned id.toNat])] []]
  .plain "scene_hit" [("r", rayType)] (some hitType)
    (.declare "closest" (.call "no_hit" []) :: spheres.flatMap sphere ++
      (if marches then
        [.assign (name "closest") .set (.call "march" [name "r", name "closest"])] else []) ++
      [.ret (name "closest")])

def albedoName (id : UInt32) : String := s!"albedo_{id}"

def ofColor : Color.Expr S → Expr S
  | .number value => .float value
  | .input source => .var source.name
  | .negate operand => .paren (.neg (ofColor operand))
  | .binary op left right =>
    let op : BinaryOp := match op with
      | .add => .add
      | .sub => .sub
      | .mul => .mul
      | .div => .div
    .paren (.binary op (ofColor left) (ofColor right))
  | .call function arguments => .call function.name (ofColors arguments)
  | .swizzle base components => .member (ofColor base) components
where
  ofColors : List (Color.Expr S) → List (Expr S)
    | [] => []
    | e :: es => ofColor e :: ofColors es

def albedo (id : UInt32) (color : SurfaceColor S) : Function S :=
  .plain (albedoName id) [("p", .vec3f), ("n", .vec3f)] (some .vec3f) [
    .ret (match color with
      | .literal rgb => .vec3 rgb
      | .expression _ root => .call "vec3f" [ofColor root])]

def objectScatter [Scalar S] (materials : List (UInt32 × Material)) : Function S :=
  let black : Expr S := .call "vec3f" [0.0]
  let scatter : UInt32 × Material → Nat × List (Stmt S) := fun (id, material) =>
    (id.toNat, [.assign (name "result") .set (.call (scatterName material) [name "r", name "hit",
      .call (albedoName id) [(name "hit").dot "p", (name "hit").dot "n"]])])
  .plain "object_scatter" [("object_id", .u32), ("r", rayType), ("hit", hitType)]
    (some scatterType) [
    .declare "result" (.call "Scatter" [black, black, name "r", .bool true]),
    .switch (name "object_id") (materials.map scatter),
    .ret (name "result")]

def gridDistance (marches : Bool) : Function S :=
  .plain "grid_distance" [("p", .vec3f)] (some .f32) [
    .ret (if marches then (Expr.call "scene_sdf" [name "p"]).dot "x" else name "MAX_DISTANCE")]

def Plan.shadings (plan : Plan S) : List (UInt32 × Material × SurfaceColor S) :=
  plan.objects.filterMap fun o => o.shading.map (o.id, ·)

def Plan.objectFunctions [Scalar S] (plan : Plan S) : List (Function S) :=
  let marched := plan.marched
  let fields := marched.map fun (id, tree) => FieldChain.function id tree
  let together := if marched.isEmpty then [] else [sceneSdf (marched.map (·.1))]
  let uses := match plan.target with
    | .screen =>
      sceneHit plan.analytic (!marched.isEmpty) ::
        plan.shadings.map (fun (id, _, color) => albedo id color) ++
        [objectScatter (plan.shadings.map fun (id, material, _) => (id, material))]
    | .grid => [gridDistance (!marched.isEmpty)]
  fields ++ together ++ uses

def Plan.module [Scalar S] (plan : Plan S) : Module S :=
  let camera := if plan.target = .screen then [activeCamera plan.camera] else []
  let alone (items : List (Item S)) : List (List (Item S)) := items.map ([·])
  ⟨[.comment "Generated by shadergen."] ::
    plan.constants.map (fun (constant, value) => value.item constant) ::
    alone (structs plan.target) ++
    [plan.bindings.map Binding.item] ++
    alone (camera.map .function) ++
    alone (plan.routines.flatMap Routine.items) ++
    alone (plan.objectFunctions.map .function) ++
    alone (plan.entryPoints.map fun entry => .function entry.function)⟩

/-- The text of the shader of an object list. -/
def generate (objects : List (SceneObject Single)) (options : Options Single) :
    Except ShaderError String := do
  return (← plan objects options).module.write

end RayScene.Shader
