import RayScene.Geometry.Sdf
import RayScene.Scene.Material
import RayScene.Shader.Wgsl

namespace RayScene.Shader

open Wgsl

/-- A group of functions that a shader contains as a whole or not at all. -/
inductive Routine where
  | random
  | cameraRay
  | surfaceHit
  | hitSphere
  | primitive (kind : Primitive)
  | smoothUnion
  | inverseRotate
  | repeatDomain
  | march
  | reflectRough
  | schlick
  | scatter (material : Material)
  | background
  | trace
  deriving DecidableEq, Repr

def Routine.all : List Routine :=
  [.random, .cameraRay, .surfaceHit, .hitSphere] ++ Primitive.all.map .primitive ++
    [.smoothUnion, .inverseRotate, .repeatDomain, .march, .reflectRough, .schlick] ++
    Material.all.map .scatter ++ [.background, .trace]

variable {S : Type}

def slot (name : String) (type : Ty) : Slot := ⟨name, type, []⟩

def rayType : Ty := .struct "Ray"

def hitType : Ty := .struct "Hit"

def scatterType : Ty := .struct "Scatter"

def cameraType : Ty := .struct "Camera"

def vertexOutputType : Ty := .struct "VertexOutput"

def frameStruct : Item S := .struct "Frame" [
  slot "bg_gradient_bottom" .vec4f,
  slot "bg_gradient_top" .vec4f,
  slot "resolution" .vec2f,
  slot "seed" .vec2f,
  slot "one_over_sample_count" .f32,
  slot "_pad0" .f32,
  slot "_pad1" .f32,
  slot "_pad2" .f32]

def screenStructs : List (Item S) := [
  .struct "Ray" [slot "origin" .vec3f, slot "dir" .vec3f],
  .struct "Hit" [
    slot "t" .f32,
    slot "p" .vec3f,
    slot "n" .vec3f,
    slot "object_id" .u32,
    slot "front_face" .bool],
  .struct "Scatter" [
    slot "attenuation" .vec3f,
    slot "emitted" .vec3f,
    slot "scattered" rayType,
    slot "absorbed" .bool],
  .struct "VertexOutput" [
    ⟨"position", .vec4f, [.builtin "position"]⟩,
    ⟨"uv", .vec2f, [.location 0]⟩]]

def exportParamsStruct : Item S := .struct "ExportParams" [
  slot "min_coords" .vec4f,
  slot "cell_size" .vec4f,
  slot "resolution" .u32,
  slot "offset" .u32,
  slot "count" .u32,
  slot "_pad0" .u32]

private def v (name : String) : Expr S := .var name

private def par (inner : Expr S) : Expr S := .paren inner

private def call (name : String) (arguments : List (Expr S)) : Expr S := .call name arguments

private def set (name : String) (value : Expr S) : Stmt S := .assign (.var name) .set value

private def shiftRight (a : Expr S) (bits : Nat) : Expr S := .binary .shiftRight a (.unsigned bits)

private def xor (a b : Expr S) : Expr S := .binary .xor a b

variable [Scalar S]

private def vec3Of (x : Expr S) : Expr S := call "vec3f" [x]

def pcgHash : Function S := .plain "pcg_hash" [("input", .u32)] (some .u32) [
  .bind "state" (v "input" * 747796405 + 2891336453),
  .bind "word"
    (par (xor (par (.binary .shiftRight (v "state") (par (par (shiftRight (v "state") 28) + 4))))
      (v "state")) * 277803737),
  .ret (xor (par (shiftRight (v "word") 22)) (v "word"))]

def seedRng : Function S := .plain "seed_rng" [("pixel", .vec2f), ("seed", .vec2f)] none [
  .bind "px" (call "vec2u" [v "pixel"]),
  .bind "s" (call "bitcast<vec2u>" [v "seed"]),
  set "rng_state" (call "pcg_hash" [xor ((v "px").dot "x") (call "pcg_hash" [
    xor ((v "px").dot "y") (call "pcg_hash" [
      xor ((v "s").dot "x") (call "pcg_hash" [(v "s").dot "y"])])])])]

def rand : Function S := .plain "rand" [] (some .f32) [
  set "rng_state" (call "pcg_hash" [v "rng_state"]),
  .ret (call "f32" [shiftRight (v "rng_state") 8] / 16777216.0)]

def randomUnitVector : Function S := .plain "random_unit_vector" [] (some .vec3f) [
  .bind "z" (call "rand" [] * 2.0 - 1.0),
  .bind "a" (call "rand" [] * 6.2831855),
  .bind "r" (call "sqrt" [call "max" [0.0, 1.0 - v "z" * v "z"]]),
  .ret (call "vec3f" [v "r" * call "cos" [v "a"], v "r" * call "sin" [v "a"], v "z"])]

def randomInUnitSphere : Function S := .plain "random_in_unit_sphere" [] (some .vec3f) [
  .ret (call "random_unit_vector" [] * call "pow" [call "rand" [], 1.0 / 3.0])]

def randomInUnitDisk : Function S := .plain "random_in_unit_disk" [] (some .vec2f) [
  .bind "a" (call "rand" [] * 6.2831855),
  .ret (call "vec2f" [call "cos" [v "a"], call "sin" [v "a"]] * call "sqrt" [call "rand" []])]

def cameraRay : Function S :=
  .plain "camera_ray" [("cam", cameraType), ("s", .f32), ("t", .f32)] (some rayType) [
    .bind "lens" ((v "cam").dot "lens_radius" * call "random_in_unit_disk" []),
    .bind "origin" (((v "cam").dot "origin").dot "xyz"
      + ((v "cam").dot "u").dot "xyz" * (v "lens").dot "x"
      + ((v "cam").dot "v").dot "xyz" * (v "lens").dot "y"),
    .bind "focus_point" (((v "cam").dot "lower_left_corner").dot "xyz"
      + v "s" * ((v "cam").dot "horizontal").dot "xyz"
      + v "t" * ((v "cam").dot "vertical").dot "xyz"),
    .ret (call "Ray" [v "origin", call "normalize" [v "focus_point" - v "origin"]])]

def noHit : Function S := .plain "no_hit" [] (some hitType) [
  .ret (call "Hit" [v "MAX_DISTANCE", vec3Of 0.0, vec3Of 0.0, v "NO_OBJECT", .bool true])]

def surfaceHit : Function S :=
  .plain "surface_hit" [("r", rayType), ("t", .f32), ("outward", .vec3f), ("object_id", .u32)]
    (some hitType) [
    .bind "front" (.lt (call "dot" [(v "r").dot "dir", v "outward"]) 0.0),
    .bind "n" (call "select" [-v "outward", v "outward", v "front"]),
    .ret (call "Hit" [v "t", (v "r").dot "origin" + v "t" * (v "r").dot "dir", v "n",
      v "object_id", v "front"])]

def hitSphere : Function S :=
  let outside : Expr S := .or (.lt (v "t") (v "HIT_EPSILON")) (.gt (v "t") (v "t_max"))
  .plain "hit_sphere"
    [("center", .vec3f), ("radius", .f32), ("r", rayType), ("t_max", .f32)] (some .f32) [
    .bind "oc" ((v "r").dot "origin" - v "center"),
    .bind "half_b" (call "dot" [v "oc", (v "r").dot "dir"]),
    .bind "c" (call "dot" [v "oc", v "oc"] - v "radius" * v "radius"),
    .bind "disc" (v "half_b" * v "half_b" - v "c"),
    .branch (.lt (v "disc") 0.0) [.ret (-1.0)] [],
    .bind "root" (call "sqrt" [v "disc"]),
    .declare "t" (-v "half_b" - v "root"),
    .branch outside [
      set "t" (-v "half_b" + v "root"),
      .branch outside [.ret (-1.0)] []] [],
    .ret (v "t")]

private def fieldFunction (name : String) (body : List (Stmt S)) : Function S :=
  .plain name [("p", .vec3f), ("dims", .vec3f)] (some .f32) body

def sdfSphere : Function S := fieldFunction "sdf_sphere" [
  .ret (call "length" [v "p"] - (v "dims").dot "x")]

def sdfBox : Function S := fieldFunction "sdf_box" [
  .bind "q" (call "abs" [v "p"] - v "dims"),
  .ret (call "length" [call "max" [v "q", vec3Of 0.0]]
    + call "min" [call "max" [(v "q").dot "x", call "max" [(v "q").dot "y", (v "q").dot "z"]],
        0.0])]

def sdfTorus : Function S := fieldFunction "sdf_torus" [
  .bind "q" (call "vec2f" [call "length" [(v "p").dot "xz"] - (v "dims").dot "x",
    (v "p").dot "y"]),
  .ret (call "length" [v "q"] - (v "dims").dot "y")]

def sdfCylinder : Function S := fieldFunction "sdf_cylinder" [
  .bind "d" (call "abs" [call "vec2f" [call "length" [(v "p").dot "xz"], (v "p").dot "y"]]
    - (v "dims").dot "xy"),
  .ret (call "min" [call "max" [(v "d").dot "x", (v "d").dot "y"], 0.0]
    + call "length" [call "max" [v "d", call "vec2f" [0.0]]])]

def smoothUnion : Function S :=
  .plain "smooth_union" [("a", .f32), ("b", .f32), ("k", .f32)] (some .f32) [
    .bind "h" (call "clamp" [0.5 + 0.5 * par (v "b" - v "a") / v "k", 0.0, 1.0]),
    .ret (call "mix" [v "b", v "a", v "h"] - v "k" * v "h" * par (1.0 - v "h"))]

def inverseRotate : Function S :=
  .plain "inverse_rotate" [("p", .vec3f), ("angles", .vec3f)] (some .vec3f) [
    .bind "r" (-call "radians" [v "angles"]),
    .bind "cz" (call "cos" [(v "r").dot "z"]),
    .bind "sz" (call "sin" [(v "r").dot "z"]),
    .declare "q" (call "vec3f" [
      v "cz" * (v "p").dot "x" - v "sz" * (v "p").dot "y",
      v "sz" * (v "p").dot "x" + v "cz" * (v "p").dot "y",
      (v "p").dot "z"]),
    .bind "cy" (call "cos" [(v "r").dot "y"]),
    .bind "sy" (call "sin" [(v "r").dot "y"]),
    set "q" (call "vec3f" [
      v "cy" * (v "q").dot "x" + v "sy" * (v "q").dot "z",
      (v "q").dot "y",
      -v "sy" * (v "q").dot "x" + v "cy" * (v "q").dot "z"]),
    .bind "cx" (call "cos" [(v "r").dot "x"]),
    .bind "sx" (call "sin" [(v "r").dot "x"]),
    .ret (call "vec3f" [
      (v "q").dot "x",
      v "cx" * (v "q").dot "y" - v "sx" * (v "q").dot "z",
      v "sx" * (v "q").dot "y" + v "cx" * (v "q").dot "z"])]

def repeatDomain : Function S :=
  .plain "repeat_domain" [("p", .vec3f), ("period", .vec3f)] (some .vec3f) [
    .bind "folded" (v "p" - v "period" * call "floor" [v "p" / v "period" + 0.5]),
    .ret (call "select" [v "p", v "folded", .gt (v "period") (vec3Of 0.0)])]

def sceneDistance : Function S := .plain "scene_distance" [("p", .vec3f)] (some .f32) [
  .ret ((call "scene_sdf" [v "p"]).dot "x")]

def sdfNormal : Function S :=
  let slope (axis : String) : Expr S :=
    call "scene_distance" [v "p" + (v "e").dot axis]
      - call "scene_distance" [v "p" - (v "e").dot axis]
  .plain "sdf_normal" [("p", .vec3f)] (some .vec3f) [
    .bind "e" (call "vec2f" [v "HIT_EPSILON", 0.0]),
    .ret (call "normalize" [.tallCall "vec3f" [slope "xyy", slope "yxy", slope "yyx"]])]

def march : Function S :=
  .plain "march" [("r", rayType), ("closest", hitType)] (some hitType) [
    .declare "t" 0.0,
    .count "i" (v "MAX_MARCH_STEPS") [
      .bind "p" ((v "r").dot "origin" + v "t" * (v "r").dot "dir"),
      .bind "s" (call "scene_sdf" [v "p"]),
      .bind "d" (call "abs" [(v "s").dot "x"]),
      .branch (.lt (v "d") (v "HIT_EPSILON")) [
        .ret (call "surface_hit" [v "r", v "t", call "sdf_normal" [v "p"],
          call "u32" [(v "s").dot "y"]])] [],
      .assign (v "t") .add (v "d"),
      .branch (.gt (v "t") ((v "closest").dot "t")) [.leave] []],
    .ret (v "closest")]

def reflectRough : Function S :=
  .plain "reflect_rough"
    [("r", rayType), ("hit", hitType), ("albedo", .vec3f), ("roughness", .f32)]
    (some scatterType) [
    .bind "dir" (call "normalize" [call "reflect" [(v "r").dot "dir", (v "hit").dot "n"]
      + v "roughness" * call "random_in_unit_sphere" []]),
    .ret (call "Scatter" [v "albedo", vec3Of 0.0, call "Ray" [(v "hit").dot "p", v "dir"],
      .binary .le (call "dot" [v "dir", (v "hit").dot "n"]) 0.0])]

def schlick : Function S :=
  .plain "schlick" [("cosine", .f32), ("ratio", .f32)] (some .f32) [
    .declare "r0" (par (1.0 - v "ratio") / par (1.0 + v "ratio")),
    set "r0" (v "r0" * v "r0"),
    .ret (v "r0" + par (1.0 - v "r0") * call "pow" [1.0 - v "cosine", 5.0])]

def scatterName (material : Material) : String := "_".intercalate ("scatter" :: material.words)

private def scatterFunction (material : Material) (body : List (Stmt S)) : Function S :=
  .plain (scatterName material) [("r", rayType), ("hit", hitType), ("albedo", .vec3f)]
    (some scatterType) body

def scatterFor : Material → Function S
  | .lambert => scatterFunction .lambert [
      .declare "dir" ((v "hit").dot "n" + call "random_unit_vector" []),
      .branch (.lt (call "dot" [v "dir", v "dir"]) 1e-8) [set "dir" ((v "hit").dot "n")] [],
      .ret (call "Scatter" [v "albedo", vec3Of 0.0,
        call "Ray" [(v "hit").dot "p", call "normalize" [v "dir"]], .bool false])]
  | .fuzzyMetal => scatterFunction .fuzzyMetal [
      .ret (call "reflect_rough" [v "r", v "hit", v "albedo", v "FUZZY_METAL_ROUGHNESS"])]
  | .shinyMetal => scatterFunction .shinyMetal [
      .ret (call "reflect_rough" [v "r", v "hit", v "albedo", v "SHINY_METAL_ROUGHNESS"])]
  | .glass => scatterFunction .glass [
      .bind "ratio" (call "select" [v "GLASS_IOR", 1.0 / v "GLASS_IOR",
        (v "hit").dot "front_face"]),
      .bind "cos_theta" (call "min" [call "dot" [-(v "r").dot "dir", (v "hit").dot "n"], 1.0]),
      .bind "sin_theta" (call "sqrt" [1.0 - v "cos_theta" * v "cos_theta"]),
      .declareEmpty "dir" .vec3f,
      .branch (.or (.gt (v "ratio" * v "sin_theta") 1.0)
          (.gt (call "schlick" [v "cos_theta", v "ratio"]) (call "rand" [])))
        [set "dir" (call "reflect" [(v "r").dot "dir", (v "hit").dot "n"])]
        [set "dir" (call "refract" [(v "r").dot "dir", (v "hit").dot "n", v "ratio"])],
      .ret (call "Scatter" [v "albedo", vec3Of 0.0, call "Ray" [(v "hit").dot "p", v "dir"],
        .bool false])]
  | .light => scatterFunction .light [
      .ret (call "Scatter" [vec3Of 0.0, v "albedo", v "r", .bool true])]

def background : Function S := .plain "background" [("dir", .vec3f)] (some .vec3f) [
  .bind "t" (0.5 * par ((v "dir").dot "y" + 1.0)),
  .ret (call "mix" [((v "frame").dot "bg_gradient_bottom").dot "xyz",
    ((v "frame").dot "bg_gradient_top").dot "xyz", v "t"])]

def trace : Function S := .plain "trace" [("primary", rayType)] (some .vec3f) [
  .declare "r" (v "primary"),
  .declare "throughput" (vec3Of 1.0),
  .declare "radiance" (vec3Of 0.0),
  .count "bounce" (v "MAX_BOUNCES") [
    .bind "hit" (call "scene_hit" [v "r"]),
    .branch (.binary .eq ((v "hit").dot "object_id") (v "NO_OBJECT")) [
      .ret (v "radiance" + v "throughput" * call "background" [(v "r").dot "dir"])] [],
    .bind "s" (call "object_scatter" [(v "hit").dot "object_id", v "r", v "hit"]),
    .assign (v "radiance") .add (v "throughput" * (v "s").dot "emitted"),
    .branch ((v "s").dot "absorbed") [.ret (v "radiance")] [],
    .assign (v "throughput") .mul ((v "s").dot "attenuation"),
    .bind "side" (call "select" [-(v "hit").dot "n", (v "hit").dot "n",
      .gt (call "dot" [((v "s").dot "scattered").dot "dir", (v "hit").dot "n"]) 0.0]),
    set "r" (call "Ray" [(v "hit").dot "p" + v "side" * v "SURFACE_OFFSET",
      ((v "s").dot "scattered").dot "dir"])],
  .ret (v "radiance")]

def renderSample : Function S :=
  let place (axis : String) : Expr S :=
    par (call "floor" [(v "pixel").dot axis] + call "rand" [])
      / ((v "frame").dot "resolution").dot axis
  .plain "render_sample" [("pixel", .vec2f)] (some .vec3f) [
    .bind "cam" (call "active_camera" []),
    .bind "s" (place "x"),
    .bind "t" (1.0 - place "y"),
    .ret (call "trace" [call "camera_ray" [v "cam", v "s", v "t"]])]

def samplePixel : Function S := .plain "sample_pixel" [("pixel", .vec2f)] (some .vec3f) [
  .effect (call "seed_rng" [v "pixel", (v "frame").dot "seed"]),
  .declare "color" (vec3Of 0.0),
  .count "i" (v "SAMPLES_PER_DRAW") [
    .assign (v "color") .add (call "render_sample" [v "pixel"])],
  .ret (v "color" / call "f32" [v "SAMPLES_PER_DRAW"])]

def toDisplay : Function S := .plain "to_display" [("color", .vec3f)] (some .vec4f) [
  .ret (call "vec4f" [call "sqrt" [call "max" [v "color", vec3Of 0.0]], 1.0])]

namespace Routine

def functions : Routine → List (Function S)
  | random => [pcgHash, seedRng, rand, randomUnitVector, randomInUnitSphere, randomInUnitDisk]
  | cameraRay => [Shader.cameraRay]
  | surfaceHit => [noHit, Shader.surfaceHit]
  | hitSphere => [Shader.hitSphere]
  | primitive .sphere => [sdfSphere]
  | primitive .box => [sdfBox]
  | primitive .torus => [sdfTorus]
  | primitive .cylinder => [sdfCylinder]
  | smoothUnion => [Shader.smoothUnion]
  | inverseRotate => [Shader.inverseRotate]
  | repeatDomain => [Shader.repeatDomain]
  | march => [sceneDistance, sdfNormal, Shader.march]
  | reflectRough => [Shader.reflectRough]
  | schlick => [Shader.schlick]
  | scatter material => [scatterFor material]
  | background => [Shader.background]
  | trace => [Shader.trace, renderSample, samplePixel, toDisplay]

/-- The private state that a routine keeps besides its functions. -/
def globals : Routine → List (Item S)
  | random => [.global [] .private_ "rng_state" .u32]
  | _ => []

def items (routine : Routine) : List (Item S) :=
  routine.globals ++ routine.functions.map .function

end Routine

private def fragment (name : String) (body : List (Stmt S)) : Function S where
  attributes := [.fragment]
  name := name
  parameters := [slot "input" vertexOutputType]
  resultAttributes := [.location 0]
  result := some .vec4f
  body := body

private def pixel : Expr S := ((v "input").dot "position").dot "xy"

private def accumulated : Expr S :=
  call "textureLoad" [v "accum_texture", call "vec2i" [pixel], .signed 0]

inductive EntryPoint where
  | vertex
  | realTime
  | trace
  | present
  | distances
  deriving DecidableEq, Repr

def workgroupSize : Nat := 64

def workgroups (count : UInt32) : UInt32 :=
  UInt32.ofNat ((count.toNat + workgroupSize - 1) / workgroupSize)

namespace EntryPoint

def all : List EntryPoint := [vertex, realTime, trace, present, distances]

def name : EntryPoint → String
  | vertex => "vs_main"
  | realTime => "fs_main"
  | trace => "fs_trace"
  | present => "fs_present"
  | distances => "cs_export"

def function : EntryPoint → Function S
  | vertex => {
      attributes := [.vertex]
      name := name vertex
      parameters := [⟨"position", .vec2f, [.location 0]⟩]
      resultAttributes := []
      result := some vertexOutputType
      body := [
        .declareEmpty "out" vertexOutputType,
        .assign ((v "out").dot "position") .set (call "vec4f" [v "position", 0.0, 1.0]),
        .assign ((v "out").dot "uv") .set (v "position" * 0.5 + 0.5),
        .ret (v "out")] }
  | realTime => fragment (name realTime) [
      .ret (call "to_display" [call "sample_pixel" [pixel]])]
  | trace => fragment (name trace) [
      .bind "previous" accumulated,
      .ret (call "vec4f" [(v "previous").dot "xyz" + call "sample_pixel" [pixel], 1.0])]
  | present => fragment (name present) [
      .bind "sum" (accumulated.dot "xyz"),
      .ret (call "to_display" [v "sum" * (v "frame").dot "one_over_sample_count"])]
  | distances => {
      attributes := [.compute, .workgroupSize Shader.workgroupSize]
      name := name distances
      parameters := [⟨"gid", .vec3u, [.builtin "global_invocation_id"]⟩]
      resultAttributes := []
      result := none
      body := [
        .branch (.binary .ge ((v "gid").dot "x") ((v "params").dot "count")) [.stop] [],
        .bind "index" ((v "params").dot "offset" + (v "gid").dot "x"),
        .bind "res" ((v "params").dot "resolution"),
        .bind "i" (v "index" % v "res"),
        .bind "j" (par (v "index" / v "res") % v "res"),
        .bind "k" (v "index" / par (v "res" * v "res")),
        .bind "cell"
          (call "vec3f" [call "f32" [v "i"], call "f32" [v "j"], call "f32" [v "k"]] + 0.5),
        .assign (.index (v "export_values") ((v "gid").dot "x")) .set
          (call "grid_distance" [((v "params").dot "min_coords").dot "xyz"
            + v "cell" * ((v "params").dot "cell_size").dot "xyz"])] }

end EntryPoint

end RayScene.Shader
