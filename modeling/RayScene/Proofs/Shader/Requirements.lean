import RayScene.Proofs.Shader.Names
import RayScene.Shader.Generate

namespace RayScene.Shader

open Wgsl

def Routine.requires : Routine → List Routine
  | cameraRay => [random]
  | march => [surfaceHit]
  | reflectRough => [random]
  | scatter .lambert => [random]
  | scatter .fuzzyMetal | scatter .shinyMetal => [reflectRough]
  | scatter .glass => [schlick, random]
  | trace => [random, cameraRay, background]
  | random | surfaceHit | hitSphere | primitive _ | smoothUnion | inverseRotate | repeatDomain
  | schlick | scatter .light | background => []

def Routine.declares (routine : Routine) : List Mention :=
  (routine.items : List (Item Single)).flatMap Item.declares

def Routine.mentions (routine : Routine) : List Mention :=
  (routine.items : List (Item Single)).flatMap Item.mentions

def constantMentions : List Mention :=
  (constants (.standard : Options Single)).map fun (name, _) => .value name

/-- What shaders that draw to a screen have besides routines and constants, whatever they draw. -/
def screenContext : List Mention :=
  (structs .screen : List (Item Single)).flatMap Item.declares ++
    [.value "frame", .function "active_camera", .function "scene_hit", .function "object_scatter"]

def Routine.context : Routine → List Mention
  | primitive _ | smoothUnion | inverseRotate | repeatDomain => []
  | march => .function "scene_sdf" :: screenContext
  | _ => screenContext

theorem Routine.mem_all (routine : Routine) : routine ∈ all := by
  cases routine with
  | primitive kind => cases kind <;> decide
  | scatter material => cases material <;> decide
  | _ => decide

theorem Routine.scatter_declares (material : Material) :
    .function (scatterName material) ∈ (scatter material).declares := by
  cases material <;> decide

/-- A routine uses nothing that is not listed. -/
theorem Routine.mentions_known (routine : Routine) :
    ∀ mention ∈ routine.mentions, mention ∈ builtins ∨ mention ∈ constantMentions ∨
      (∃ other ∈ routine :: routine.requires, mention ∈ other.declares) ∨
      mention ∈ routine.context := by
  have each : ∀ routine ∈ all, ∀ mention ∈ routine.mentions, mention ∈ builtins ∨
      mention ∈ constantMentions ∨
      (∃ other ∈ routine :: routine.requires, mention ∈ other.declares) ∨
      mention ∈ routine.context := by
    decide +kernel
  exact each routine routine.mem_all

def EntryPoint.context : EntryPoint → List Mention
  | vertex => screenContext
  | realTime => screenContext ++ Routine.trace.declares
  | trace | present => .value "accum_texture" :: screenContext ++ Routine.trace.declares
  | distances => [.value "params", .value "export_values", .function "grid_distance"]

theorem EntryPoint.mentions_known (entry : EntryPoint) :
    ∀ mention ∈ (entry.function : Function Single).mentions,
      mention ∈ builtins ∨ mention ∈ entry.context := by
  cases entry <;> decide

structure Basis (known : Mention → Prop) : Prop where
  language : ∀ mention ∈ builtins, known mention
  constants : ∀ mention ∈ constantMentions, known mention

theorem Basis.builtin {known : Mention → Prop} (basis : Basis known) {name : String}
    (own : name ∈ builtinNames) : known (.function name) :=
  basis.language _ (List.mem_map_of_mem own)

end RayScene.Shader
