import RayScene.Proofs.SceneFile.Colors
import RayScene.Proofs.Shader.Floats

/-!
The float literals of the shader of a compiled scene. Most numbers of a scene file are checked
before they get there; those that are not may be written as a word that no shader understands.
-/

namespace RayScene

/-- The numbers of a node that no check looks at: its place, and the dimensions that its primitive
does not read. -/
def Sdf.uncheckedNumbers {S : Type} : Sdf S → List S
  | primitive kind position dimensions => position.toList ++ dimensions.toList.drop kind.arity
  | translate v _ | rotate v _ => v.toList
  | union _ | smoothUnion .. | intersection _ | subtraction .. | repeated .. => []

def Shape.uncheckedNumbers {S : Type} : Shape S → List S
  | sphere center _ => center.toList
  | solid tree => tree.subtrees.flatMap Sdf.uncheckedNumbers

def SurfaceColor.uncheckedNumbers {S : Type} : SurfaceColor S → List S
  | literal rgb => rgb.toList
  | expression .. => []

/-- The unchecked numbers of an object, without those of a color that is not drawn. -/
def SceneObject.uncheckedNumbers {S : Type} (target : Shader.Target) (o : SceneObject S) : List S :=
  o.shape.uncheckedNumbers ++ if target = .screen then o.color.uncheckedNumbers else []

theorem Scalar.isFinite_of_isZero {v : Vec3 Single} (zero : v.isZero = true) :
    ∀ x ∈ v.toList, Scalar.isFinite x = true := by
  intro x member
  exact Single.isFinite_of_beq_zero (List.all_eq_true.mp zero x member)

variable {x : Single}

theorem SurfaceColor.mem_numbers_iff {color : SurfaceColor Single} (parsed : color.Parsed)
    (infinite : ¬ Scalar.isFinite x = true) :
    x ∈ Shader.colorNumbers color ↔ x ∈ color.uncheckedNumbers := by
  cases color with
  | literal rgb => exact Iff.rfl
  | expression source root =>
      refine iff_of_false ?_ List.not_mem_nil
      intro member
      exact infinite (Color.parse_numbers_readable parsed x member).2

theorem Sdf.mem_numbers_iff {node : Sdf Single} (sound : node.NodeSound)
    (infinite : ¬ Scalar.isFinite x = true) :
    x ∈ Shader.nodeNumbers node ↔ x ∈ node.uncheckedNumbers := by
  have absurd_positive : ¬ Scalar.Positive x := fun positive => infinite positive.finite
  cases node with
  | primitive kind position dimensions =>
      have sizes := (nodeError?_primitive kind position dimensions).mp
        ((nodeError?_eq_none_iff _).mpr sound)
      have read : x ∉ dimensions.toList.take kind.arity := fun member =>
        absurd_positive (sizes x member)
      have dims : x ∈ dimensions.toList ↔ x ∈ dimensions.toList.drop kind.arity := by
        conv_lhs => rw [← List.take_append_drop kind.arity dimensions.toList]
        rw [List.mem_append, or_iff_right read]
      have placed : x ∈ (if position.isZero then [] else position.toList) ↔
          x ∈ position.toList := by
        by_cases zero : position.isZero = true
        · have outside : x ∉ position.toList := fun member =>
            infinite (Scalar.isFinite_of_isZero zero x member)
          simp [zero, outside]
        · simp [zero]
      rw [Shader.nodeNumbers, uncheckedNumbers, List.mem_append, List.mem_append, placed, dims]
  | smoothUnion k children =>
      have other : x ≠ k := by
        rintro rfl
        exact absurd_positive sound.2
      simp [Shader.nodeNumbers, uncheckedNumbers, other]
  | repeated period child =>
      have sizes := (nodeError?_repeated period child).mp ((nodeError?_eq_none_iff _).mpr sound)
      have other : x ∉ period.toList := fun member => absurd_positive (sizes x member)
      simp [Shader.nodeNumbers, uncheckedNumbers, other]
  | _ => exact Iff.rfl

namespace Shader

open SceneFile

variable {options : Options Single}

/-- The fields that reach a shader bring the numbers of a shape with them. -/
theorem mem_shapeNumbers_iff {o : SceneObject Single} (sound : o.shape.Sound)
    (infinite : ¬ Scalar.isFinite x = true) :
    (x ∈ (objectPart options o).analytic.elim [] fun sphere => sphere.1.toList ++ [sphere.2]) ∨
        (x ∈ (objectPart options o).field.elim [] fun tree => tree.subtrees.flatMap nodeNumbers) ↔
      x ∈ o.shape.uncheckedNumbers := by
  have nodes {tree : Sdf Single} (each : ∀ node ∈ tree.subtrees, node.NodeSound) :
      x ∈ tree.subtrees.flatMap nodeNumbers ↔
        x ∈ tree.subtrees.flatMap Sdf.uncheckedNumbers := by
    simp only [List.mem_flatMap]
    refine exists_congr fun node => and_congr_right fun member => ?_
    exact Sdf.mem_numbers_iff (each node member) infinite
  cases same : o.shape with
  | sphere center radius =>
      rw [same] at sound
      have other : x ≠ radius := by
        rintro rfl
        exact infinite sound.finite
      by_cases marches : options.marchesAll = true
      · have node : (Sdf.primitive .sphere center (Vec3.splat radius)).NodeSound := sound
        have own : x ∈ nodeNumbers (.primitive .sphere center (Vec3.splat radius)) ↔
            x ∈ center.toList := by
          rw [Sdf.mem_numbers_iff node infinite]
          simp [Sdf.uncheckedNumbers, Primitive.arity, Vec3.toList, Vec3.splat, other]
        simp [objectPart, same, marches, Shape.toSdf, Sdf.subtrees, own, Shape.uncheckedNumbers]
      · simp [objectPart, same, marches, Shape.uncheckedNumbers, other]
  | solid tree =>
      rw [same] at sound
      simpa [objectPart, same, Shape.uncheckedNumbers] using nodes sound.nodes

theorem mem_partNumbers_iff {o : SceneObject Single} (sound : o.shape.Sound)
    (parsed : o.color.Parsed) (infinite : ¬ Scalar.isFinite x = true) :
    x ∈ partNumbers (objectPart options o) ↔ x ∈ o.uncheckedNumbers options.target := by
  have shade := SurfaceColor.mem_numbers_iff parsed infinite
  rw [partNumbers, List.mem_append, List.mem_append, mem_shapeNumbers_iff sound infinite,
    objectPart_shading, SceneObject.uncheckedNumbers, List.mem_append]
  split
  next => simp [shade]
  next => simp

end Shader

namespace SceneFile

open Shader

/-- A float of a shader is written as a word if, and only if, some object has it among the numbers
that nothing checks. -/
theorem generated_words_iff {text : String} {scene : Scene Single} {options : Options Single}
    {shader : String} (compiled : compile text = .ok scene) (uniform : options.camera = .uniform)
    (generated : generate scene.objects options = .ok shader) :
    ∃ p, plan scene.objects options = .ok p ∧ shader = p.module.write ∧
      ∀ x : Single, x.literal ∈ NumberStyle.words →
        (x ∈ p.module.floats ↔ ∃ o ∈ scene.objects, x ∈ o.uncheckedNumbers options.target) := by
  obtain ⟨p, planned, written⟩ := Outcome.bind_eq_ok.mp generated
  obtain rfl := Except.ok.inj written
  refine ⟨p, planned, rfl, ?_⟩
  intro x word
  have infinite : ¬ Scalar.isFinite x = true := fun finite =>
    x.isFinite_iff_literal.mp finite word
  obtain ⟨-, -, rfl⟩ := plan_eq_ok_iff.mp planned
  obtain ⟨inside, -, checked⟩ := compile_ok compiled
  obtain ⟨numbers, sound⟩ := checkObjects_ok checked
  have parsed := compile_parsed compiled
  have ids : (scene.objects.map (·.id)).Nodup := by
    have distinct : ((scene.objects.map (·.id)).map UInt32.toNat).Nodup := by
      rw [List.map_map]
      exact numbers ▸ List.nodup_range'
    exact distinct.of_map _
  have listed (part : ObjectPart Single) : part ∈ (planOf options scene.objects).objects ↔
      ∃ o ∈ scene.objects, objectPart options o = part := by
    show part ∈ List.mergeSort _ _ ↔ _
    rw [List.mem_mergeSort, parts, distinct_eq_self ids, List.mem_map]
  constructor
  · intro written
    rcases finite_or_part uniform written with finite | ⟨part, counts, own⟩
    · exact absurd finite infinite
    · obtain ⟨o, member, rfl⟩ := (listed part).mp counts
      exact ⟨o, member, (mem_partNumbers_iff (sound o member) (parsed o member) infinite).mp own⟩
  · rintro ⟨o, member, own⟩
    have part := (listed _).mpr ⟨o, member, rfl⟩
    exact mem_floats_of_part part
      ((mem_partNumbers_iff (sound o member) (parsed o member) infinite).mpr own)

def farSphere : String :=
  "\x7b\"objectList\":[
\x7b\"type\":\"sphere\",\"center\":[1e39,0,0],\"radius\":1,\"material\":\"lambert\"\x7d]\x7d"

theorem farSphere_infinite :
    ∃ scene shader, compile farSphere = .ok scene ∧
      (Options.standard : Options Single).camera = .uniform ∧
      generate scene.objects .standard = .ok shader ∧
      ∃ p, plan scene.objects .standard = .ok p ∧ shader = p.module.write ∧
        ∃ x ∈ p.module.floats, x.literal = "inf" := by
  have numbers : (compile farSphere).toOption.map (fun scene =>
      scene.objects.flatMap fun o => o.shape.uncheckedNumbers.map Single.literal) =
      some ["inf", "0.0", "0.0"] := by
    decide +kernel
  obtain ⟨scene, accepted, numbers⟩ := Option.map_eq_some_iff.mp numbers
  have compiled := Outcome.toOption_eq_some.mp accepted
  obtain ⟨-, -, sound, -⟩ := compiled_scene_generates compiled
  have samples : (Options.standard : Options Single).numSamples ≠ 0 := by decide
  obtain ⟨shader, generated⟩ := generate_succeeds samples
    fun o member => Shape.toSdf_shallow (sound o member)
  obtain ⟨p, planned, written, words⟩ := generated_words_iff compiled rfl generated
  refine ⟨scene, shader, compiled, rfl, generated, p, planned, written, ?_⟩
  have infinite : "inf" ∈ scene.objects.flatMap fun o =>
      o.shape.uncheckedNumbers.map Single.literal := numbers ▸ List.mem_cons_self
  obtain ⟨o, member, own⟩ := List.mem_flatMap.mp infinite
  obtain ⟨x, unchecked, literal⟩ := List.mem_map.mp own
  refine ⟨x, (words x ?_).mpr ⟨o, member, List.mem_append_left _ unchecked⟩, literal⟩
  rw [literal]
  exact List.mem_cons_self

end SceneFile
end RayScene
