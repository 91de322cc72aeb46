import RayScene.Proofs.Geometry.Soundness
import RayScene.Proofs.Outcome
import RayScene.Proofs.Shader.Planning
import RayScene.SceneFile.Compile
import RayScene.Shader.Generate

/-!
What compiling a scene promises: numbered objects of sound shapes. A shader is generated from
every scene that keeps to this, whatever the options, unless they ask for no sample at all.
-/

namespace RayScene

namespace Shape

variable {S : Type} [Scalar S]

/-- A sphere of a positive radius, or a solid. -/
def Sound : Shape S → Prop
  | sphere _ radius => Scalar.Positive radius
  | solid tree => tree.Sound

theorem toSdf_shallow {shape : Shape S} (sound : shape.Sound) :
    shape.toSdf.depth ≤ Sdf.maxDepth := by
  cases shape with
  | sphere center radius =>
      show 1 ≤ 16
      decide
  | solid tree => exact sound.shallow

end Shape

namespace Shader

theorem generate_succeeds {objects : List (SceneObject Single)} {options : Options Single}
    (sampled : options.numSamples ≠ 0)
    (shallow : ∀ o ∈ objects, o.shape.toSdf.depth ≤ Sdf.maxDepth) :
    ∃ shader, generate objects options = .ok shader := by
  obtain ⟨p, planned⟩ := plan_succeeds sampled shallow
  refine ⟨p.module.write, ?_⟩
  rw [generate, planned]
  rfl

end Shader

namespace SceneFile

theorem shapeFault?_eq_none_iff (shape : Shape Single) : shapeFault? shape = none ↔ shape.Sound := by
  cases shape with
  | sphere center radius =>
      simp only [shapeFault?, ite_eq_left_iff, reduceCtorEq, imp_false, Classical.not_not,
        Scalar.isPositive_eq_true_iff, Shape.Sound]
  | solid tree =>
      rw [shapeFault?, Option.map_eq_none_iff]
      exact Sdf.isValid_iff_sound tree

theorem checkObject_ok {id : Nat} {entry : ObjectEntry} {o : SceneObject Single}
    (checked : checkObject id entry = .ok o) : o.id.toNat = id ∧ o.shape.Sound := by
  unfold checkObject at checked
  split at checked
  next => cases checked
  next few =>
    split at checked
    next => cases checked
    next faultless =>
      obtain rfl := Except.ok.inj checked
      have word : id < UInt32.size := Nat.lt_of_not_le few
      exact ⟨UInt32.toNat_ofNat_of_lt' word, (shapeFault?_eq_none_iff _).mp faultless⟩

theorem checkObjects_ok {first : Nat} {entries : List ObjectEntry}
    {objects : List (SceneObject Single)} (checked : checkObjects first entries = .ok objects) :
    objects.map (·.id.toNat) = List.range' first objects.length ∧
      ∀ o ∈ objects, o.shape.Sound := by
  induction entries generalizing first objects with
  | nil =>
      obtain rfl := Except.ok.inj checked
      simp
  | cons entry entries ih =>
      obtain ⟨o, one, checked⟩ := Outcome.bind_eq_ok.mp checked
      obtain ⟨rest, others, checked⟩ := Outcome.bind_eq_ok.mp checked
      obtain rfl := Except.ok.inj checked
      obtain ⟨number, sound⟩ := checkObject_ok one
      obtain ⟨numbers, sounds⟩ := ih others
      constructor
      · rw [List.map_cons, List.length_cons, List.range'_succ, number, numbers]
      · intro other member
        rcases List.mem_cons.mp member with rfl | member
        · exact sound
        · exact sounds other member

theorem compile_ok {text : String} {scene : Scene Single} (compiled : compile text = .ok scene) :
    ∃ document, readDocument text.toUTF8.toList = .ok document ∧
      checkObjects 0 document.objects = .ok scene.objects := by
  obtain ⟨document, read, compiled⟩ := Outcome.bind_eq_ok.mp compiled
  obtain ⟨objects, checked, compiled⟩ := Outcome.bind_eq_ok.mp compiled
  obtain rfl := Except.ok.inj compiled
  exact ⟨document, read, checked⟩

theorem hasSolids_iff (scene : Scene Single) :
    scene.hasSolids = true ↔ ∃ o ∈ scene.objects, ∃ tree, o.shape = .solid tree := by
  have solid (shape : Shape Single) : shape.isSolid = true ↔ ∃ tree, shape = .solid tree := by
    cases shape <;> simp [Shape.isSolid]
  simp only [Scene.hasSolids, List.any_eq_true, solid]

/-- A compiled scene has numbered objects of sound shapes, and it has a shader for all options
that ask for samples. -/
theorem compiled_scene_generates {text : String} {scene : Scene Single}
    (compiled : compile text = .ok scene) :
    scene.objects.map (·.id.toNat) = List.range scene.objects.length ∧
      (scene.hasSolids = true ↔ ∃ o ∈ scene.objects, ∃ tree, o.shape = .solid tree) ∧
      (∀ o ∈ scene.objects, o.shape.Sound) ∧
      ∀ options, 1 ≤ options.numSamples →
        ∃ shader, Shader.generate scene.objects options = .ok shader := by
  obtain ⟨document, -, checked⟩ := compile_ok compiled
  obtain ⟨numbers, sound⟩ := checkObjects_ok checked
  refine ⟨?_, hasSolids_iff scene, sound, ?_⟩
  · rw [numbers, List.range_eq_range']
  · intro options sampled
    have some : options.numSamples ≠ 0 := by
      rintro none
      rw [none] at sampled
      exact absurd sampled (by decide)
    exact Shader.generate_succeeds some fun o member => Shape.toSdf_shallow (sound o member)

def lampAndGem : String :=
  "\x7b\"objectList\":[
\x7b\"type\":\"sphere\",\"center\":[0,1,0],\"radius\":2,\"material\":\"light\"\x7d,
\x7b\"type\":\"sdf\",\"material\":\"glass\",\"geometry\":
\x7b\"op\":\"union\",\"children\":[\x7b\"op\":\"sphere\",\"radius\":1\x7d]\x7d\x7d]\x7d"

theorem lampAndGem_generates :
    ∃ scene, compile lampAndGem = .ok scene ∧ scene.objects.map (·.id.toNat) = [0, 1] ∧
      (∀ o ∈ scene.objects, o.shape.Sound) ∧
      1 ≤ (4 : UInt32) ∧
      ∃ shader, Shader.generate scene.objects { Shader.Options.grid with numSamples := 4 } =
        .ok shader := by
  have two : (compile lampAndGem).toOption.map (·.objects.length) = some 2 := by decide +kernel
  obtain ⟨scene, accepted, length⟩ := Option.map_eq_some_iff.mp two
  have compiled := Outcome.toOption_eq_some.mp accepted
  obtain ⟨numbers, -, sound, generates⟩ := compiled_scene_generates compiled
  have some : 1 ≤ (4 : UInt32) := by decide
  rw [length] at numbers
  exact ⟨scene, compiled, numbers, sound, some, generates _ some⟩

end SceneFile
end RayScene
