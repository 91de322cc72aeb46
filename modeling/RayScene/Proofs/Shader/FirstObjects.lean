import Mathlib.Data.List.Nodup
import RayScene.Proofs.Outcome
import RayScene.Proofs.Shader.Contents

/-!
What the shader of an object list depends on: the first object of each id, and neither the order of
the list nor the objects behind those.
-/

namespace RayScene.Shader

variable {S : Type}

def firstOf (objects : List (SceneObject S)) (id : UInt32) : Option (SceneObject S) :=
  objects.find? fun o => o.id == id

/-- Each id has the same first object in both lists, or none in either. -/
def SameFirsts (objects others : List (SceneObject S)) : Prop :=
  ∀ id, firstOf objects id = firstOf others id

theorem SameFirsts.symm {objects others : List (SceneObject S)}
    (same : SameFirsts objects others) : SameFirsts others objects :=
  fun id => (same id).symm

theorem firstOf_id {objects : List (SceneObject S)} {id : UInt32} {o : SceneObject S}
    (first : firstOf objects id = some o) : o.id = id := by
  simpa using List.find?_some first

theorem firstOf_eq_some_iff {objects : List (SceneObject S)} (ids : (objects.map (·.id)).Nodup)
    {id : UInt32} {o : SceneObject S} :
    firstOf objects id = some o ↔ o ∈ objects ∧ o.id = id := by
  constructor
  · intro first
    exact ⟨List.mem_of_find?_eq_some first, firstOf_id first⟩
  · rintro ⟨member, rfl⟩
    rw [← distinct_eq_self ids] at member
    exact mem_distinct.mp member

theorem firstOf_isSome {objects : List (SceneObject S)} {id : UInt32}
    (listed : id ∈ objects.map (·.id)) : (firstOf objects id).isSome = true := by
  obtain ⟨o, member, rfl⟩ := List.mem_map.mp listed
  exact List.find?_isSome.mpr ⟨o, member, beq_self_eq_true o.id⟩

theorem SameFirsts.of_perm {objects others : List (SceneObject S)}
    (ids : (objects.map (·.id)).Nodup) (perm : objects.Perm others) :
    SameFirsts objects others := by
  have ids' : (others.map (·.id)).Nodup := (perm.map _).nodup_iff.mp ids
  intro id
  refine Option.ext fun o => ?_
  rw [firstOf_eq_some_iff ids, firstOf_eq_some_iff ids', perm.mem_iff]

theorem SameFirsts.of_duplicate {before : List (SceneObject S)} {duplicate : SceneObject S}
    (listed : duplicate.id ∈ before.map (·.id)) (later : List (SceneObject S)) :
    SameFirsts (before ++ later) (before ++ duplicate :: later) := by
  intro id
  rw [firstOf, firstOf, List.find?_append, List.find?_append]
  by_cases same : duplicate.id = id
  · obtain ⟨o, first⟩ := Option.isSome_iff_exists.mp (firstOf_isSome (same ▸ listed))
    rw [firstOf] at first
    rw [first, Option.some_or, Option.some_or]
  · rw [List.find?_cons_of_neg (by simpa using same)]

theorem SameFirsts.distinct_perm {objects others : List (SceneObject S)}
    (same : SameFirsts objects others) : (distinct objects).Perm (distinct others) := by
  have nodup (objects : List (SceneObject S)) : (distinct objects).Nodup :=
    (distinct_ids_nodup objects).of_map
  rw [List.perm_ext_iff_of_nodup (nodup objects) (nodup others)]
  intro o
  rw [mem_distinct, mem_distinct]
  exact iff_of_eq (congrArg (· = some o) (same o.id))

theorem neededRoutines_perm (target : Target) {first second : List (ObjectPart S)}
    (perm : first.Perm second) : neededRoutines target first = neededRoutines target second := by
  unfold neededRoutines
  dsimp only
  rw [perm.any_eq]
  refine List.filter_congr fun routine _ => ?_
  exact ((perm.flatMap_right partRoutines).append_right _).contains_eq

theorem mergeSort_parts_perm {first second : List (ObjectPart S)}
    (ids : (first.map (·.id)).Nodup) (perm : first.Perm second) :
    (first.mergeSort fun a b => a.id ≤ b.id) = second.mergeSort fun a b => a.id ≤ b.id := by
  have sorting (parts : List (ObjectPart S)) := List.mergeSort_perm parts fun a b => a.id ≤ b.id
  refine List.Perm.eq_of_pairwise ?_ (mergeSort_ascending ObjectPart.id ids)
    (mergeSort_ascending ObjectPart.id ((perm.map _).nodup_iff.mp ids))
    ((sorting first).trans (perm.trans (sorting second).symm))
  intro a b _ _ less greater
  exact absurd (UInt32.lt_trans less greater) (UInt32.lt_irrefl _)

theorem planned_perm [Scalar S] (options : Options S) {first second : List (ObjectPart S)}
    (ids : (first.map (·.id)).Nodup) (perm : first.Perm second) :
    planned options first = planned options second := by
  rw [planned, planned, neededRoutines_perm options.target perm, mergeSort_parts_perm ids perm]

theorem SameFirsts.plan_ok [Scalar S] {objects others : List (SceneObject S)}
    (same : SameFirsts objects others) {options : Options S} {p : Plan S}
    (success : plan objects options = .ok p) : plan others options = .ok p := by
  have perm : (parts options objects).Perm (parts options others) := same.distinct_perm.map _
  obtain ⟨sampled, shallow, result⟩ := plan_eq_ok_iff.mp success
  refine plan_eq_ok_iff.mpr ⟨sampled, ?_, ?_⟩
  · intro part member
    exact shallow part (perm.mem_iff.mpr member)
  · rw [← result]
    exact (planned_perm options (parts_ids_nodup options objects) perm).symm

/-- Either both lists have the same plan and the same shader, or neither has any. -/
structure SameShader (options : Options Single) (objects others : List (SceneObject Single)) :
    Prop where
  plan (p : Plan Single) : plan objects options = .ok p ↔ plan others options = .ok p
  source (text : String) : generate objects options = .ok text ↔ generate others options = .ok text

theorem generate_eq_ok_iff {objects : List (SceneObject Single)} {options : Options Single}
    {text : String} :
    generate objects options = .ok text ↔
      ∃ p, plan objects options = .ok p ∧ p.module.write = text := by
  rw [generate, Outcome.bind_eq_ok]
  exact exists_congr fun p => and_congr_right fun _ => by simp [pure, Except.pure]

theorem SameFirsts.sameShader {objects others : List (SceneObject Single)}
    (same : SameFirsts objects others) (options : Options Single) :
    SameShader options objects others := by
  have plans (p : Plan Single) : plan objects options = .ok p ↔ plan others options = .ok p :=
    ⟨same.plan_ok, same.symm.plan_ok⟩
  refine ⟨plans, fun text => ?_⟩
  rw [generate_eq_ok_iff, generate_eq_ok_iff]
  exact exists_congr fun p => and_congr_left' (plans p)

/-- The shader depends on the first object of each id only. So objects with ids of their own may
come in any order, and an object may be put in behind another one of its id, whatever it is. -/
theorem first_objects_determine_shader (options : Options Single) :
    (∀ objects others, SameFirsts objects others → SameShader options objects others) ∧
      (∀ objects others, (objects.map (·.id)).Nodup → objects.Perm others →
        SameShader options objects others) ∧
      ∀ before later duplicate, duplicate.id ∈ before.map (·.id) →
        SameShader options (before ++ later) (before ++ duplicate :: later) := by
  refine ⟨?_, ?_, ?_⟩
  · intro objects others same
    exact same.sameShader options
  · intro objects others ids perm
    exact (SameFirsts.of_perm ids perm).sameShader options
  · intro before later duplicate listed
    exact (SameFirsts.of_duplicate listed later).sameShader options

def ballBesideBox : List (SceneObject Single) := [
  ⟨4, .sphere Vec3.zero 1.0, .glass, .standard⟩,
  ⟨1, .solid (.primitive .box (Vec3.splat 3.0) (Vec3.splat 1.0)), .light, .standard⟩]

def deepBall : SceneObject Single :=
  ⟨4, .solid (Nat.repeat (Sdf.translate (Vec3.splat 1.0)) Sdf.maxDepth
    (.primitive .sphere Vec3.zero (Vec3.splat 1.0))), .lambert, .standard⟩

def boxBesideBalls : List (SceneObject Single) := ballBesideBox.reverse ++ [deepBall]

theorem boxBesideBalls_shader :
    Sdf.maxDepth < deepBall.shape.toSdf.depth ∧ SameFirsts ballBesideBox boxBesideBalls ∧
      ∃ p, plan ballBesideBox .standard = .ok p ∧ plan boxBesideBalls .standard = .ok p := by
  have same : SameFirsts ballBesideBox boxBesideBalls := by
    intro id
    have turned := SameFirsts.of_perm (by decide) (List.reverse_perm ballBesideBox).symm id
    have longer : SameFirsts (ballBesideBox.reverse ++ []) boxBesideBalls :=
      .of_duplicate (by decide) []
    rw [List.append_nil] at longer
    exact turned.trans (longer id)
  obtain ⟨p, planned⟩ : ∃ p, plan ballBesideBox .standard = .ok p :=
    plan_succeeds (by decide) (by decide)
  have shaders := (first_objects_determine_shader .standard).1 _ _ same
  exact ⟨by decide, same, p, planned, (shaders.plan p).mp planned⟩

end RayScene.Shader
