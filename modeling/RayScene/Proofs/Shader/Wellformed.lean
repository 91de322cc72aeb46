import RayScene.Proofs.Shader.Declarations
import RayScene.Proofs.Shader.Spelling

/-!
Every shader text that is generated is closed and free of duplicates, and it scatters rays at each
object by the object's own material and color.
-/

namespace RayScene.Shader

open Wgsl

/-- A text has one case for each object where rays are scattered. The case calls the function of
the object's material with that of its color, and both functions are in the text. -/
structure Scatters (text : String) (objects : List (SceneObject Single)) : Prop where
  cases : (labelled (functionEvents "object_scatter" text)).Perm (objects.map fun o =>
    (o.id.toNat, [.function (scatterName o.material), .function (albedoName o.id)]))
  labels : ((labelled (functionEvents "object_scatter" text)).map (·.1)).Nodup
  material : ∀ o ∈ objects, (scatterFor o.material).write.toList <:+: text.toList
  color : ∀ o ∈ objects, (albedo o.id o.color).write.toList <:+: text.toList

theorem scatterCase_mentions (id : UInt32) (material : Material) :
    blockMentions scatterScope (scatterCase id material : Nat × List (Stmt Single)).2 =
      [.function (scatterName material), .function (albedoName id)] := by
  have apart : startsIn scatterLetters (scatterName material) = false := by
    cases material <;> decide
  have initial : (albedoName id).toList.head? = some 'a' :=
    initial_append (toString id) (by decide)
  have away : startsIn scatterLetters (albedoName id) = false := by
    rw [startsIn_eq initial]
    decide
  -- No function is hidden by a local name here, and the local names are no names of the module.
  have bound : ∀ name ∈ scatterScope, variableMentions scatterScope name = [] :=
    fun _ => variableMentions_bound
  simp [scatterCase, blockMentions, Stmt.mentions, Expr.dot, Expr.mentions, mentionsOfAll,
    callee_eq scatterScope_lettered apart, callee_eq scatterScope_lettered away,
    bound "result" (by decide), bound "r" (by decide), bound "hit" (by decide)]

theorem objectScatter_labelled (materials : List (UInt32 × Material)) :
    labelled (objectScatter materials : Function Single).innerEvents =
      materials.map fun entry =>
        (entry.1.toNat, [.function (scatterName entry.2), .function (albedoName entry.1)]) := by
  have plain : ∀ c ∈ materials.map fun entry => (scatterCase entry.1 entry.2 :
      Nat × List (Stmt Single)), ∀ e ∈ blockEvents scatterScope c.2, e.isLabel = false := by
    intro c member
    obtain ⟨entry, -, rfl⟩ := List.mem_map.mp member
    exact List.forall_mem_append.mpr ⟨uses_plain _, List.forall_mem_nil _⟩
  have cases := labelled_cases scatterScope plain
  rw [List.map_map] at cases
  have each : (fun c : Nat × List (Stmt Single) => (c.1, blockMentions scatterScope c.2)) ∘
      (fun entry : UInt32 × Material => scatterCase entry.1 entry.2) = fun entry =>
        (entry.1.toNat, [.function (scatterName entry.2), .function (albedoName entry.1)]) :=
    funext fun entry => congrArg (Prod.mk entry.1.toNat) (scatterCase_mentions entry.1 entry.2)
  rw [each] at cases
  have returned : blockEvents (S := Single) scatterScope [.ret (.var "result")] = [] := by
    simp [blockEvents, Stmt.events, Expr.mentions, uses,
      variableMentions_bound (by decide : "result" ∈ scatterScope)]
  have body : blockEvents ["object_id", "r", "hit"] (objectScatter materials : Function Single).body =
      uses _ ++ ((uses _ ++ caseEvents scatterScope (materials.map fun entry =>
        scatterCase entry.1 entry.2)) ++ blockEvents scatterScope [.ret (.var "result")]) := rfl
  rw [returned, List.append_nil] at body
  rw [← cases, Function.innerEvents, labelled_append (uses_plain _)]
  refine (congrArg labelled body).trans ?_
  rw [labelled_append (uses_plain _), labelled_append (uses_plain _)]

theorem objectScatter_placed {p : Plan Single} (screen : p.target = .screen) :
    .function (objectScatter (p.shadings.map fun shading => (shading.1, shading.2.1))) ::
      (p.entryPoints.map EntryPoint.function).map .function <:+ p.module.items := by
  have functions : ∃ front, p.objectFunctions = front ++ [objectScatter (p.shadings.map
      fun shading => (shading.1, shading.2.1))] := by
    unfold Plan.objectFunctions
    rw [screen]
    exact ⟨_, (List.append_assoc ..).symm⟩
  obtain ⟨before, functions⟩ := functions
  rw [Plan.module_items, functions]
  refine List.IsSuffix.trans ?_ (List.suffix_cons ..)
  iterate 5 refine List.suffix_append_of_suffix ?_
  exact ⟨before.map .function, by simp⟩

section Dispatch

variable {options : Options Single} (screen : options.target = .screen)
  (objects : List (SceneObject Single))

include screen

theorem shadings_perm :
    (planOf options objects).shadings.Perm
      ((distinct objects).map fun o => (o.id, o.material, o.color)) := by
  have each : (fun part : ObjectPart Single => part.shading.map (part.id, ·)) ∘
      objectPart options = some ∘ fun o => (o.id, o.material, o.color) := by
    funext o
    rw [Function.comp_apply, objectPart_shading, if_pos screen, objectPart_id]
    rfl
  have sorted : (planOf options objects).objects.Perm (parts options objects) :=
    List.mergeSort_perm _ _
  have perm := sorted.filterMap fun part => part.shading.map (part.id, ·)
  rw [parts, List.filterMap_map, each, List.filterMap_eq_map] at perm
  exact perm

theorem mem_shadings {o : SceneObject Single} (counts : o ∈ distinct objects) :
    (o.id, o.material, o.color) ∈ (planOf options objects).shadings :=
  (shadings_perm screen objects).mem_iff.mpr (List.mem_map_of_mem counts)

theorem planOf_scatters (parsed : ∀ o ∈ objects, o.color.Parsed) :
    Scatters (planOf options objects).module.write (distinct objects) := by
  have spelled : (planOf options objects).module.Spelled := planOf_spelled parsed
  obtain ⟨front, placed⟩ := objectScatter_placed (p := planOf options objects) screen
  have found := functionEvents_write spelled (itemNames_nodup options objects) placed.symm
  have cases := objectScatter_labelled ((planOf options objects).shadings.map fun shading =>
    (shading.1, shading.2.1))
  rw [← found, List.map_map] at cases
  have perm := (shadings_perm screen objects).map fun shading =>
    (shading.1.toNat, [Mention.function (scatterName shading.2.1), .function (albedoName shading.1)])
  rw [List.map_map] at perm
  have listed : labelled (functionEvents "object_scatter" (planOf options objects).module.write) =
    _ := cases
  constructor
  · rw [listed]
    exact perm
  · rw [listed, List.map_map]
    refine List.pairwise_map.mpr ((kept_ids_pairwise ObjectPart.shading
      (objects_ids_nodup options objects)).imp ?_)
    intro a b different same
    exact different (UInt32.toNat_inj.mp same)
  · intro o counts
    have shaded : (objectPart options o).shading = some (o.material, o.color) := by
      rw [objectPart_shading, if_pos screen]
    have used : .scatter o.material ∈ partRoutines (objectPart options o) :=
      mem_partRoutines.mpr (.inr (.inr ⟨_, shaded, List.mem_cons_self⟩))
    have needed : .scatter o.material ∈ neededRoutines options.target (parts options objects) :=
      mem_neededRoutines.mpr (.inl ⟨_, List.mem_map_of_mem counts, used⟩)
    have inside : .function (scatterFor o.material) ∈
        ((Routine.scatter o.material).items : List (Item Single)) := List.mem_cons_self
    exact Module.infix_write (Plan.mem_module_items.mpr
      (.inr (.inr (.inr (.inr (.inr (.inl ⟨_, needed, inside⟩)))))))
  · intro o counts
    have listed := mem_shadings screen objects counts
    exact Module.infix_write (function_item (Plan.mem_objectFunctions.mpr
      (.inr (.inr (.inl ⟨screen, .inr (.inl ⟨_, listed, rfl⟩)⟩)))))

end Dispatch

/-- Whatever a generated text uses is declared in it exactly once or belongs to the language, no
two declarations share a name and no two bindings a number. Every entry point is in the text, and
where rays are scattered each object that counts has its own case. -/
theorem generate_wellformed {objects : List (SceneObject Single)} {options : Options Single}
    (parsed : ∀ o ∈ objects, o.color.Parsed) {text : String}
    (generated : generate objects options = .ok text) :
    Closed text ∧ ((declarations text).map Mention.name).Nodup ∧ (bindingNumbers text).Nodup ∧
      (∀ entry ∈ entryPoints options,
        (entry.function : Function Single).write.toList <:+: text.toList) ∧
      (options.target = .screen → Scatters text (distinct objects)) := by
  obtain ⟨p, planned, rfl⟩ : ∃ p, plan objects options = .ok p ∧ p.module.write = text := by
    unfold generate at generated
    obtain ⟨p, planned, written⟩ := Outcome.bind_eq_ok.mp generated
    exact ⟨p, planned, Except.ok.inj written⟩
  obtain ⟨-, -, rfl⟩ := plan_eq_ok_iff.mp planned
  have spelled : (planOf options objects).module.Spelled := planOf_spelled parsed
  have names := itemNames_nodup options objects
  have closed := Module.closed names (itemNames_apart options objects) mentions_known
  refine ⟨closed_write spelled closed, ?_, ?_, fun entry listed => ?_,
    fun screen => planOf_scatters screen objects parsed⟩
  · rw [names_write spelled]
    exact names
  · rw [bindingNumbers_write spelled, items_bindings]
    exact bindings_distinct options
  · exact Module.infix_write (entryPoint_item listed)

def crowdedObjects : List (SceneObject Single) := [
  ⟨7, .solid (.smoothUnion 0.5 [.primitive .sphere (Vec3.splat 0.0) (Vec3.splat 1.0),
    .rotate (Vec3.splat 30.0) (.primitive .box (Vec3.splat 1.0) (Vec3.splat 1.0))]), .glass,
    .expression "abs(n)" (.call .abs [.input .normal])⟩,
  ⟨2, .sphere (Vec3.splat 3.0) 1.0, .fuzzyMetal, .literal (Vec3.splat 0.8)⟩,
  ⟨7, .sphere (Vec3.splat 5.0) 1.0, .light, .literal (Vec3.splat 1.0)⟩]

theorem crowdedObjects_wellformed :
    (∀ o ∈ crowdedObjects, o.color.Parsed) ∧
      ∃ text, generate crowdedObjects .standard = .ok text ∧ Closed text ∧
        ((declarations text).map Mention.name).Nodup ∧ (bindingNumbers text).Nodup ∧
        (∀ entry ∈ entryPoints (.standard : Options Single),
          (entry.function : Function Single).write.toList <:+: text.toList) ∧
        (Target.screen = .screen → Scatters text (distinct crowdedObjects)) := by
  have parses : Color.parse "abs(n)" = .ok (.call .abs [.input .normal]) := by
    have tokenized : Color.tokenize "abs(n)".toList =
        .ok [⟨.name "abs", 1⟩, ⟨.symbol '(', 4⟩, ⟨.name "n", 5⟩, ⟨.symbol ')', 6⟩] := by
      decide +kernel
    rw [Color.parse, tokenized, Outcome.ok_bind]
    rfl
  have parsed : ∀ o ∈ crowdedObjects, o.color.Parsed :=
    List.forall_mem_cons.mpr ⟨parses, List.forall_mem_cons.mpr ⟨trivial,
      List.forall_mem_singleton.mpr trivial⟩⟩
  obtain ⟨p, planned⟩ : ∃ p, plan crowdedObjects .standard = .ok p :=
    plan_succeeds (by decide) (by decide)
  have generated : generate crowdedObjects .standard = .ok p.module.write := by
    rw [generate, planned]
    rfl
  exact ⟨parsed, _, generated, generate_wellformed parsed generated⟩

end RayScene.Shader
