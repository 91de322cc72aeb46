import RayScene.Proofs.Shader.Emitted
import RayScene.Proofs.Shader.Planning

namespace RayScene.Shader

open Wgsl

section Routines

variable {S : Type}

theorem mem_partRoutines {part : ObjectPart S} {routine : Routine} :
    routine ∈ partRoutines part ↔
      (part.analytic.isSome ∧ routine = .hitSphere) ∨
      (∃ tree, part.field = some tree ∧ ∃ node ∈ tree.subtrees, nodeRoutine? node = some routine) ∨
      ∃ shading, part.shading = some shading ∧ routine ∈ materialRoutines shading.1 := by
  unfold partRoutines
  rw [List.append_assoc, List.mem_append, List.mem_append]
  refine or_congr ?_ (or_congr ?_ ?_)
  · cases part.analytic <;> simp
  · cases part.field <;> simp
  · cases part.shading <;> simp

theorem mem_neededRoutines {target : Target} {parts : List (ObjectPart S)} {routine : Routine} :
    routine ∈ neededRoutines target parts ↔
      (∃ part ∈ parts, routine ∈ partRoutines part) ∨
      target = .screen ∧ (routine ∈ screenRoutines ∨
        (∃ part ∈ parts, part.field.isSome) ∧ routine = .march) := by
  unfold neededRoutines
  simp only [List.mem_filter, routine.mem_all, true_and, List.contains_iff_mem, List.mem_append,
    List.mem_flatMap]
  refine or_congr Iff.rfl ?_
  cases target with
  | grid => simp
  | screen =>
      by_cases marches : parts.any (·.field.isSome) = true
      · have fielded := List.any_eq_true.mp marches
        simp [marches, fielded]
      · have unfielded : ¬ ∃ part ∈ parts, part.field.isSome = true :=
          fun fielded => marches (List.any_eq_true.mpr fielded)
        simp [marches, unfielded]

theorem requires_listed (routine : Routine) :
    routine.requires ⊆ screenRoutines ∨
      ∃ material, routine = .scatter material ∧
        routine.requires ⊆ screenRoutines ++ materialRoutines material := by
  cases routine with
  | scatter material => exact .inr ⟨material, rfl, by cases material <;> decide⟩
  | primitive kind => exact .inl (List.nil_subset _)
  | _ => exact .inl (by decide)

end Routines

section Parts

variable {options : Options Single} {objects : List (SceneObject Single)}

theorem screen_of_analytic {part : ObjectPart Single} (member : part ∈ parts options objects)
    (analytic : part.analytic.isSome) : options.target = .screen := by
  obtain ⟨o, -, rfl⟩ := List.mem_map.mp member
  rw [objectPart_analytic, Options.marches, Options.marchesAll] at analytic
  cases same : options.target with
  | screen => rfl
  | grid => simp [same] at analytic

theorem screen_of_shading {part : ObjectPart Single} (member : part ∈ parts options objects)
    {shading : Material × SurfaceColor Single} (shaded : part.shading = some shading) :
    options.target = .screen := by
  obtain ⟨o, -, rfl⟩ := List.mem_map.mp member
  rw [objectPart_shading] at shaded
  split at shaded
  next screen => exact screen
  next => cases shaded

theorem needed_on_screen {routine : Routine}
    (needed : routine ∈ neededRoutines options.target (parts options objects)) :
    options.target = .screen ∨ routine.context = [] ∧ routine.requires = [] := by
  rcases mem_neededRoutines.mp needed with ⟨part, member, used⟩ | ⟨screen, -⟩
  · rcases mem_partRoutines.mp used with ⟨analytic, -⟩ | ⟨tree, -, node, -, calls⟩ |
      ⟨shading, shaded, -⟩
    · exact .inl (screen_of_analytic member analytic)
    · right
      cases node <;> simp only [nodeRoutine?, Option.some.injEq, reduceCtorEq] at calls <;>
        subst calls <;> exact ⟨rfl, rfl⟩
    · exact .inl (screen_of_shading member shaded)
  · exact .inl screen

theorem requires_needed {routine : Routine}
    (needed : routine ∈ neededRoutines options.target (parts options objects)) :
    routine.requires ⊆ neededRoutines options.target (parts options objects) := by
  rcases needed_on_screen needed with screen | ⟨-, alone⟩
  · have always : screenRoutines ⊆ neededRoutines options.target (parts options objects) :=
      fun other member => mem_neededRoutines.mpr (.inr ⟨screen, .inl member⟩)
    rcases requires_listed routine with listed | ⟨material, rfl, listed⟩
    · exact List.Subset.trans listed always
    · intro other member
      rcases List.mem_append.mp (listed member) with member | member
      · exact always member
      · rcases mem_neededRoutines.mp needed with ⟨part, inside, used⟩ | ⟨-, fixed | ⟨-, wrong⟩⟩
        · rcases mem_partRoutines.mp used with ⟨-, wrong⟩ | ⟨tree, -, node, -, wrong⟩ |
            ⟨shading, shaded, scatters⟩
          · cases wrong
          · cases node <;> simp [nodeRoutine?] at wrong
          · have same : material = shading.1 := by
              cases kind : shading.1 <;> simpa [kind, materialRoutines] using scatters
            rw [same] at member
            exact mem_neededRoutines.mpr
              (.inl ⟨part, inside, mem_partRoutines.mpr (.inr (.inr ⟨shading, shaded, member⟩))⟩)
        · simp [screenRoutines] at fixed
        · cases wrong
  · rw [alone]
    exact List.nil_subset _

/-- Rays are marched only where some object has a field. -/
theorem field_of_march
    (needed : .march ∈ neededRoutines options.target (parts options objects)) :
    ∃ part ∈ parts options objects, part.field.isSome := by
  rcases mem_neededRoutines.mp needed with ⟨part, -, used⟩ | ⟨-, fixed | ⟨field, -⟩⟩
  · rcases mem_partRoutines.mp used with ⟨-, wrong⟩ | ⟨tree, -, node, -, wrong⟩ |
      ⟨shading, -, wrong⟩
    · cases wrong
    · cases node <;> simp [nodeRoutine?] at wrong
    · cases kind : shading.1 <;> simp [kind, materialRoutines] at wrong
  · simp [screenRoutines] at fixed
  · exact field

end Parts

namespace Plan

variable {S : Type} [Scalar S] {p : Plan S}

theorem module_items (p : Plan S) :
    p.module.items = .comment "Generated by shadergen." ::
      (p.constants.map (fun (name, value) => value.item name) ++ (structs p.target ++
      (p.bindings.map Binding.item ++
      ((if p.target = .screen then [.function (activeCamera p.camera)] else []) ++
      (p.routines.flatMap Routine.items ++ (p.objectFunctions.map .function ++
      p.entryPoints.map fun entry => .function entry.function)))))) := by
  have alone (items : List (Item S)) : (items.map ([·])).flatten = items := by
    rw [← List.flatMap_def, List.flatMap_singleton']
  unfold Plan.module Module.items
  simp only [List.cons_append, List.flatten_cons, List.flatten_append, List.nil_append,
    List.append_assoc, alone]
  split <;> simp

theorem mem_module_items {item : Item S} :
    item ∈ p.module.items ↔ item = .comment "Generated by shadergen." ∨
      (∃ constant ∈ p.constants, constant.2.item constant.1 = item) ∨ item ∈ structs p.target ∨
      (∃ binding ∈ p.bindings, binding.item = item) ∨
      (p.target = .screen ∧ item = .function (activeCamera p.camera)) ∨
      (∃ routine ∈ p.routines, item ∈ routine.items) ∨
      (∃ f ∈ p.objectFunctions, .function f = item) ∨
      ∃ entry ∈ p.entryPoints, .function entry.function = item := by
  have camera : item ∈ (if p.target = .screen then
      [.function (activeCamera p.camera)] else [] : List (Item S)) ↔
      p.target = .screen ∧ item = .function (activeCamera p.camera) := by
    split
    next screen => rw [List.mem_singleton, and_iff_right screen]
    next other => exact iff_of_false List.not_mem_nil fun both => other both.1
  rw [module_items]
  simp only [List.mem_cons, List.mem_append, List.mem_map, List.mem_flatMap, camera]

theorem mem_objectFunctions {f : Function S} :
    f ∈ p.objectFunctions ↔
      (∃ field ∈ p.marched, FieldChain.function field.1 field.2 = f) ∨
      (p.marched ≠ [] ∧ f = sceneSdf (p.marched.map (·.1))) ∨
      (p.target = .screen ∧ (f = sceneHit p.analytic (!p.marched.isEmpty) ∨
        (∃ shading ∈ p.shadings, albedo shading.1 shading.2.2 = f) ∨
        f = objectScatter (p.shadings.map fun shading => (shading.1, shading.2.1)))) ∨
      (p.target = .grid ∧ f = gridDistance (!p.marched.isEmpty)) := by
  have together : f ∈ (if p.marched.isEmpty then [] else [sceneSdf (p.marched.map (·.1))]) ↔
      p.marched ≠ [] ∧ f = sceneSdf (p.marched.map (·.1)) := by
    cases p.marched with
    | nil => exact iff_of_false List.not_mem_nil fun both => both.1 rfl
    | cons field rest =>
        have marches : field :: rest ≠ [] := List.cons_ne_nil field rest
        exact List.mem_singleton.trans (and_iff_right marches).symm
  unfold objectFunctions
  simp only [List.mem_append, List.mem_map, together, or_assoc]
  refine or_congr Iff.rfl (or_congr Iff.rfl ?_)
  cases p.target with
  | screen => simp only [List.mem_cons, List.mem_append, List.mem_map, List.not_mem_nil, or_false,
      true_and, reduceCtorEq, false_and, or_assoc]
  | grid => simp only [List.mem_singleton, true_and, reduceCtorEq, false_and, false_or]

omit [Scalar S] in
theorem mem_marched {id : UInt32} {tree : Sdf S} :
    (id, tree) ∈ p.marched ↔ ∃ part ∈ p.objects, part.id = id ∧ part.field = some tree := by
  simp only [marched, List.mem_filterMap, Option.map_eq_some_iff, Prod.mk.injEq]
  constructor
  · rintro ⟨part, member, other, field, same, rfl⟩
    exact ⟨part, member, same, field⟩
  · rintro ⟨part, member, same, field⟩
    exact ⟨part, member, tree, field, same, rfl⟩

end Plan

end RayScene.Shader
