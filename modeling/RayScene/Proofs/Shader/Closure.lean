import RayScene.Proofs.Shader.Contents

namespace RayScene.Shader

open Wgsl

section Known

variable {options : Options Single} {objects : List (SceneObject Single)}

variable (options objects) in
abbrev planOf : Plan Single := planned options (parts options objects)

variable (options objects) in
def Known (mention : Mention) : Prop :=
  mention ∈ builtins ∨ mention ∈ (planOf options objects).module.declares

theorem known_of_item {item : Item Single} (member : item ∈ (planOf options objects).module.items)
    {mention : Mention} (declared : mention ∈ item.declares) : Known options objects mention :=
  .inr (List.mem_flatMap.mpr ⟨item, member, declared⟩)

theorem known_basis : Basis (Known options objects) where
  language _ builtin := .inl builtin
  constants mention constant := by
    obtain ⟨⟨name, value⟩, listed, rfl⟩ : ∃ entry ∈ constants options, .value entry.1 = mention :=
      List.mem_map.mp constant
    have member : value.item name ∈ (planOf options objects).module.items :=
      Plan.mem_module_items.mpr (.inr (.inl ⟨(name, value), listed, rfl⟩))
    refine known_of_item member ?_
    cases value <;> exact List.mem_singleton_self _

theorem known_struct {mention : Mention}
    (declared : mention ∈ (structs options.target : List (Item Single)).flatMap Item.declares) :
    Known options objects mention := by
  obtain ⟨item, member, found⟩ := List.mem_flatMap.mp declared
  exact known_of_item (Plan.mem_module_items.mpr (.inr (.inr (.inl member)))) found

theorem known_binding {binding : Binding} (listed : binding ∈ bindings options) :
    Known options objects (.value binding.name) := by
  have member : binding.item ∈ (planOf options objects).module.items :=
    Plan.mem_module_items.mpr (.inr (.inr (.inr (.inl ⟨binding, listed, rfl⟩))))
  refine known_of_item member ?_
  unfold Binding.item
  split <;> exact List.mem_singleton_self _

theorem known_routine {routine : Routine}
    (needed : routine ∈ neededRoutines options.target (parts options objects))
    {mention : Mention} (declared : mention ∈ routine.declares) :
    Known options objects mention := by
  obtain ⟨item, member, found⟩ := List.mem_flatMap.mp declared
  exact known_of_item (Plan.mem_module_items.mpr
    (.inr (.inr (.inr (.inr (.inr (.inl ⟨routine, needed, member⟩))))))) found

theorem function_item {f : Function Single} (made : f ∈ (planOf options objects).objectFunctions) :
    .function f ∈ (planOf options objects).module.items :=
  Plan.mem_module_items.mpr (.inr (.inr (.inr (.inr (.inr (.inr (.inl ⟨f, made, rfl⟩)))))))

theorem entryPoint_item {entry : EntryPoint} (listed : entry ∈ entryPoints options) :
    .function entry.function ∈ (planOf options objects).module.items :=
  Plan.mem_module_items.mpr (.inr (.inr (.inr (.inr (.inr (.inr (.inr ⟨entry, listed, rfl⟩)))))))

theorem known_function {f : Function Single} (made : f ∈ (planOf options objects).objectFunctions) :
    Known options objects (.function f.name) :=
  known_of_item (function_item made) (List.mem_singleton_self _)

def targetBindings : Target → List Binding
  | .screen => [.camera, .frame, .accumTexture]
  | .grid => [.exportParams, .exportValues]

theorem bindings_sublist (options : Options Single) :
    (bindings options).Sublist (targetBindings options.target) := by
  obtain ⟨realTime, samples, mode, camera, target⟩ := options
  cases target <;> cases camera <;> cases realTime <;> simp [bindings, targetBindings]

theorem frame_bound (screen : options.target = .screen) : .frame ∈ bindings options := by
  simp [bindings, screen]

theorem camera_bound (screen : options.target = .screen) (filled : options.camera = .uniform) :
    .camera ∈ bindings options := by
  simp [bindings, screen, filled]

theorem accumTexture_bound (screen : options.target = .screen) (summed : options.realTime = false) :
    .accumTexture ∈ bindings options := by
  simp [bindings, screen, summed]

theorem exports_bound (grid : options.target = .grid) :
    .exportParams ∈ bindings options ∧ .exportValues ∈ bindings options := by
  simp [bindings, grid]

theorem known_screenContext (screen : options.target = .screen) :
    ∀ mention ∈ screenContext, Known options objects mention := by
  intro mention listed
  rcases List.mem_append.mp listed with declared | listed
  · rw [← screen] at declared
    exact known_struct declared
  · simp only [List.mem_cons, List.not_mem_nil, or_false] at listed
    rcases listed with rfl | rfl | rfl | rfl
    · exact known_binding (frame_bound screen)
    · have member : .function (activeCamera options.camera) ∈
          (planOf options objects).module.items :=
        Plan.mem_module_items.mpr (.inr (.inr (.inr (.inr (.inl ⟨screen, rfl⟩)))))
      exact known_of_item member (List.mem_singleton_self _)
    · exact known_function (Plan.mem_objectFunctions.mpr (.inr (.inr (.inl ⟨screen, .inl rfl⟩))))
    · exact known_function (Plan.mem_objectFunctions.mpr
        (.inr (.inr (.inl ⟨screen, .inr (.inr rfl)⟩))))

theorem constant_mentions (name : String) (value : ConstantValue Single) :
    (value.item name).mentions = [] := by
  cases value <;> rfl

theorem structs_mentions (target : Target) :
    ∀ item ∈ (structs target : List (Item Single)), ∀ mention ∈ item.mentions,
      mention ∈ (structs target : List (Item Single)).flatMap Item.declares := by
  cases target <;> decide

theorem binding_mentions {target : Target} :
    ∀ binding ∈ targetBindings target, ∀ mention ∈ (binding.item : Item Single).mentions,
      mention ∈ (structs target : List (Item Single)).flatMap Item.declares := by
  cases target <;> decide

theorem marched_ne_nil {part : ObjectPart Single} (member : part ∈ parts options objects)
    (field : part.field.isSome) : (planOf options objects).marched ≠ [] := by
  obtain ⟨tree, found⟩ := Option.isSome_iff_exists.mp field
  have listed : part ∈ (planOf options objects).objects := List.mem_mergeSort.mpr member
  exact List.ne_nil_of_mem (Plan.mem_marched.mpr ⟨part, listed, rfl, found⟩)

theorem known_sceneSdf (marches : (planOf options objects).marched ≠ []) :
    Known options objects (.function "scene_sdf") :=
  known_function (Plan.mem_objectFunctions.mpr (.inr (.inl ⟨marches, rfl⟩)))

theorem routine_known {routine : Routine}
    (needed : routine ∈ neededRoutines options.target (parts options objects)) :
    ∀ mention ∈ routine.mentions, Known options objects mention := by
  intro mention used
  rcases routine.mentions_known mention used with builtin | constant | ⟨other, listed, declared⟩ |
    outer
  · exact known_basis.language mention builtin
  · exact known_basis.constants mention constant
  · rcases List.mem_cons.mp listed with rfl | required
    · exact known_routine needed declared
    · exact known_routine (requires_needed needed required) declared
  · rcases needed_on_screen needed with screen | ⟨nothing, -⟩
    · cases routine
      case march =>
        rcases List.mem_cons.mp outer with rfl | shared
        · obtain ⟨part, member, field⟩ := field_of_march needed
          exact known_sceneSdf (marched_ne_nil member field)
        · exact known_screenContext screen mention shared
      case primitive | smoothUnion | inverseRotate | repeatDomain => cases outer
      all_goals exact known_screenContext screen mention outer
    · rw [nothing] at outer
      cases outer

theorem known_march (screen : options.target = .screen)
    (marches : (planOf options objects).marched ≠ []) :
    Known options objects (.function "march") := by
  obtain ⟨⟨id, tree⟩, listed⟩ := List.exists_mem_of_ne_nil _ marches
  obtain ⟨part, member, -, field⟩ := Plan.mem_marched.mp listed
  have inside : part ∈ parts options objects := List.mem_mergeSort.mp member
  have marched : part.field.isSome := by rw [field]; rfl
  exact known_routine (mem_neededRoutines.mpr (.inr ⟨screen, .inr ⟨⟨part, inside, marched⟩, rfl⟩⟩))
    (by decide)

theorem known_partRoutine {part : ObjectPart Single} (member : part ∈ (planOf options objects).objects)
    {routine : Routine} (used : routine ∈ partRoutines part) {mention : Mention}
    (declared : mention ∈ routine.declares) : Known options objects mention :=
  known_routine (mem_neededRoutines.mpr (.inl ⟨part, List.mem_mergeSort.mp member, used⟩)) declared

theorem camera_known (screen : options.target = .screen) :
    ∀ mention ∈ (activeCamera options.camera).mentions, Known options objects mention := by
  have context : ∀ mention ∈ screenContext, Known options objects mention :=
    known_screenContext screen
  refine activeCamera_within known_basis _ (context _ (by decide)) (context _ (by decide)) ?_
  intro filled
  exact known_binding (camera_bound screen filled)

theorem field_known {id : UInt32} {tree : Sdf Single}
    (listed : (id, tree) ∈ (planOf options objects).marched) :
    ∀ mention ∈ (FieldChain.function id tree).mentions, Known options objects mention := by
  obtain ⟨part, member, -, field⟩ := Plan.mem_marched.mp listed
  refine FieldChain.function_within known_basis id tree ?_
  intro node inside routine calls mention declared
  have used : routine ∈ partRoutines part :=
    mem_partRoutines.mpr (.inr (.inl ⟨tree, field, node, inside, calls⟩))
  exact known_partRoutine member used declared

theorem sceneSdf_known (marches : (planOf options objects).marched ≠ []) :
    ∀ mention ∈ (sceneSdf ((planOf options objects).marched.map (·.1)) :
      Function Single).mentions, Known options objects mention := by
  refine sceneSdf_within known_basis (by simpa using marches) ?_
  intro id listed
  obtain ⟨field, member, rfl⟩ := List.mem_map.mp listed
  exact known_function (f := FieldChain.function field.1 field.2)
    (Plan.mem_objectFunctions.mpr (.inl ⟨field, member, rfl⟩))

theorem surfaceHit_needed (screen : options.target = .screen) :
    Routine.surfaceHit ∈ neededRoutines options.target (parts options objects) :=
  mem_neededRoutines.mpr (.inr ⟨screen, .inl (by decide)⟩)

theorem sceneHit_known (screen : options.target = .screen) :
    ∀ mention ∈ (sceneHit (planOf options objects).analytic
      (!(planOf options objects).marched.isEmpty)).mentions, Known options objects mention := by
  have context : ∀ mention ∈ screenContext, Known options objects mention :=
    known_screenContext screen
  have surfaces : Routine.surfaceHit ∈ neededRoutines options.target (parts options objects) :=
    surfaceHit_needed screen
  refine sceneHit_within known_basis _ _ (context _ (by decide)) (context _ (by decide))
    (known_routine surfaces (by decide)) ?_ (known_routine surfaces (by decide)) ?_
  · intro spheres
    obtain ⟨sphere, listed⟩ := List.exists_mem_of_ne_nil _ spheres
    obtain ⟨part, member, found⟩ := List.mem_filterMap.mp listed
    have analytic : part.analytic.isSome := by
      cases shape : part.analytic with
      | none => simp [shape] at found
      | some sphere => rfl
    exact known_partRoutine member (mem_partRoutines.mpr (.inl ⟨analytic, rfl⟩)) (by decide)
  · intro marches
    exact known_march screen (by simpa using marches)

theorem objectScatter_known (screen : options.target = .screen) :
    ∀ mention ∈ (objectScatter ((planOf options objects).shadings.map fun shading =>
      (shading.1, shading.2.1)) : Function Single).mentions, Known options objects mention := by
  have context : ∀ mention ∈ screenContext, Known options objects mention :=
    known_screenContext screen
  refine objectScatter_within known_basis _ (context _ (by decide)) (context _ (by decide))
    (context _ (by decide)) (context _ (by decide)) ?_
  intro c listed
  obtain ⟨shading, member, rfl⟩ := List.mem_map.mp listed
  constructor
  · obtain ⟨part, inside, found⟩ := List.mem_filterMap.mp member
    obtain ⟨surface, shaded, rfl⟩ := Option.map_eq_some_iff.mp found
    have used : .scatter surface.1 ∈ partRoutines part :=
      mem_partRoutines.mpr (.inr (.inr ⟨surface, shaded, List.mem_cons_self⟩))
    exact known_partRoutine inside used (Routine.scatter_declares surface.1)
  · exact known_function (f := albedo shading.1 shading.2.2) (Plan.mem_objectFunctions.mpr
      (.inr (.inr (.inl ⟨screen, .inr (.inl ⟨shading, member, rfl⟩)⟩))))

theorem objectFunction_known {f : Function Single}
    (made : f ∈ (planOf options objects).objectFunctions) :
    ∀ mention ∈ f.mentions, Known options objects mention := by
  rcases Plan.mem_objectFunctions.mp made with ⟨field, listed, rfl⟩ | ⟨marches, rfl⟩ |
    ⟨screen, rfl | ⟨shading, -, rfl⟩ | rfl⟩ | ⟨grid, rfl⟩
  · exact field_known listed
  · exact sceneSdf_known marches
  · exact sceneHit_known screen
  · exact albedo_within known_basis shading.1 shading.2.2
  · exact objectScatter_known screen
  · refine gridDistance_within known_basis _ ?_
    intro marches
    exact known_sceneSdf (by simpa using marches)

theorem entryPoint_known {entry : EntryPoint} (listed : entry ∈ entryPoints options) :
    ∀ mention ∈ (entry.function : Function Single).mentions, Known options objects mention := by
  intro mention used
  rcases entry.mentions_known mention used with builtin | outer
  · exact .inl builtin
  · cases target : options.target with
    | grid =>
        have only : entry = .distances := by simpa [entryPoints, target] using listed
        obtain ⟨parameters, values⟩ := exports_bound target
        rw [only] at outer
        simp only [EntryPoint.context, List.mem_cons, List.not_mem_nil, or_false] at outer
        rcases outer with rfl | rfl | rfl
        · exact known_binding parameters
        · exact known_binding values
        · exact known_function (Plan.mem_objectFunctions.mpr (.inr (.inr (.inr ⟨target, rfl⟩))))
    | screen =>
        have shared : ∀ mention ∈ screenContext, Known options objects mention :=
          known_screenContext target
        have traced : Routine.trace ∈ neededRoutines options.target (parts options objects) :=
          mem_neededRoutines.mpr (.inr ⟨target, .inl (by decide)⟩)
        have drawn : ∀ mention ∈ screenContext ++ Routine.trace.declares,
            Known options objects mention :=
          List.forall_mem_append.mpr ⟨shared, fun _ declared => known_routine traced declared⟩
        have summed (slow : options.realTime = false) :
            Known options objects (.value "accum_texture") :=
          known_binding (accumTexture_bound target slow)
        cases entry with
        | vertex => exact shared mention outer
        | realTime => exact drawn mention outer
        | trace | present =>
            have slow : options.realTime = false := by
              cases fast : options.realTime with
              | false => rfl
              | true => simp [entryPoints, target, fast] at listed
            exact List.forall_mem_cons.mpr ⟨summed slow, drawn⟩ mention outer
        | distances => cases fast : options.realTime <;> simp [entryPoints, target, fast] at listed

theorem mentions_known :
    ∀ mention ∈ (planOf options objects).module.mentions, Known options objects mention := by
  intro mention used
  obtain ⟨item, member, found⟩ := List.mem_flatMap.mp used
  rcases Plan.mem_module_items.mp member with rfl | ⟨constant, -, rfl⟩ | listed |
    ⟨binding, listed, rfl⟩ | ⟨screen, rfl⟩ | ⟨routine, needed, inside⟩ | ⟨f, made, rfl⟩ |
    ⟨entry, listed, rfl⟩
  · cases found
  · rw [constant_mentions] at found
    cases found
  · exact known_struct (structs_mentions _ item listed mention found)
  · exact known_struct
      (binding_mentions binding ((bindings_sublist options).subset listed) mention found)
  · exact camera_known screen mention found
  · exact routine_known needed mention (List.mem_flatMap.mpr ⟨item, inside, found⟩)
  · exact objectFunction_known made mention found
  · exact entryPoint_known listed mention found

end Known

end RayScene.Shader
