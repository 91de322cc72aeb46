import Mathlib.Data.List.Flatten
import RayScene.Proofs.Shader.Closure

namespace RayScene.Shader

open Wgsl

def fixedNames : List String :=
  (constants (.standard : Options Single)).map (·.1) ++
    itemNames (structs .screen ++ structs .grid : List (Item Single)) ++
    (targetBindings .screen ++ targetBindings .grid).map (·.name) ++ ["active_camera"] ++
    Routine.all.flatMap (fun routine => itemNames (routine.items : List (Item Single))) ++
    ["scene_sdf", "scene_hit", "object_scatter", "grid_distance"] ++
    EntryPoint.all.map EntryPoint.name

def Numbered (name : String) : Prop :=
  "sdf_object_".toList <+: name.toList ∨ "albedo_".toList <+: name.toList

instance : DecidablePred Numbered := fun _ => inferInstanceAs (Decidable (_ ∨ _))

theorem fixedNames_apart :
    (fixedNames ++ builtinNames).Nodup ∧ ∀ name ∈ fixedNames ++ builtinNames, ¬ Numbered name := by
  decide +kernel

theorem idText_injective {a b : UInt32} (same : toString a = toString b) : a = b := by
  have texts : (Nat.repr a.toNat).toList = (Nat.repr b.toNat).toList := congrArg _ same
  have numbers := congrArg (Nat.ofDigitChars 10 · 0) texts
  simp only [Nat.toList_repr, Nat.ofDigitChars_ten_toDigits] at numbers
  exact UInt32.toNat_inj.mp numbers

theorem functionName_injective {a b : UInt32}
    (same : FieldChain.functionName a = FieldChain.functionName b) : a = b :=
  idText_injective ((String.append_right_inj _).mp same)

theorem albedoName_injective {a b : UInt32} (same : albedoName a = albedoName b) : a = b :=
  idText_injective ((String.append_right_inj _).mp same)

theorem functionName_numbered (id : UInt32) : Numbered (FieldChain.functionName id) := by
  left
  exact ⟨(toString id).toList, (String.toList_append).symm⟩

theorem albedoName_numbered (id : UInt32) : Numbered (albedoName id) := by
  right
  exact ⟨(toString id).toList, (String.toList_append).symm⟩

theorem functionName_ne_albedoName (a b : UInt32) : FieldChain.functionName a ≠ albedoName b := by
  intro same
  have first := functionName_initial a
  have second : (albedoName b).toList.head? = some 'a' :=
    initial_append (toString b) (by decide)
  rw [same, second] at first
  cases first

def plainNames (p : Plan Single) : List String :=
  p.constants.map (·.1) ++ itemNames (structs p.target : List (Item Single)) ++
    p.bindings.map (·.name) ++ (if p.target = .screen then ["active_camera"] else []) ++
    p.routines.flatMap (fun routine => itemNames (routine.items : List (Item Single))) ++
    ((if p.marched.isEmpty then [] else ["scene_sdf"]) ++
      match p.target with
      | .screen => ["scene_hit"] ++ ["object_scatter"]
      | .grid => ["grid_distance"]) ++
    p.entryPoints.map EntryPoint.name

def objectNames (p : Plan Single) : List String :=
  p.marched.map (fun field => FieldChain.functionName field.1) ++
    match p.target with
    | .screen => p.shadings.map fun shading => albedoName shading.1
    | .grid => []

theorem itemNames_append (first second : List (Item Single)) :
    itemNames (first ++ second) = itemNames first ++ itemNames second :=
  List.filterMap_append

theorem itemNames_constants (constants : List (String × ConstantValue Single)) :
    itemNames (constants.map fun (name, value) => value.item name) = constants.map (·.1) := by
  have each : Item.name? ∘ (fun constant : String × ConstantValue Single =>
      constant.2.item constant.1) = some ∘ (·.1) := by
    funext ⟨name, value⟩
    cases value <;> rfl
  rw [itemNames, List.filterMap_map, each, List.filterMap_eq_map]

theorem itemNames_bindings (bindings : List Binding) :
    itemNames (bindings.map Binding.item : List (Item Single)) = bindings.map (·.name) := by
  have each : Item.name? ∘ (Binding.item : Binding → Item Single) = some ∘ (·.name) := by
    funext binding
    simp only [Function.comp_apply, Binding.item]
    split <;> rfl
  rw [itemNames, List.filterMap_map, each, List.filterMap_eq_map]

theorem itemNames_functions (functions : List (Function Single)) :
    itemNames (functions.map .function) = functions.map (·.name) := by
  have each : Item.name? ∘ (.function : Function Single → Item Single) = some ∘ (·.name) := rfl
  rw [itemNames, List.filterMap_map, each, List.filterMap_eq_map]

theorem itemNames_entryPoints (entries : List EntryPoint) :
    itemNames (entries.map fun entry => .function entry.function : List (Item Single)) =
      entries.map EntryPoint.name := by
  have each : Item.name? ∘ (fun entry : EntryPoint =>
      (.function entry.function : Item Single)) = some ∘ EntryPoint.name := by
    funext entry
    cases entry <;> rfl
  rw [itemNames, List.filterMap_map, each, List.filterMap_eq_map]

theorem objectFunctions_names (p : Plan Single) :
    p.objectFunctions.map (·.name) =
      p.marched.map (fun field => FieldChain.functionName field.1) ++
        ((if p.marched.isEmpty then [] else ["scene_sdf"]) ++
        match p.target with
        | .screen => ["scene_hit"] ++ p.shadings.map (fun shading => albedoName shading.1) ++
            ["object_scatter"]
        | .grid => ["grid_distance"]) := by
  have fields : Function.name ∘ (fun field : UInt32 × Sdf Single =>
      FieldChain.function field.1 field.2) = fun field => FieldChain.functionName field.1 := rfl
  have colors : Function.name ∘ (fun shading : UInt32 × Material × SurfaceColor Single =>
      albedo shading.1 shading.2.2) = fun shading => albedoName shading.1 := rfl
  unfold Plan.objectFunctions
  cases p.target <;> simp only [List.map_append, List.map_map, List.map_cons, List.map_nil,
    List.append_assoc, fields, colors, apply_ite (List.map _)] <;> rfl

theorem itemNames_perm (p : Plan Single) :
    (itemNames p.module.items).Perm (plainNames p ++ objectNames p) := by
  have camera : itemNames (if p.target = .screen then
      [.function (activeCamera p.camera)] else [] : List (Item Single)) =
      if p.target = .screen then ["active_camera"] else [] := by
    split <;> rfl
  have routines : itemNames (p.routines.flatMap Routine.items : List (Item Single)) =
      p.routines.flatMap fun routine => itemNames (routine.items : List (Item Single)) :=
    List.filterMap_flatMap ..
  rw [Plan.module_items, ← List.singleton_append]
  simp only [itemNames_append, itemNames_constants, itemNames_bindings, itemNames_functions,
    itemNames_entryPoints, camera, routines, objectFunctions_names]
  unfold plainNames objectNames
  rw [List.perm_iff_count]
  intro name
  have comment : itemNames [(.comment "Generated by shadergen." : Item Single)] = [] := rfl
  cases p.target <;> simp only [comment, List.count_append, List.count_nil] <;> omega

section PlanOf

variable (options : Options Single) (objects : List (SceneObject Single))

theorem entryPoints_sublist : (entryPoints options).Sublist EntryPoint.all := by
  obtain ⟨realTime, samples, mode, camera, target⟩ := options
  cases target <;> cases realTime <;> simp [entryPoints, EntryPoint.all]

theorem plainNames_sublist : (plainNames (planOf options objects)).Sublist fixedNames := by
  have structures : (itemNames (structs options.target : List (Item Single))).Sublist
      (itemNames (structs .screen ++ structs .grid : List (Item Single))) := by
    rw [itemNames_append]
    cases options.target
    · exact List.sublist_append_left _ _
    · exact List.sublist_append_right _ _
  have bound : ((bindings options).map (·.name)).Sublist
      ((targetBindings .screen ++ targetBindings .grid).map (·.name)) := by
    refine ((bindings_sublist options).trans ?_).map _
    cases options.target
    · exact List.sublist_append_left _ _
    · exact List.sublist_append_right _ _
  have routines : ((neededRoutines options.target (parts options objects)).flatMap
      (fun routine => itemNames (routine.items : List (Item Single)))).Sublist
      (Routine.all.flatMap fun routine => itemNames (routine.items : List (Item Single))) :=
    List.filter_sublist.flatMap _
  have functions : ((if (planOf options objects).marched.isEmpty then [] else ["scene_sdf"]) ++
      match options.target with
      | .screen => ["scene_hit"] ++ ["object_scatter"]
      | .grid => ["grid_distance"]).Sublist
      ["scene_sdf", "scene_hit", "object_scatter", "grid_distance"] := by
    cases options.target <;> cases (planOf options objects).marched.isEmpty <;> simp
  have camera : (if options.target = .screen then ["active_camera"] else []).Sublist
      ["active_camera"] := by
    split
    · exact List.Sublist.refl _
    · exact List.nil_sublist _
  exact (((((List.Sublist.refl _).append structures).append bound).append camera).append
    routines).append functions |>.append ((entryPoints_sublist options).map EntryPoint.name)

theorem objects_ids_nodup : ((planOf options objects).objects.map (·.id)).Nodup :=
  ((List.mergeSort_perm _ _).map _).nodup_iff.mpr (parts_ids_nodup options objects)

/-- What is kept of parts, next to their ids, has ids that differ if those of the parts do. -/
theorem kept_ids_pairwise {α : Type} (keep : ObjectPart Single → Option α)
    {parts : List (ObjectPart Single)} (ids : (parts.map (·.id)).Nodup) :
    (parts.filterMap fun part => (keep part).map (part.id, ·)).Pairwise fun a b => a.1 ≠ b.1 := by
  refine List.pairwise_filterMap.mpr ((List.pairwise_map.mp ids).imp ?_)
  intro a b different x first y second
  obtain ⟨_, -, rfl⟩ := Option.map_eq_some_iff.mp first
  obtain ⟨_, -, rfl⟩ := Option.map_eq_some_iff.mp second
  exact different

theorem objectNames_nodup : (objectNames (planOf options objects)).Nodup := by
  have ids := objects_ids_nodup options objects
  have fields : ((planOf options objects).marched.map fun field =>
      FieldChain.functionName field.1).Nodup :=
    List.pairwise_map.mpr ((kept_ids_pairwise ObjectPart.field ids).imp
      fun different same => different (functionName_injective same))
  have colors : ((planOf options objects).shadings.map fun shading =>
      albedoName shading.1).Nodup :=
    List.pairwise_map.mpr ((kept_ids_pairwise ObjectPart.shading ids).imp
      fun different same => different (albedoName_injective same))
  unfold objectNames
  refine List.nodup_append.mpr ⟨fields, ?_, ?_⟩
  · split
    · exact colors
    · exact List.nodup_nil
  · intro name field other color
    obtain ⟨_, -, rfl⟩ := List.mem_map.mp field
    split at color
    · obtain ⟨_, -, rfl⟩ := List.mem_map.mp color
      exact functionName_ne_albedoName _ _
    · cases color

theorem objectNames_numbered : ∀ name ∈ objectNames (planOf options objects), Numbered name := by
  unfold objectNames
  intro name member
  rcases List.mem_append.mp member with field | color
  · obtain ⟨object, -, rfl⟩ := List.mem_map.mp field
    exact functionName_numbered object.1
  · split at color
    · obtain ⟨shading, -, rfl⟩ := List.mem_map.mp color
      exact albedoName_numbered shading.1
    · cases color

theorem itemNames_nodup : (itemNames (planOf options objects).module.items).Nodup := by
  have plain := plainNames_sublist options objects
  refine (itemNames_perm _).nodup_iff.mpr (List.nodup_append.mpr
    ⟨plain.nodup (List.nodup_append.mp fixedNames_apart.1).1, objectNames_nodup options objects, ?_⟩)
  rintro name fixed other object rfl
  exact fixedNames_apart.2 name (List.mem_append_left _ (plain.subset fixed))
    (objectNames_numbered options objects name object)

theorem itemNames_apart :
    ∀ name ∈ itemNames (planOf options objects).module.items, name ∉ builtinNames := by
  intro name member builtin
  rcases List.mem_append.mp ((itemNames_perm _).mem_iff.mp member) with plain | object
  · exact (List.nodup_append.mp fixedNames_apart.1).2.2 name
      ((plainNames_sublist options objects).subset plain) name builtin rfl
  · exact fixedNames_apart.2 name (List.mem_append_right _ builtin)
      (objectNames_numbered options objects name object)

end PlanOf

theorem constant_unbound (name : String) (value : ConstantValue Single) :
    (value.item name).bindings = [] := by
  cases value <;> rfl

theorem structs_unbound (target : Target) :
    (structs target : List (Item Single)).flatMap Item.bindings = [] := by
  cases target <;> rfl

theorem routine_unbound (routine : Routine) :
    (routine.items : List (Item Single)).flatMap Item.bindings = [] := by
  cases routine with
  | primitive kind => cases kind <;> rfl
  | scatter material => cases material <;> rfl
  | _ => rfl

theorem binding_number (binding : Binding) :
    (binding.item : Item Single).bindings = [binding.index] := by
  unfold Binding.item
  split <;> rfl

theorem items_bindings (p : Plan Single) :
    p.module.items.flatMap Item.bindings = p.bindings.map (·.index) := by
  have constants : (p.constants.map fun (name, value) => value.item name).flatMap
      Item.bindings = [] := by
    rw [List.flatMap_map, List.flatMap_eq_nil_iff]
    exact fun constant _ => constant_unbound constant.1 constant.2
  have routines : (p.routines.flatMap Routine.items : List (Item Single)).flatMap
      Item.bindings = [] := by
    rw [List.flatMap_assoc, List.flatMap_eq_nil_iff]
    exact fun routine _ => routine_unbound routine
  have functions {α : Type} (l : List α) (f : α → Function Single) :
      (l.map fun x => Item.function (f x)).flatMap Item.bindings = [] := by
    rw [List.flatMap_map, List.flatMap_eq_nil_iff]
    exact fun _ _ => rfl
  have camera : (if p.target = .screen then
      [.function (activeCamera p.camera)] else [] : List (Item Single)).flatMap
      Item.bindings = [] := by
    split <;> rfl
  have bound : (p.bindings.map Binding.item : List (Item Single)).flatMap Item.bindings =
      p.bindings.map (·.index) := by
    rw [List.flatMap_map, List.map_eq_flatMap]
    exact congrArg (p.bindings.flatMap ·) (funext binding_number)
  rw [Plan.module_items, List.flatMap_cons]
  simp only [Item.bindings, List.flatMap_append, constants, structs_unbound, bound, camera,
    routines, functions, List.nil_append, List.append_nil]

theorem bindings_distinct (options : Options Single) :
    ((bindings options).map (·.index)).Nodup := by
  refine List.Nodup.sublist ((bindings_sublist options).map _) ?_
  cases options.target <;> decide

end RayScene.Shader
