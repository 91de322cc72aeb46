import RayScene.Proofs.Number.Whole
import RayScene.Proofs.Shader.Comparison

/-!
The field of a whole scene in a shader. Reading the function of each marched object as the distance
of the object, the shader finds the first one of the closest marched objects, and on a grid it
returns the distance of the scene.
-/

namespace RayScene.Shader

open Wgsl

section Marched

variable (options : Options Single) (objects : List (SceneObject Single))

def marchedObjects : List (SceneObject Single) :=
  (objects.mergeSort fun a b => a.id ≤ b.id).filter fun o => options.marches o.shape

variable {options objects}

theorem mem_marchedObjects {o : SceneObject Single} :
    o ∈ marchedObjects options objects ↔ o ∈ objects.filter fun o => options.marches o.shape := by
  rw [marchedObjects, List.mem_filter, List.mem_filter, List.mem_mergeSort]

theorem marchedObjects_cons (marches : ∃ o ∈ objects, options.marches o.shape = true) :
    ∃ o rest, marchedObjects options objects = o :: rest := by
  obtain ⟨o, member, marched⟩ := marches
  have inside : o ∈ marchedObjects options objects :=
    mem_marchedObjects.mpr (List.mem_filter.mpr ⟨member, marched⟩)
  exact List.exists_cons_of_ne_nil (List.ne_nil_of_mem inside)

theorem marchedObjects_of_grid (grid : options.target = .grid) :
    marchedObjects options objects = objects.mergeSort fun a b => a.id ≤ b.id := by
  refine List.filter_eq_self.mpr ?_
  intro o _
  simp [Options.marches, Options.marchesAll, grid]

theorem marchedObjects_sorted (ids : (objects.map (·.id)).Nodup) :
    (marchedObjects options objects).Pairwise (·.id < ·.id) :=
  (mergeSort_ascending SceneObject.id ids).filter _

theorem marchedObjects_ids (ids : (objects.map (·.id)).Nodup) :
    ((marchedObjects options objects).map (·.id)).Nodup :=
  List.pairwise_map.mpr ((marchedObjects_sorted ids).imp UInt32.ne_of_lt)

theorem planOf_marched (ids : (objects.map (·.id)).Nodup) :
    (planOf options objects).marched =
      (marchedObjects options objects).map fun o => (o.id, o.shape.toSdf) := by
  have sorted : (planOf options objects).objects =
      (objects.mergeSort fun a b => a.id ≤ b.id).map (objectPart options) := by
    show ((distinct objects).map (objectPart options)).mergeSort _ = _
    rw [distinct_eq_self ids]
    refine (List.map_mergeSort ?_).symm
    intro a _ b _
    rw [objectPart_id, objectPart_id]
  have each : (fun part : ObjectPart Single => part.field.map (part.id, ·)) ∘
      objectPart options = fun o =>
        if options.marches o.shape then some (o.id, o.shape.toSdf) else none := by
    funext o
    rw [Function.comp_apply, objectPart_field, objectPart_id]
    split <;> rfl
  rw [Plan.marched, sorted, List.filterMap_map, each, marchedObjects]
  induction objects.mergeSort fun a b => a.id ≤ b.id with
  | nil => rfl
  | cons o rest ih =>
      by_cases marches : options.marches o.shape = true
      · simp [marches, ih]
      · simp [marches, ih]

theorem planOf_marched_ids (ids : (objects.map (·.id)).Nodup) :
    (planOf options objects).marched.map (·.1) = (marchedObjects options objects).map (·.id) := by
  rw [planOf_marched ids, List.map_map]
  rfl

end Marched

def fieldsOf (objects : List (SceneObject Single)) : Calls
  | name, [.vector p] =>
    (objects.find? fun o => FieldChain.functionName o.id == name).map fun o =>
      .number (o.shape.distance p)
  | _, _ => none

section Call

variable {objects : List (SceneObject Single)}

theorem fieldsOf_functionName (ids : (objects.map (·.id)).Nodup) (p : Vec3 Single)
    {o : SceneObject Single} (member : o ∈ objects) :
    fieldsOf objects (FieldChain.functionName o.id) [.vector p] =
      some (.number (o.shape.distance p)) := by
  have same : (fun other : SceneObject Single =>
      FieldChain.functionName other.id == FieldChain.functionName o.id) =
      fun other => other.id == o.id := by
    funext other
    exact Bool.eq_iff_iff.mpr (by
      simpa using ⟨fun same => functionName_injective same, congrArg FieldChain.functionName⟩)
  have found : objects.find? (fun other => other.id == o.id) = some o := by
    rw [← mem_distinct, distinct_eq_self ids]
    exact member
  rw [fieldsOf, same, found]
  rfl

theorem fieldsOf_plain {name : String} (plain : ¬ Numbered name) (arguments : List Datum) :
    fieldsOf objects name arguments = none := by
  unfold fieldsOf
  split
  next p =>
    refine Option.map_eq_none_iff.mpr (List.find?_eq_none.mpr ?_)
    intro o _ same
    exact plain (beq_iff_eq.mp same ▸ functionName_numbered o.id)
  next => rfl

variable (objects) in
/-- A function that is not read otherwise is run. -/
theorem call?_item {m : Module Single} (names : (itemNames m.items).Nodup)
    {f : Function Single} (member : .function f ∈ m.items) (plain : ¬ Numbered f.name)
    {arguments : List Datum} (foreign : language f.name arguments = none) (depth : Nat) :
    m.call? (fieldsOf objects) (depth + 1) f.name arguments =
      f.run? (m.call? (fieldsOf objects) depth) m.constant? arguments := by
  rw [Module.call?, foreign, fieldsOf_plain plain, Module.function?_of_mem names member]
  rfl

theorem call?_answers (m : Module Single) (ids : (objects.map (·.id)).Nodup) (p : Vec3 Single)
    (depth : Nat) : Answers (m.call? (fieldsOf objects) (depth + 1)) p objects where
  field o member := by
    have foreign : language (FieldChain.functionName o.id) [.vector p] = none := by
      simp [language]
    rw [Module.call?, foreign, fieldsOf_functionName ids p member]
    rfl
  pair _ _ := rfl

end Call

section Plan

variable {options : Options Single} {objects : List (SceneObject Single)}

theorem planOf_far (options : Options Single) (objects : List (SceneObject Single)) :
    (planOf options objects).module.constant? "MAX_DISTANCE" = some (.number Distance.far) := by
  rw [Module.constant?, Plan.module_items]
  rfl

variable (ids : (objects.map (·.id)).Nodup) (p : Vec3 Single)

include ids

theorem sceneSdf_call {o : SceneObject Single} {rest : List (SceneObject Single)}
    (ordered : marchedObjects options objects = o :: rest) (depth : Nat) :
    (planOf options objects).module.call? (fieldsOf (marchedObjects options objects)) (depth + 2)
        "scene_sdf" [.vector p] = some (tagged p (rest.foldl (closerOf p) o)) := by
  have marched : (planOf options objects).marched ≠ [] := by
    rw [planOf_marched ids, ordered]
    exact List.cons_ne_nil _ _
  have member := function_item (Plan.mem_objectFunctions.mpr (.inr (.inl ⟨marched, rfl⟩)))
  have called := call?_item (marchedObjects options objects)
    (itemNames_nodup options objects) member (by decide : ¬ Numbered "scene_sdf")
    (rfl : language "scene_sdf" [.vector p] = none) (depth + 1)
  have distinct : ((marchedObjects options objects).map (·.id)).Nodup := marchedObjects_ids ids
  have answers := call?_answers (planOf options objects).module distinct p depth
  rw [planOf_marched_ids ids] at called
  rw [ordered] at called distinct answers ⊢
  exact called.trans (sceneSdf_run _ answers distinct)

omit ids in
theorem gridDistance_called (grid : options.target = .grid) (depth : Nat) :
    (planOf options objects).module.call? (fieldsOf (marchedObjects options objects)) (depth + 1)
        "grid_distance" [.vector p] =
      (gridDistance (!(planOf options objects).marched.isEmpty)).run?
        ((planOf options objects).module.call? (fieldsOf (marchedObjects options objects)) depth)
        (planOf options objects).module.constant? [.vector p] := by
  have made : gridDistance (!(planOf options objects).marched.isEmpty) ∈
      (planOf options objects).objectFunctions :=
    Plan.mem_objectFunctions.mpr (.inr (.inr (.inr ⟨grid, rfl⟩)))
  exact call?_item (marchedObjects options objects) (itemNames_nodup options objects)
    (function_item made) (by decide : ¬ Numbered "grid_distance")
    (rfl : language "grid_distance" [.vector p] = none)
    depth

theorem gridDistance_call (grid : options.target = .grid) {o : SceneObject Single}
    {rest : List (SceneObject Single)} (ordered : marchedObjects options objects = o :: rest)
    (depth : Nat) :
    (planOf options objects).module.call? (fieldsOf (marchedObjects options objects)) (depth + 3)
        "grid_distance" [.vector p] =
      some (.number ((rest.foldl (closerOf p) o).shape.distance p)) := by
  have marched : (planOf options objects).marched.isEmpty = false := by
    rw [planOf_marched ids, ordered]
    rfl
  rw [gridDistance_called p grid, marched]
  exact gridDistance_run _ (sceneSdf_call ids p ordered depth)

theorem gridDistance_call_empty (grid : options.target = .grid)
    (unmarched : marchedObjects options objects = []) (depth : Nat) :
    (planOf options objects).module.call? (fieldsOf (marchedObjects options objects)) (depth + 1)
        "grid_distance" [.vector p] = some (.number Distance.far) := by
  have marched : (planOf options objects).marched.isEmpty = true := by
    rw [planOf_marched ids, unmarched]
    rfl
  rw [gridDistance_called p grid, marched]
  exact gridDistance_run_empty _ (planOf_far options objects)

end Plan

/-- What a shader finds at a point, the functions of the marched objects read as their distances.
The comparison returns the distance and the id of the first one of the closest marched objects, and
the id survives being carried as a number. On a grid the distance is that of the scene, with the
same bits where the objects are in the order of their ids: in another order the other one of two
zeros may be found. -/
structure FieldAgrees (shader : Plan Single) (options : Options Single)
    (objects : List (SceneObject Single)) (p : Vec3 Single) : Prop where
  nearest : (∃ o ∈ objects, options.marches o.shape = true) →
    ∃ o, FirstClosest p (marchedObjects options objects) o ∧
      (∀ depth, shader.module.call? (fieldsOf (marchedObjects options objects)) (depth + 2)
        "scene_sdf" [.vector p] =
          some (.pair (o.shape.distance p) (Single.ofNat o.id.toNat))) ∧
      (Single.ofNat o.id.toNat).toUInt32 = o.id
  grid : options.target = .grid →
    ∃ d, (∀ depth, shader.module.call? (fieldsOf (marchedObjects options objects)) (depth + 3)
        "grid_distance" [.vector p] = some (.number d)) ∧
      (d == (Scene.ofObjects objects).distance p) = true ∧
      (objects.Pairwise (·.id < ·.id) → d = (Scene.ofObjects objects).distance p) ∧
      (objects = [] → shader.module.constant? "MAX_DISTANCE" = some (.number d))

def aroundOrigin : List (SceneObject Single) := [
  ⟨5, .sphere ⟨3.0, 0.0, 0.0⟩ 1.0, .glass, .literal (Vec3.splat 0.8)⟩,
  ⟨2, .sphere ⟨-3.0, 0.0, 0.0⟩ 1.0, .lambert, .literal (Vec3.splat 0.5)⟩,
  ⟨9, .solid (.primitive .box ⟨0.0, 5.0, 0.0⟩ (Vec3.splat 1.0)), .light,
    .literal (Vec3.splat 1.0)⟩]

end RayScene.Shader
