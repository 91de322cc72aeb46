import Mathlib.Data.List.Forall2
import RayScene.Proofs.Scene.Reshaping
import RayScene.Proofs.Shader.FirstObjects

/-!
What a shader that marches everything sees of the objects: their ids and fields, on a screen also
their materials and colors. A shader that samples distances sees nothing else of the objects, and
of the options only how many samples one draw takes.
-/

namespace RayScene.Shader

variable {S : Type}

/-- Two objects that a distance field cannot tell apart. -/
structure SameOutline (a b : SceneObject S) : Prop where
  id : a.id = b.id
  field : a.shape.toSdf = b.shape.toSdf

/-- Two objects that a picture of distance fields cannot tell apart. -/
structure SameLook (a b : SceneObject S) : Prop extends SameOutline a b where
  material : a.material = b.material
  color : a.color = b.color

theorem objectPart_of_marchesAll {options : Options S} (marches : options.marchesAll = true)
    (o : SceneObject S) :
    objectPart options o = {
      id := o.id
      analytic := none
      field := some o.shape.toSdf
      shading := if options.target = .screen then some (o.material, o.color) else none } := by
  unfold objectPart
  cases o.shape with
  | sphere center radius => simp [marches]
  | solid tree => rfl

theorem SameOutline.objectPart {a b : SceneObject S} (same : SameOutline a b)
    {options options' : Options S} (grid : options.target = .grid)
    (grid' : options'.target = .grid) : objectPart options a = objectPart options' b := by
  rw [objectPart_of_marchesAll (by simp [Options.marchesAll, grid]),
    objectPart_of_marchesAll (by simp [Options.marchesAll, grid']), same.id, same.field, grid, grid']
  simp

theorem SameLook.objectPart {a b : SceneObject S} (same : SameLook a b) {options : Options S}
    (marching : options.renderMode = .sdf) : objectPart options a = objectPart options b := by
  have marches : options.marchesAll = true := by simp [Options.marchesAll, marching]
  rw [objectPart_of_marchesAll marches, objectPart_of_marchesAll marches, same.id, same.field,
    same.material, same.color]

theorem distinctFrom_forall₂ {r : SceneObject S → SceneObject S → Prop}
    (ids : ∀ a b, r a b → a.id = b.id) {objects others : List (SceneObject S)}
    (pairs : List.Forall₂ r objects others) (seen : List UInt32) :
    List.Forall₂ r (distinctFrom seen objects) (distinctFrom seen others) := by
  induction pairs generalizing seen with
  | nil => exact .nil
  | @cons a b objects others related pairs ih =>
      rw [distinctFrom, distinctFrom, ids a b related]
      split
      · exact ih seen
      · exact .cons related (ih (b.id :: seen))

/-- Lists have the same parts if their objects have them one by one. -/
theorem parts_congr {r : SceneObject S → SceneObject S → Prop}
    {objects others : List (SceneObject S)} (pairs : List.Forall₂ r objects others)
    {options options' : Options S} (ids : ∀ a b, r a b → a.id = b.id)
    (same : ∀ a b, r a b → objectPart options a = objectPart options' b) :
    parts options objects = parts options' others := by
  have counting := distinctFrom_forall₂ ids pairs []
  rw [← List.forall₂_eq_eq_eq, parts, parts, List.forall₂_map_left_iff, List.forall₂_map_right_iff]
  exact counting.imp fun a b related => same a b related

theorem constants_congr [Scalar S] {options options' : Options S}
    (samples : options.samplesPerDraw = options'.samplesPerDraw) :
    constants options = constants options' := by
  rw [constants, constants, samples]

theorem Plan.module_of_grid [Scalar S] {p : Plan S} (grid : p.target = .grid)
    (camera : CameraSource S) : { p with camera }.module = p.module := by
  have drawn : ¬ p.target = .screen := by simp [grid]
  unfold Plan.module
  dsimp only
  rw [if_neg drawn, if_neg drawn]
  rfl

theorem planned_module [Scalar S] {options options' : Options S} (grid : options.target = .grid)
    (grid' : options'.target = .grid) (samples : options.samplesPerDraw = options'.samplesPerDraw)
    (parts : List (ObjectPart S)) :
    (planned options parts).module = (planned options' parts).module := by
  have other : planned options parts =
      { planned options' parts with camera := options.camera } := by
    simp [planned, bindings, entryPoints, grid, grid', constants_congr samples]
  have target : (planned options' parts).target = .grid := grid'
  rw [other, Plan.module_of_grid target]

/-- The distances of a scene are sampled by the same shader, or by none, whatever its objects are
made of, whether a ball is given as one or as a tree, and however the scene is to be drawn. In the
mode that only marches the picture does not tell balls from trees either. -/
theorem outlines_determine_shader :
    (∀ objects others : List (SceneObject Single), List.Forall₂ SameOutline objects others →
      ∀ options options' : Options Single, options.target = .grid → options'.target = .grid →
        options.samplesPerDraw = options'.samplesPerDraw →
        options.numSamples ≠ 0 → options'.numSamples ≠ 0 →
          generate objects options = generate others options') ∧
    ∀ objects others : List (SceneObject Single), List.Forall₂ SameLook objects others →
      ∀ options : Options Single, options.target = .screen → options.renderMode = .sdf →
        generate objects options = generate others options := by
  constructor
  · intro objects others pairs options options' grid grid' samples sampled sampled'
    have same : parts options objects = parts options' others :=
      parts_congr pairs (fun _ _ related => related.id) fun _ _ related =>
        related.objectPart grid grid'
    rw [generate, generate, plan_eq, plan_eq, if_neg sampled, if_neg sampled', same]
    cases (parts options' others).findSome? depthError? with
    | some e => rfl
    | none =>
        show Except.ok _ = Except.ok _
        rw [planned_module grid grid' samples]
  · intro objects others pairs options _ marching
    have same : parts options objects = parts options others :=
      parts_congr pairs (fun _ _ related => related.id) fun _ _ related =>
        related.objectPart marching
    rw [generate, generate, plan_eq, plan_eq, same]

def paintedTrees : List (SceneObject Single) := [
  ⟨4, .solid (.primitive .sphere Vec3.zero (Vec3.splat 1.0)), .lambert, .literal (Vec3.splat 0.5)⟩,
  ⟨1, .solid (.primitive .box (Vec3.splat 3.0) (Vec3.splat 1.0)), .fuzzyMetal,
    .expression "abs(n)" (.call .abs [.input .normal])⟩]

def treeBesideBox : List (SceneObject Single) :=
  ballBesideBox.map fun o => { o with shape := .solid o.shape.toSdf }

def hastyGrid : Options Single where
  realTime := true
  numSamples := 7
  renderMode := .raytrace
  camera := .baked CameraSpec.standard.camera
  target := .grid

def marchedPicture : Options Single := ⟨false, 1, .sdf, .uniform, .screen⟩

theorem paintedTrees_shader :
    generate ballBesideBox .grid = generate paintedTrees hastyGrid ∧
      generate ballBesideBox marchedPicture = generate treeBesideBox marchedPicture := by
  obtain ⟨sampling, drawing⟩ := outlines_determine_shader
  have outlines : List.Forall₂ SameOutline ballBesideBox paintedTrees :=
    .cons ⟨rfl, rfl⟩ (.cons ⟨rfl, rfl⟩ .nil)
  have looks : List.Forall₂ SameLook ballBesideBox treeBesideBox :=
    .cons ⟨⟨rfl, rfl⟩, rfl, rfl⟩ (.cons ⟨⟨rfl, rfl⟩, rfl, rfl⟩ .nil)
  exact ⟨sampling _ _ outlines _ _ rfl rfl rfl (by decide) (by decide),
    drawing _ _ looks _ rfl rfl⟩

end RayScene.Shader
