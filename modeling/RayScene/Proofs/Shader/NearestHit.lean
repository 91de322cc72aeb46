import RayScene.Proofs.Shader.SceneField
import RayScene.Proofs.Shader.Search
import RayScene.Proofs.Shader.Selection

/-!
The nearest hit in the shader of a scene. Over the real numbers, the search through the spheres of
an object list leaves the first of them that the ray reaches to whatever marches the other objects.
-/

namespace RayScene.Wgsl.Unrounded

open Matrix Shader

theorem item_unique {items : List (Item Single)} (names : (itemNames items).Nodup)
    {a b : Item Single} (first : a ∈ items) (second : b ∈ items) {name : String}
    (own : a.name? = some name) (same : b.name? = some name) : a = b := by
  induction items with
  | nil => cases first
  | cons item items ih =>
      have later {c : Item Single} (member : c ∈ items) (named : c.name? = some name) :
          name ∈ itemNames items := List.mem_filterMap.mpr ⟨c, member, named⟩
      have apart (named : item.name? = some name) : name ∉ itemNames items := by
        rw [itemNames, List.filterMap_cons, named] at names
        exact (List.nodup_cons.mp names).1
      have rest : (itemNames items).Nodup :=
        names.sublist ((List.sublist_cons_self item items).filterMap _)
      rcases List.mem_cons.mp first with rfl | before
      · rcases List.mem_cons.mp second with equal | behind
        · exact equal.symm
        · exact absurd (later behind same) (apart own)
      · rcases List.mem_cons.mp second with rfl | behind
        · exact absurd (later before own) (apart same)
        · exact ih rest before behind

theorem construct?_function {m : Module Single} (names : (itemNames m.items).Nodup)
    {f : Function Single} (member : .function f ∈ m.items) (arguments : List Content) :
    construct? m f.name arguments = none := by
  have unstructured : m.items.findSome? (slots? f.name) = none := by
    refine List.findSome?_eq_none_iff.mpr fun item inside => ?_
    cases item with
    | struct other members =>
        refine if_neg fun same => ?_
        exact absurd (item_unique names member inside rfl (congrArg some same)) (by simp)
    | _ => rfl
  rw [construct?, unstructured]
  rfl

/-- Marching is given by what it makes of a ray and a hit. -/
def marchedBy (march : Content → Content → Content) : Calls
  | "march", [ray, closest] => some (march ray closest)
  | _, _ => none

section Calls

variable {m : Module Single} {march : Content → Content → Content}

/-- A function that is neither given nor the language's own is run. -/
theorem call?_function (names : (itemNames m.items).Nodup) {f : Function Single}
    (member : .function f ∈ m.items) {arguments : List Content} {content : Content}
    (given : marchedBy march f.name arguments = none) (foreign : language f.name arguments = none)
    {depth : Nat} (returns : run? (call? m (marchedBy march) depth) (constant? m) f arguments =
      some content) :
    call? m (marchedBy march) (depth + 1) f.name arguments = some content := by
  rw [call?, given, foreign, construct?_function names member,
    Module.function?_of_mem names member]
  exact returns

theorem language_dot (a b : Vec3 ℝ) : language "dot" [vectorContent a, vectorContent b] =
    some (.number (a.coords ⬝ᵥ b.coords)) := by
  show some (Content.number (a.x * b.x + (a.y * b.y + (a.z * b.z + 0)))) = _
  rw [vec3_dotProduct, add_zero, ← add_assoc]
  rfl

end Calls

section Plan

variable {options : Options Single} {objects : List (SceneObject Single)}

theorem planOf_basics (screen : options.target = .screen) (march : Content → Content → Content)
    (depth : Nat) : Basics (call? (planOf options objects).module (marchedBy march) (depth + 1))
      (constant? (planOf options objects).module) where
  dot a b := by
    rw [call?, language_dot]
    rfl
  sqrt _ := rfl
  select _ _ _ := rfl
  splat _ := rfl
  hit t p n id front := by
    have slots : (planOf options objects).module.items.findSome? (slots? "Hit") =
        some [slot "t" .f32, slot "p" .vec3f, slot "n" .vec3f, slot "object_id" .u32,
          slot "front_face" .bool] := by
      rw [Plan.module_items]
      show List.findSome? _ (_ :: (_ ++ (structs options.target ++ _))) = _
      rw [screen]
      rfl
    show (construct? _ "Hit" _).or _ = _
    rw [construct?, slots]
    rfl
  nearest := by
    rw [constant?, Plan.module_items]
    rfl
  farthest := by
    rw [constant?, Plan.module_items]
    rfl
  noObject := by
    rw [constant?, Plan.module_items]
    rfl

theorem routine_item {routine : Routine}
    (needed : routine ∈ neededRoutines options.target (parts options objects))
    {item : Item Single} (member : item ∈ routine.items) :
    item ∈ (planOf options objects).module.items :=
  Plan.mem_module_items.mpr (.inr (.inr (.inr (.inr (.inr (.inl ⟨routine, needed, member⟩))))))

theorem mem_analytic {p : Plan Single} {sphere : UInt32 × Vec3 Single × Single} :
    sphere ∈ p.analytic ↔
      ∃ part ∈ p.objects, part.id = sphere.1 ∧ part.analytic = some sphere.2 := by
  obtain ⟨id, size⟩ := sphere
  simp only [Plan.analytic, List.mem_filterMap, Option.map_eq_some_iff, Prod.mk.injEq]
  constructor
  · rintro ⟨part, member, size, found, rfl, rfl⟩
    exact ⟨part, member, rfl, found⟩
  · rintro ⟨part, member, rfl, found⟩
    exact ⟨part, member, size, found, rfl, rfl⟩

theorem planOf_answers (screen : options.target = .screen)
    (march : Content → Content → Content) (depth : Nat) :
    Answers (call? (planOf options objects).module (marchedBy march) (depth + 2)) march
      (planOf options objects).analytic where
  vector _ _ _ := rfl
  noHit := by
    exact call?_function (itemNames_nodup options objects)
      (routine_item (surfaceHit_needed screen) List.mem_cons_self) rfl rfl
      (noHit_run (planOf_basics screen march depth))
  surfaceHit ray t ball := by
    exact call?_function (itemNames_nodup options objects)
      (routine_item (surfaceHit_needed screen) (List.mem_cons_of_mem _ List.mem_cons_self)) rfl rfl
      (surfaceHit_run (planOf_basics screen march depth) ray t ball)
  hitSphere sphere member ray most := by
    obtain ⟨part, listed, -, analytic⟩ := mem_analytic.mp member
    have used : Routine.hitSphere ∈ partRoutines part :=
      mem_partRoutines.mpr (.inl ⟨by rw [analytic]; rfl, rfl⟩)
    have needed : Routine.hitSphere ∈ neededRoutines options.target (parts options objects) :=
      mem_neededRoutines.mpr (.inl ⟨part, List.mem_mergeSort.mp listed, used⟩)
    exact call?_function (itemNames_nodup options objects)
      (routine_item needed List.mem_cons_self) rfl rfl
      (hitSphere_run (planOf_basics screen march depth) ray (ballOf sphere) most)
  march _ _ := rfl

theorem analytic_ids_nodup : ((planOf options objects).analytic.map (·.1)).Nodup :=
  List.pairwise_map.mpr (kept_ids_pairwise (·.analytic) (objects_ids_nodup options objects))

theorem sceneHit_call (screen : options.target = .screen) (ray : Ray)
    (march : Content → Content → Content) (depth : Nat) :
    let closest := ((planOf options objects).analytic.map ballOf).foldl
      (fun hit ball => ray.nearer ball nearest hit) (.none farthest)
    call? (planOf options objects).module (marchedBy march) (depth + 3) "scene_hit"
        [rayContent ray] =
      some (if (planOf options objects).marched.isEmpty then hitContent closest
        else march (rayContent ray) (hitContent closest)) := by
  have made : sceneHit (planOf options objects).analytic (!(planOf options objects).marched.isEmpty)
      ∈ (planOf options objects).objectFunctions :=
    Plan.mem_objectFunctions.mpr (.inr (.inr (.inl ⟨screen, .inl rfl⟩)))
  refine (call?_function (itemNames_nodup options objects) (function_item made) rfl rfl
    (sceneHit_run _ (planOf_answers screen march depth) analytic_ids_nodup _)).trans ?_
  cases (planOf options objects).marched.isEmpty <;> rfl

end Plan

section Objects

variable {options : Options Single} {objects : List (SceneObject Single)}

noncomputable def ballOf? (o : SceneObject Single) : Option Ball :=
  match o.shape with
  | .sphere center radius => some (ballOf (o.id, center, radius))
  | .solid _ => none

/-- The spheres of an object list; of several objects with one id only the first one counts. -/
noncomputable def ballsOf (objects : List (SceneObject Single)) : List Ball :=
  (distinct objects).filterMap ballOf?

theorem ballOf?_eq_some {o : SceneObject Single} {ball : Ball} : ballOf? o = some ball ↔
    ∃ center radius, o.shape = .sphere center radius ∧ ballOf (o.id, center, radius) = ball := by
  rw [ballOf?]
  cases o.shape with
  | sphere center radius => simp
  | solid tree => simp

theorem mem_analytic_iff (screen : options.target = .screen)
    (raytrace : options.renderMode = .raytrace) (ball : Ball) :
    ball ∈ (planOf options objects).analytic.map ballOf ↔ ball ∈ ballsOf objects := by
  simp only [ballsOf, List.mem_map, List.mem_filterMap, mem_analytic, ballOf?_eq_some]
  constructor
  · rintro ⟨⟨id, center, radius⟩, ⟨part, listed, rfl, analytic⟩, rfl⟩
    obtain ⟨o, inside, rfl⟩ := List.mem_map.mp (List.mem_mergeSort.mp listed)
    have emits := objectPart_emits options o
    exact ⟨o, inside, center, radius, ((emits.analytic center radius).mp analytic).2,
      by rw [emits.id]⟩
  · rintro ⟨o, inside, center, radius, shape, rfl⟩
    have emits := objectPart_emits options o
    exact ⟨(o.id, center, radius), ⟨objectPart options o,
      List.mem_mergeSort.mpr (List.mem_map_of_mem inside), emits.id,
      (emits.analytic center radius).mpr ⟨⟨screen, raytrace, center, radius, shape⟩, shape⟩⟩, rfl⟩

end Objects

def alongX : Ray := ⟨⟨0, 0, 0⟩, ⟨1, 0, 0⟩⟩

theorem alongX_unit : alongX.dir.norm = 1 := by
  apply Ray.norm_eq_one
  rw [vec3_dotProduct]
  simp [alongX, Vec3.coords]

theorem balls_aroundOrigin :
    ballsOf aroundOrigin = [⟨5, ⟨3, 0, 0⟩, 1⟩, ⟨2, ⟨-3, 0, 0⟩, 1⟩] := by
  have three : (3.0 : Single).value = 3 := Single.value_eq (x := 3.0) (q := 3) (by decide +kernel)
  have minus : (-3.0 : Single).value = -3 :=
    (Single.value_eq (x := -3.0) (q := -3) (by decide +kernel)).trans (by norm_num)
  have zero : (0.0 : Single).value = 0 := Single.zero_value
  have balls : ballsOf aroundOrigin =
      [ballOf (5, ⟨3.0, 0.0, 0.0⟩, 1.0), ballOf (2, ⟨-3.0, 0.0, 0.0⟩, 1.0)] := rfl
  rw [balls]
  simp only [ballOf, Vec3.map, three, minus, zero, Single.one_value]

theorem meets_beside {ball : Ball} {x t : ℝ} (center : ball.center = ⟨x, 0, 0⟩)
    (radius : ball.radius = 1) : alongX.Meets ball t ↔ t = x - 1 ∨ t = x + 1 := by
  have passed : alongX.passed ball = -x := by
    simp [Ray.passed, Ray.fromCenter, center, alongX, Vec3.coords, Vec3.minus, Vec3.zipWith]
  have discriminant : alongX.discriminant ball = 1 := by
    rw [Ray.discriminant, passed, radius, vec3_dotProduct]
    simp [Ray.fromCenter, center, alongX, Vec3.coords, Vec3.minus, Vec3.zipWith]
  rw [Ray.meets_iff alongX_unit (radius ▸ one_pos), passed, discriminant, sq_eq_one_iff]
  constructor
  · rintro (up | down)
    · exact .inr (by linarith)
    · exact .inl (by linarith)
  · rintro (rfl | rfl)
    · exact .inr (by ring)
    · exact .inl (by ring)

theorem two_between : nearest ≤ 2 ∧ 2 ≤ farthest := by
  have two : (2.0 : Single).value = 2 := Single.value_eq (x := 2.0) (q := 2) (by decide +kernel)
  rw [← two]
  exact ⟨(Single.le_iff_value (by decide +kernel) (by decide +kernel)).mp (by decide +kernel),
    (Single.le_iff_value (by decide +kernel) (by decide +kernel)).mp (by decide +kernel)⟩

end RayScene.Wgsl.Unrounded
