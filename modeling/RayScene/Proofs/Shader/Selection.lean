import RayScene.Proofs.Geometry.Trees
import RayScene.Proofs.Shader.FirstObjects

/-!
What a shader is planned to contain: one part for each object that counts, and the routines that
these parts need and no others; or else what keeps it from being planned.
-/

namespace RayScene.Shader

variable {S : Type}

def Intersected (options : Options S) (shape : Shape S) : Prop :=
  options.target = .screen ∧ options.renderMode = .raytrace ∧
    ∃ center radius, shape = .sphere center radius

def Marched (options : Options S) (shape : Shape S) : Prop :=
  options.target = .grid ∨ options.renderMode = .sdf ∨ ∃ tree, shape = .solid tree

theorem marches_iff {options : Options S} {shape : Shape S} :
    options.marches shape = true ↔ Marched options shape := by
  cases shape <;> simp [Options.marches, Options.marchesAll, Shape.isSolid, Marched]

theorem not_marched_iff {options : Options S} {shape : Shape S} :
    ¬ Marched options shape ↔ Intersected options shape := by
  cases target : options.target <;> cases mode : options.renderMode <;> cases shape <;>
    simp [Marched, Intersected, target, mode]

def Counts (objects : List (SceneObject S)) (o : SceneObject S) : Prop :=
  firstOf objects o.id = some o

structure Emits (options : Options S) (o : SceneObject S) (part : ObjectPart S) : Prop where
  id : part.id = o.id
  analytic (center : Vec3 S) (radius : S) : part.analytic = some (center, radius) ↔
    Intersected options o.shape ∧ o.shape = .sphere center radius
  field (tree : Sdf S) : part.field = some tree ↔ Marched options o.shape ∧ o.shape.toSdf = tree
  either : part.analytic.isSome = !part.field.isSome
  shading (surface : Material × SurfaceColor S) : part.shading = some surface ↔
    options.target = .screen ∧ (o.material, o.color) = surface

theorem objectPart_emits (options : Options S) (o : SceneObject S) :
    Emits options o (objectPart options o) where
  id := objectPart_id options o
  analytic center radius := by
    cases target : options.target <;> cases mode : options.renderMode <;> cases shape : o.shape <;>
      simp [objectPart, Options.marchesAll, Intersected, target, mode, shape]
  field tree := by
    rw [objectPart_field, ← marches_iff]
    cases options.marches o.shape <;> simp
  either := by
    rw [objectPart_analytic, objectPart_field]
    cases options.marches o.shape <;> rfl
  shading surface := by
    rw [objectPart_shading]
    split
    next screen => simp [screen]
    next other => simp [other]

/-- An object that keeps the shader from being planned. -/
structure TooDeep (options : Options S) (objects : List (SceneObject S)) (o : SceneObject S) :
    Prop where
  counts : Counts objects o
  marched : Marched options o.shape
  deep : Sdf.maxDepth < o.shape.toSdf.depth

/-- The first member of a list that has a property. -/
def IsFirst {α : Type} (p : α → Prop) (xs : List α) (x : α) : Prop :=
  ∃ before after, xs = before ++ x :: after ∧ p x ∧ ∀ other ∈ before, ¬ p other

theorem not_isFirst_nil {α : Type} {p : α → Prop} {x : α} : ¬ IsFirst p [] x := by
  rintro ⟨before, after, split, -⟩
  cases before <;> cases split

theorem isFirst_cons_of_pos {α : Type} {p : α → Prop} {x y : α} {xs : List α} (holds : p x) :
    IsFirst p (x :: xs) y ↔ x = y := by
  constructor
  · rintro ⟨before, after, split, -, none_before⟩
    cases before with
    | nil => exact (List.cons.inj split).1
    | cons first before =>
        obtain ⟨rfl, -⟩ := List.cons.inj split
        exact absurd holds (none_before x List.mem_cons_self)
  · rintro rfl
    exact ⟨[], xs, rfl, holds, fun _ => nofun⟩

theorem isFirst_cons_of_neg {α : Type} {p : α → Prop} {x y : α} {xs : List α} (fails : ¬ p x) :
    IsFirst p (x :: xs) y ↔ IsFirst p xs y := by
  constructor
  · rintro ⟨before, after, split, holds, none_before⟩
    cases before with
    | nil =>
        obtain ⟨rfl, -⟩ := List.cons.inj split
        exact absurd holds fails
    | cons first before =>
        obtain ⟨-, rfl⟩ := List.cons.inj split
        exact ⟨before, after, rfl, holds, (List.forall_mem_cons.mp none_before).2⟩
  · rintro ⟨before, after, rfl, holds, none_before⟩
    exact ⟨x :: before, after, rfl, holds, List.forall_mem_cons.mpr ⟨fails, none_before⟩⟩

theorem exists_isFirst {α : Type} {p : α → Prop} {xs : List α} {x : α} (member : x ∈ xs)
    (holds : p x) : ∃ y, IsFirst p xs y := by
  induction xs with
  | nil => cases member
  | cons y ys ih =>
      by_cases here : p y
      · exact ⟨y, (isFirst_cons_of_pos here).mpr rfl⟩
      · have later : x ∈ ys := by
          refine (List.mem_cons.mp member).resolve_left ?_
          rintro rfl
          exact here holds
        obtain ⟨z, first⟩ := ih later
        exact ⟨z, (isFirst_cons_of_neg here).mpr first⟩

def Finds {α : Type} (f : SceneObject S → Option α) (seen : List UInt32)
    (objects : List (SceneObject S)) (o : SceneObject S) : Prop :=
  o ∈ distinctFrom seen objects ∧ ∃ a, f o = some a

theorem findSome?_distinctFrom {α : Type} (f : SceneObject S → Option α) (a : α)
    (seen : List UInt32) (objects : List (SceneObject S)) :
    (distinctFrom seen objects).findSome? f = some a ↔
      ∃ o, IsFirst (Finds f seen objects) objects o ∧ f o = some a := by
  induction objects generalizing seen with
  | nil => simp [distinctFrom, not_isFirst_nil]
  | cons o rest ih =>
      by_cases old : seen.contains o.id = true
      · have same : distinctFrom seen (o :: rest) = distinctFrom seen rest := by
          rw [distinctFrom, if_pos old]
        have skipped : ¬ Finds f seen rest o := fun finds =>
          (mem_distinctFrom.mp finds.1).1 (List.contains_iff_mem.mp old)
        have kept : Finds f seen (o :: rest) = Finds f seen rest := by
          funext other
          rw [Finds, same, Finds]
        simp only [same, kept, isFirst_cons_of_neg skipped, ih]
      · have split : distinctFrom seen (o :: rest) = o :: distinctFrom (o.id :: seen) rest := by
          rw [distinctFrom, if_neg old]
        rw [split, List.findSome?_cons]
        cases found : f o with
        | some b =>
            have finds : Finds f seen (o :: rest) o :=
              ⟨split ▸ List.mem_cons_self, b, found⟩
            simp only [isFirst_cons_of_pos finds, exists_eq_left', found]
        | none =>
            have lacks : ¬ Finds f seen (o :: rest) o := by simp [Finds, found]
            have later : Finds f seen (o :: rest) = Finds f (o.id :: seen) rest := by
              funext other
              rw [Finds, Finds, split, List.mem_cons, eq_iff_iff]
              refine and_congr_left ?_
              rintro ⟨b, yields⟩
              refine or_iff_right ?_
              rintro rfl
              simp [found] at yields
            rw [later] at lacks ⊢
            simp only [isFirst_cons_of_neg lacks, ih]

def depthError (o : SceneObject S) : ShaderError :=
  .sdfDepthExceeded o.id o.shape.toSdf.depth Sdf.maxDepth

theorem depthError?_eq_some_iff {options : Options S} {o : SceneObject S} {e : ShaderError} :
    depthError? (objectPart options o) = some e ↔
      (Marched options o.shape ∧ Sdf.maxDepth < o.shape.toSdf.depth) ∧ depthError o = e := by
  rw [depthError?, objectPart_field, objectPart_id, ← marches_iff]
  cases options.marches o.shape <;> simp [depthError]

theorem finds_depthError_iff {options : Options S} {objects : List (SceneObject S)}
    {o : SceneObject S} :
    Finds (depthError? ∘ objectPart options) [] objects o ↔ TooDeep options objects o := by
  constructor
  · rintro ⟨counts, e, faulty⟩
    obtain ⟨⟨marched, deep⟩, -⟩ := depthError?_eq_some_iff.mp faulty
    exact ⟨mem_distinct.mp counts, marched, deep⟩
  · rintro ⟨counts, marched, deep⟩
    exact ⟨mem_distinct.mpr counts, _, depthError?_eq_some_iff.mpr ⟨⟨marched, deep⟩, rfl⟩⟩

theorem findSome?_parts_eq_some_iff {options : Options S} {objects : List (SceneObject S)}
    {e : ShaderError} :
    (parts options objects).findSome? depthError? = some e ↔
      ∃ o, IsFirst (TooDeep options objects) objects o ∧ depthError o = e := by
  have same : Finds (depthError? ∘ objectPart options) [] objects = TooDeep options objects :=
    funext fun _ => propext finds_depthError_iff
  rw [parts, List.findSome?_map, distinct, findSome?_distinctFrom, same]
  refine exists_congr fun o => and_congr_right ?_
  rintro ⟨_, _, _, tooDeep, _⟩
  exact depthError?_eq_some_iff.trans (and_iff_right ⟨tooDeep.marched, tooDeep.deep⟩)

/-- Shaders without samples are refused before any object is looked at. -/
theorem plan_eq_error_iff [Scalar S] {objects : List (SceneObject S)} {options : Options S}
    {e : ShaderError} :
    plan objects options = .error e ↔
      options.numSamples = 0 ∧ .invalidSampleCount = e ∨
        options.numSamples ≠ 0 ∧
          ∃ o, IsFirst (TooDeep options objects) objects o ∧ depthError o = e := by
  rw [← findSome?_parts_eq_some_iff, plan_eq]
  by_cases sampled : options.numSamples = 0
  · simp [sampled]
  · cases (parts options objects).findSome? depthError? <;> simp [sampled]

theorem plan_fails_iff [Scalar S] {objects : List (SceneObject S)} {options : Options S} :
    (∃ e, plan objects options = .error e) ↔
      options.numSamples = 0 ∨ ∃ o, TooDeep options objects o := by
  constructor
  · rintro ⟨e, failed⟩
    rcases plan_eq_error_iff.mp failed with ⟨unsampled, -⟩ | ⟨-, o, ⟨_, _, _, tooDeep, _⟩, -⟩
    · exact .inl unsampled
    · exact .inr ⟨o, tooDeep⟩
  · intro reason
    by_cases sampled : options.numSamples = 0
    · exact ⟨_, plan_eq_error_iff.mpr (.inl ⟨sampled, rfl⟩)⟩
    · obtain ⟨o, tooDeep⟩ := reason.resolve_left sampled
      have member : o ∈ objects := List.mem_of_find?_eq_some tooDeep.counts
      obtain ⟨first, isFirst⟩ := exists_isFirst member tooDeep
      exact ⟨_, plan_eq_error_iff.mpr (.inr ⟨sampled, first, isFirst, rfl⟩)⟩

def MarchedNode (options : Options S) (objects : List (SceneObject S)) (node : Sdf S) : Prop :=
  ∃ o, Counts objects o ∧ Marched options o.shape ∧ o.shape.toSdf.Part node

def Made (objects : List (SceneObject S)) (p : Material → Prop) : Prop :=
  ∃ o, Counts objects o ∧ p o.material

def Needs (options : Options S) (objects : List (SceneObject S)) : Routine → Prop
  | .random | .cameraRay | .surfaceHit | .background | .trace => options.target = .screen
  | .hitSphere => ∃ o, Counts objects o ∧ Intersected options o.shape
  | .primitive kind =>
    ∃ position dimensions, MarchedNode options objects (.primitive kind position dimensions)
  | .smoothUnion => ∃ k children, MarchedNode options objects (.smoothUnion k children)
  | .inverseRotate => ∃ angles child, MarchedNode options objects (.rotate angles child)
  | .repeatDomain => ∃ period child, MarchedNode options objects (.repeated period child)
  | .march => options.target = .screen ∧ ∃ o, Counts objects o ∧ Marched options o.shape
  | .scatter material => options.target = .screen ∧ Made objects (· = material)
  | .reflectRough => options.target = .screen ∧
    Made objects fun material => material = .fuzzyMetal ∨ material = .shinyMetal
  | .schlick => options.target = .screen ∧ Made objects (· = .glass)

theorem mem_partRoutines_objectPart {options : Options S} {o : SceneObject S} {routine : Routine} :
    routine ∈ partRoutines (objectPart options o) ↔
      (Intersected options o.shape ∧ routine = .hitSphere) ∨
      (Marched options o.shape ∧ ∃ node, o.shape.toSdf.Part node ∧
        nodeRoutine? node = some routine) ∨
      options.target = .screen ∧ routine ∈ materialRoutines o.material := by
  rw [mem_partRoutines, objectPart_analytic, objectPart_field, objectPart_shading]
  refine or_congr (and_congr_left' ?_) (or_congr ?_ ?_)
  · rw [← not_marched_iff, ← marches_iff]
    simp
  · rw [← marches_iff]
    cases options.marches o.shape <;> simp [Sdf.mem_subtrees_iff]
  · cases options.target <;> simp

theorem exists_mem_parts {options : Options S} {objects : List (SceneObject S)}
    {p : ObjectPart S → Prop} :
    (∃ part ∈ parts options objects, p part) ↔ ∃ o, Counts objects o ∧ p (objectPart options o) := by
  simp only [parts, List.mem_map, exists_exists_and_eq_and, mem_distinct, Counts, firstOf]

/-- The routines of a shader, by what they are for. -/
theorem mem_needed_iff {options : Options S} {objects : List (SceneObject S)} {routine : Routine} :
    routine ∈ neededRoutines options.target (parts options objects) ↔
      (routine = .hitSphere ∧ ∃ o, Counts objects o ∧ Intersected options o.shape) ∨
      (∃ node, MarchedNode options objects node ∧ nodeRoutine? node = some routine) ∨
      (options.target = .screen ∧ Made objects (routine ∈ materialRoutines ·)) ∨
      (options.target = .screen ∧ routine ∈ screenRoutines) ∨
      (routine = .march ∧ options.target = .screen ∧
        ∃ o, Counts objects o ∧ Marched options o.shape) := by
  have marches (o : SceneObject S) :
      (objectPart options o).field.isSome = true ↔ Marched options o.shape := by
    rw [objectPart_field, ← marches_iff]
    cases options.marches o.shape <;> simp
  rw [mem_neededRoutines, exists_mem_parts, exists_mem_parts]
  simp only [mem_partRoutines_objectPart, marches]
  constructor
  · rintro (⟨o, counts, ⟨shape, same⟩ | ⟨marched, node, part, calls⟩ | ⟨screen, used⟩⟩ |
      ⟨screen, always | ⟨marching, same⟩⟩)
    · exact .inl ⟨same, o, counts, shape⟩
    · exact .inr (.inl ⟨node, ⟨o, counts, marched, part⟩, calls⟩)
    · exact .inr (.inr (.inl ⟨screen, o, counts, used⟩))
    · exact .inr (.inr (.inr (.inl ⟨screen, always⟩)))
    · exact .inr (.inr (.inr (.inr ⟨same, screen, marching⟩)))
  · rintro (⟨same, o, counts, shape⟩ | ⟨node, ⟨o, counts, marched, part⟩, calls⟩ |
      ⟨screen, o, counts, used⟩ | ⟨screen, always⟩ | ⟨same, screen, marching⟩)
    · exact .inl ⟨o, counts, .inl ⟨shape, same⟩⟩
    · exact .inl ⟨o, counts, .inr (.inl ⟨marched, node, part, calls⟩)⟩
    · exact .inl ⟨o, counts, .inr (.inr ⟨screen, used⟩)⟩
    · exact .inr ⟨screen, .inl always⟩
    · exact .inr ⟨screen, .inr ⟨marching, same⟩⟩

/-- The nodes that call a routine, for each routine. -/
theorem exists_node_iff (p : Sdf S → Prop) (routine : Routine) :
    (∃ node, p node ∧ nodeRoutine? node = some routine) ↔
      match routine with
      | .primitive kind => ∃ position dimensions, p (.primitive kind position dimensions)
      | .smoothUnion => ∃ k children, p (.smoothUnion k children)
      | .inverseRotate => ∃ angles child, p (.rotate angles child)
      | .repeatDomain => ∃ period child, p (.repeated period child)
      | _ => False := by
  constructor
  · rintro ⟨node, holds, calls⟩
    cases node <;> simp only [nodeRoutine?, reduceCtorEq, Option.some.injEq] at calls <;>
      subst calls <;> exact ⟨_, _, holds⟩
  · intro called
    cases routine <;> first
      | exact called.elim
      | obtain ⟨_, _, holds⟩ := called
        exact ⟨_, holds, rfl⟩

theorem mem_materialRoutines {material : Material} {routine : Routine} :
    routine ∈ materialRoutines material ↔ routine = .scatter material ∨
      routine = .reflectRough ∧ (material = .fuzzyMetal ∨ material = .shinyMetal) ∨
      routine = .schlick ∧ material = .glass := by
  cases material <;> simp [materialRoutines]

theorem mem_needed_iff_needs {options : Options S} {objects : List (SceneObject S)}
    {routine : Routine} :
    routine ∈ neededRoutines options.target (parts options objects) ↔
      Needs options objects routine := by
  rw [mem_needed_iff, exists_node_iff]
  cases routine <;> simp [Needs, Made, mem_materialRoutines, screenRoutines, eq_comm]

/-- What a shader contains for an object list: for each id the part of the first object that has
it, and the routines that are needed. -/
structure Selects (options : Options S) (objects : List (SceneObject S)) (p : Plan S) : Prop where
  ascending : (p.objects.map (·.id)).Pairwise (· < ·)
  ids (id : UInt32) : id ∈ p.objects.map (·.id) ↔ id ∈ objects.map (·.id)
  emits : ∀ part ∈ p.objects, ∃ o, firstOf objects part.id = some o ∧ Emits options o part
  routines (routine : Routine) : routine ∈ p.routines ↔ Needs options objects routine

theorem planned_selects [Scalar S] (options : Options S) (objects : List (SceneObject S)) :
    Selects options objects (planned options (parts options objects)) := by
  have same : ∀ part, part ∈ (planned options (parts options objects)).objects ↔
      ∃ o, Counts objects o ∧ objectPart options o = part := by
    intro part
    show part ∈ List.mergeSort _ _ ↔ _
    rw [List.mem_mergeSort, ← exists_mem_parts (p := fun other => other = part)]
    simp
  refine ⟨?_, fun id => ?_, fun part member => ?_, fun routine => mem_needed_iff_needs⟩
  · exact List.pairwise_map.mpr
      (mergeSort_ascending ObjectPart.id (parts_ids_nodup options objects))
  · constructor
    · intro listed
      obtain ⟨part, member, rfl⟩ := List.mem_map.mp listed
      obtain ⟨o, counts, rfl⟩ := (same part).mp member
      rw [objectPart_id]
      exact List.mem_map_of_mem (List.mem_of_find?_eq_some counts)
    · intro listed
      obtain ⟨o, first⟩ := Option.isSome_iff_exists.mp (firstOf_isSome listed)
      have counts : Counts objects o := by rw [Counts, firstOf_id first, first]
      refine List.mem_map.mpr ⟨objectPart options o, (same _).mpr ⟨o, counts, rfl⟩, ?_⟩
      rw [objectPart_id, firstOf_id first]
  · obtain ⟨o, counts, rfl⟩ := (same part).mp member
    rw [objectPart_id]
    exact ⟨o, counts, objectPart_emits options o⟩

/-- A shader cannot be planned without samples, and not if an object that counts is too deep where
it is marched; of several such objects the first one of the list is reported. Otherwise the shader
has a part for each object that counts and exactly the routines that these need. -/
theorem plan_selects [Scalar S] (options : Options S) (objects : List (SceneObject S)) :
    ((∃ e, plan objects options = .error e) ↔
      options.numSamples = 0 ∨ ∃ o, TooDeep options objects o) ∧
    (∀ e, plan objects options = .error e ↔
      options.numSamples = 0 ∧ .invalidSampleCount = e ∨
        options.numSamples ≠ 0 ∧ ∃ o, IsFirst (TooDeep options objects) objects o ∧
          .sdfDepthExceeded o.id o.shape.toSdf.depth Sdf.maxDepth = e) ∧
    ∀ p, plan objects options = .ok p → Selects options objects p := by
  refine ⟨plan_fails_iff, fun e => plan_eq_error_iff, fun p success => ?_⟩
  obtain ⟨-, -, rfl⟩ := plan_eq_ok_iff.mp success
  exact planned_selects options objects

theorem deepBall_selected :
    (∃ p, plan boxBesideBalls .standard = .ok p ∧ Selects .standard boxBesideBalls p) ∧
      plan (deepBall :: ballBesideBox) .standard = .error (.sdfDepthExceeded 4 17 16) := by
  obtain ⟨-, -, selects⟩ := plan_selects .standard boxBesideBalls
  obtain ⟨-, refused, -⟩ := plan_selects .standard (deepBall :: ballBesideBox)
  obtain ⟨p, planned⟩ : ∃ p, plan boxBesideBalls .standard = .ok p := by
    refine ⟨_, plan_eq_ok_iff.mpr ⟨by decide, ?_, rfl⟩⟩
    decide
  have tooDeep : TooDeep .standard (deepBall :: ballBesideBox) deepBall :=
    ⟨rfl, .inr (.inr ⟨_, rfl⟩), by decide⟩
  exact ⟨⟨p, planned, selects p planned⟩,
    (refused _).mpr (.inr ⟨by decide, deepBall, ⟨[], _, rfl, tooDeep, fun _ => nofun⟩, by decide⟩)⟩

end RayScene.Shader
