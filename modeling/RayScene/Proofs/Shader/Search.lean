import RayScene.Proofs.Geometry.Crossing
import RayScene.Proofs.Shader.Declarations
import RayScene.Proofs.Shader.Unrounded

namespace RayScene.Wgsl.Unrounded

open Matrix Shader

def vectorContent (v : Vec3 ℝ) : Content := .vector v.toList

def rayContent (ray : Ray) : Content :=
  .record [("origin", vectorContent ray.origin), ("dir", vectorContent ray.dir)]

def hitContent (hit : Hit) : Content :=
  .record [("t", .number hit.t), ("p", vectorContent hit.place), ("n", vectorContent hit.normal),
    ("object_id", .unsigned hit.object), ("front_face", .flag hit.front)]

/-- The least parameter of a hit. -/
noncomputable def nearest : ℝ := (hitEpsilon : Single).value

/-- The greatest parameter of a hit. -/
noncomputable def farthest : ℝ := (Distance.far : Single).value

theorem nearest_pos : 0 < nearest := by
  have positive : (Scalar.zero : Single) < hitEpsilon := by decide
  rw [Single.lt_iff_value (by decide) (by decide), Single.zero_value] at positive
  exact positive

structure Basics (calls : Calls) (globals : Globals) : Prop where
  dot : ∀ a b : Vec3 ℝ,
    calls "dot" [vectorContent a, vectorContent b] = some (.number (a.coords ⬝ᵥ b.coords))
  sqrt : ∀ x : ℝ, calls "sqrt" [.number x] = some (.number √x)
  select : ∀ (no yes : Content) (choice : Bool),
    calls "select" [no, yes, .flag choice] = some (if choice then yes else no)
  splat : ∀ x : ℝ, calls "vec3f" [.number x] = some (vectorContent (Vec3.splat x))
  hit : ∀ t p n id front : Content, calls "Hit" [t, p, n, id, front] = some (.record
    [("t", t), ("p", p), ("n", n), ("object_id", id), ("front_face", front)])
  nearest : globals "HIT_EPSILON" = some (.number nearest)
  farthest : globals "MAX_DISTANCE" = some (.number farthest)
  noObject : globals "NO_OBJECT" = some (.unsigned Hit.noObject)

section Routines

variable {calls : Calls} {globals : Globals} {locals : Locals} {e : Expr Single} {x : ℝ}

theorem eval?_lt_zero (evaluated : eval? calls globals locals e = some (.number x)) :
    eval? calls globals locals (.lt e 0.0) = some (.flag (decide (x < 0))) := by
  refine (eval?_binary .lt evaluated rfl).trans ?_
  show some (Content.flag (decide (x < (0.0 : Single).value))) = _
  rw [Single.literal_zero_value]

theorem eval?_gt_zero (evaluated : eval? calls globals locals e = some (.number x)) :
    eval? calls globals locals (.gt e 0.0) = some (.flag (decide (0 < x))) := by
  refine (eval?_binary .gt evaluated rfl).trans ?_
  show some (Content.flag (decide ((0.0 : Single).value < x))) = _
  rw [Single.literal_zero_value]

theorem eval?_minus_one :
    eval? calls globals locals (-1.0 : Expr Single) = some (.number (-1)) := by
  show some (Content.number (-(1.0 : Single).value)) = _
  rw [Single.one_value]

variable (basics : Basics calls globals)

include basics

theorem noHit_run : run? calls globals noHit [] = some (hitContent (.none farthest)) := by
  have origin : eval? calls globals (parameters [] []) (.call "vec3f" [.float 0.0]) =
      some (vectorContent (Vec3.splat 0)) := by
    refine (basics.splat _).trans ?_
    rw [Single.literal_zero_value]
  have most : eval? calls globals (parameters [] []) (.var "MAX_DISTANCE") =
      some (.number farthest) := basics.farthest
  have none : eval? calls globals (parameters [] []) (.var "NO_OBJECT") =
      some (.unsigned Hit.noObject) := basics.noObject
  refine run?_of_block rfl (execBlock?_ret ?_)
  refine (eval?_call (evalAll?_cons most (evalAll?_cons origin (evalAll?_cons origin
    (evalAll?_cons none rfl))))).trans ?_
  exact basics.hit _ _ _ _ _

theorem surfaceHit_run (ray : Ray) (t : ℝ) (ball : Ball) :
    run? calls globals surfaceHit
        [rayContent ray, .number t, vectorContent (ray.outward ball t), .unsigned ball.id] =
      some (hitContent (ray.surface ball t)) := by
  let front := decide (ray.dir.coords ⬝ᵥ (ray.outward ball t).coords < 0)
  let normal := if front then ray.outward ball t else (ray.outward ball t).map (-·)
  refine run?_of_block rfl ?_
  refine (execBlock?_bind _ (.flag front) ?_ rfl).trans ?_
  · exact eval?_lt_zero (basics.dot _ _)
  refine (execBlock?_bind _ (vectorContent normal) ?_ rfl).trans ?_
  · rw [show vectorContent normal = _ from apply_ite _ _ _ _]
    exact basics.select _ _ front
  exact execBlock?_ret (basics.hit _ _ _ _ _)

/-- Whether a root is outside of the bounds of a search. -/
theorem eval?_outside {t most : ℝ} (root : locals "t" = some ⟨.number t, true⟩)
    (bound : locals "t_max" = some ⟨.number most, false⟩) (fresh : locals "HIT_EPSILON" = none) :
    eval? calls globals locals (.or (.lt (.var "t") (.var "HIT_EPSILON"))
        (.gt (.var "t") (.var "t_max"))) =
      some (.flag (decide (t < nearest ∨ most < t))) := by
  have least : eval? calls globals locals (.var "HIT_EPSILON") = some (.number nearest) :=
    (eval?_global fresh).trans basics.nearest
  rw [Bool.decide_or]
  exact eval?_binary .or (eval?_binary .lt (eval?_local root) least)
    (eval?_binary .gt (eval?_local root) (eval?_local bound))

theorem hitSphere_run (ray : Ray) (ball : Ball) (most : ℝ) :
    run? calls globals hitSphere
        [vectorContent ball.center, .number ball.radius, rayContent ray, .number most] =
      some (.number (ray.firstRoot ball nearest most)) := by
  refine run?_of_block rfl ?_
  refine (execBlock?_bind _ (vectorContent (ray.fromCenter ball)) rfl rfl).trans ?_
  refine (execBlock?_bind _ (.number (ray.passed ball)) ?_ rfl).trans ?_
  · exact basics.dot _ _
  refine (execBlock?_bind _ (.number
    ((ray.fromCenter ball).coords ⬝ᵥ (ray.fromCenter ball).coords - ball.radius * ball.radius))
    ?_ rfl).trans ?_
  · exact Eq.trans (eval?_binary .sub (basics.dot _ _) rfl) rfl
  refine (execBlock?_bind _ (.number (ray.discriminant ball)) rfl rfl).trans ?_
  by_cases none : ray.discriminant ball < 0
  · rw [Ray.firstRoot, if_pos none]
    refine execBlock?_leave _ ?_ (execBlock?_ret eval?_minus_one)
    exact Eq.trans (eval?_lt_zero rfl) (by rw [decide_eq_true none])
  rw [Ray.firstRoot, if_neg none]
  refine Eq.trans (execBlock?_skip _ ?_) ?_
  · exact Eq.trans (eval?_lt_zero rfl) (by rw [decide_eq_false none])
  refine (execBlock?_bind _ (.number √(ray.discriminant ball)) ?_ rfl).trans ?_
  · exact basics.sqrt _
  refine (execBlock?_declare _ (.number (ray.lowerRoot ball)) rfl rfl).trans ?_
  by_cases outside : ray.lowerRoot ball < nearest ∨ most < ray.lowerRoot ball
  · rw [if_pos outside]
    by_cases beyond : ray.upperRoot ball < nearest ∨ most < ray.upperRoot ball
    · rw [if_pos beyond]
      refine execBlock?_leave _ ?_ ?_
      · exact Eq.trans (eval?_outside basics rfl rfl rfl) (by rw [decide_eq_true outside])
      refine (execBlock?_assign _ (.number (ray.upperRoot ball)) rfl rfl).trans ?_
      refine execBlock?_leave _ ?_ (execBlock?_ret eval?_minus_one)
      exact Eq.trans (eval?_outside basics rfl rfl rfl) (by rw [decide_eq_true beyond])
    · rw [if_neg beyond]
      refine Eq.trans (execBlock?_enter _ ?_ (Eq.trans
        (execBlock?_assign _ (.number (ray.upperRoot ball)) rfl rfl)
        (Eq.trans (execBlock?_skip _ ?_) rfl))) (execBlock?_ret rfl)
      · exact Eq.trans (eval?_outside basics rfl rfl rfl) (by rw [decide_eq_true outside])
      · exact Eq.trans (eval?_outside basics rfl rfl rfl) (by rw [decide_eq_false beyond])
  · rw [if_neg outside]
    refine Eq.trans (execBlock?_skip _ ?_) (execBlock?_ret rfl)
    exact Eq.trans (eval?_outside basics rfl rfl rfl) (by rw [decide_eq_false outside])

end Routines

noncomputable def ballOf (sphere : UInt32 × Vec3 Single × Single) : Ball :=
  ⟨sphere.1, sphere.2.1.map Single.value, sphere.2.2.value⟩

def searchStep : UInt32 × Vec3 Single × Single → List (Stmt Single)
  | (id, center, radius) => [
    .bind s!"t{id}" (.call "hit_sphere"
      [.vec3 center, .float radius, .var "r", (Expr.var "closest").dot "t"]),
    .branch (.gt (.var s!"t{id}") 0.0) [
      .assign (.var "closest") .set (.call "surface_hit" [.var "r", .var s!"t{id}",
        .paren ((Expr.var "r").dot "origin" + .var s!"t{id}" * (Expr.var "r").dot "dir" -
          .vec3 center) / .float radius,
        .unsigned id.toNat])] []]

theorem sceneHit_body (spheres : List (UInt32 × Vec3 Single × Single)) (marches : Bool) :
    (sceneHit spheres marches).body =
      .declare "closest" (.call "no_hit" []) :: (spheres.flatMap searchStep ++
        ((if marches then [.assign (.var "closest") .set
          (.call "march" [.var "r", .var "closest"])] else []) ++ [.ret (.var "closest")])) := by
  rw [← List.append_assoc]
  rfl

structure Answers (calls : Calls) (march : Content → Content → Content)
    (spheres : List (UInt32 × Vec3 Single × Single)) : Prop where
  vector : ∀ x y z : ℝ,
    calls "vec3f" [.number x, .number y, .number z] = some (vectorContent ⟨x, y, z⟩)
  noHit : calls "no_hit" [] = some (hitContent (.none farthest))
  hitSphere : ∀ sphere ∈ spheres, ∀ (ray : Ray) (most : ℝ),
    calls "hit_sphere" [vectorContent (ballOf sphere).center, .number (ballOf sphere).radius,
      rayContent ray, .number most] =
      some (.number (ray.firstRoot (ballOf sphere) nearest most))
  surfaceHit : ∀ (ray : Ray) (t : ℝ) (ball : Ball),
    calls "surface_hit"
        [rayContent ray, .number t, vectorContent (ray.outward ball t), .unsigned ball.id] =
      some (hitContent (ray.surface ball t))
  march : ∀ ray closest, calls "march" [ray, closest] = some (march ray closest)

structure Searching (ray : Ray) (hit : Hit) (remaining : List UInt32) (locals : Locals) : Prop where
  ray : locals "r" = some ⟨rayContent ray, false⟩
  closest : locals "closest" = some ⟨hitContent hit, true⟩
  fresh : ∀ id ∈ remaining, locals s!"t{id}" = none

theorem rootName_initial (id : UInt32) : s!"t{id}".toList.head? = some 't' :=
  initial_append (toString id) (by decide)

theorem ne_rootName {name : String} (initial : name.toList.head? ≠ some 't') (id : UInt32) :
    name ≠ s!"t{id}" := by
  rintro rfl
  exact initial (rootName_initial id)

theorem rootName_injective {a b : UInt32} (same : s!"t{a}" = s!"t{b}") : a = b :=
  idText_injective ((String.append_right_inj _).mp same)

section Search

variable {calls : Calls} (globals : Globals) {march : Content → Content → Content}
  {spheres : List (UInt32 × Vec3 Single × Single)} (answers : Answers calls march spheres)
  {ray : Ray} {hit : Hit} {locals : Locals}

/-- The root of the next sphere is bound to a name of its own. -/
theorem Searching.bind {sphere : UInt32 × Vec3 Single × Single} {remaining : List UInt32}
    (searching : Searching ray hit (sphere.1 :: remaining) locals)
    (others : ∀ id ∈ remaining, id ≠ sphere.1) (root : ℝ) :
    Searching ray hit remaining
      (Function.update locals s!"t{sphere.1}" (some ⟨.number root, false⟩)) where
  ray := by rw [Function.update_of_ne (ne_rootName (by decide) _), searching.ray]
  closest := by rw [Function.update_of_ne (ne_rootName (by decide) _), searching.closest]
  fresh id member := by
    rw [Function.update_of_ne fun same => others id member (rootName_injective same)]
    exact searching.fresh id (List.mem_cons_of_mem _ member)

theorem Searching.assign {remaining : List UInt32} (searching : Searching ray hit remaining locals)
    (nearer : Hit) : Searching ray nearer remaining
      (Function.update locals "closest" (some ⟨hitContent nearer, true⟩)) where
  ray := by rw [Function.update_of_ne (by decide), searching.ray]
  closest := Function.update_self ..
  fresh id member := by
    rw [Function.update_of_ne (ne_rootName (by decide) id).symm, searching.fresh id member]

include answers

theorem eval?_center (center : Vec3 Single) :
    eval? calls globals locals (.vec3 center) = some (vectorContent (center.map Single.value)) :=
  answers.vector _ _ _

theorem eval?_root {sphere : UInt32 × Vec3 Single × Single} (member : sphere ∈ spheres)
    {remaining : List UInt32} (searching : Searching ray hit remaining locals) :
    eval? calls globals locals (.call "hit_sphere" [.vec3 sphere.2.1, .float sphere.2.2, .var "r",
      (Expr.var "closest").dot "t"]) =
      some (.number (ray.firstRoot (ballOf sphere) nearest hit.t)) := by
  have bound : eval? calls globals locals ((Expr.var "closest").dot "t") = some (.number hit.t) :=
    eval?_member "t" (eval?_local searching.closest)
  refine (eval?_call (evalAll?_cons (eval?_center globals answers _) (evalAll?_cons rfl
    (evalAll?_cons (eval?_local searching.ray) (evalAll?_cons bound rfl))))).trans ?_
  exact answers.hitSphere sphere member ray hit.t

theorem eval?_surface (sphere : UInt32 × Vec3 Single × Single) {remaining : List UInt32} {t : ℝ}
    (searching : Searching ray hit remaining locals)
    (root : locals s!"t{sphere.1}" = some ⟨.number t, false⟩) :
    eval? calls globals locals (.call "surface_hit" [.var "r", .var s!"t{sphere.1}",
      .paren ((Expr.var "r").dot "origin" + .var s!"t{sphere.1}" * (Expr.var "r").dot "dir" -
        .vec3 sphere.2.1) / .float sphere.2.2, .unsigned sphere.1.toNat]) =
      some (hitContent (ray.surface (ballOf sphere) t)) := by
  have origin : eval? calls globals locals ((Expr.var "r").dot "origin") =
      some (vectorContent ray.origin) := eval?_member "origin" (eval?_local searching.ray)
  have dir : eval? calls globals locals ((Expr.var "r").dot "dir") =
      some (vectorContent ray.dir) := eval?_member "dir" (eval?_local searching.ray)
  have place : eval? calls globals locals ((Expr.var "r").dot "origin" +
      .var s!"t{sphere.1}" * (Expr.var "r").dot "dir") = some (vectorContent (ray.point t)) :=
    (eval?_binary .add origin (eval?_binary .mul (eval?_local root) dir)).trans rfl
  have outward : eval? calls globals locals (.paren ((Expr.var "r").dot "origin" +
      .var s!"t{sphere.1}" * (Expr.var "r").dot "dir" - .vec3 sphere.2.1) / .float sphere.2.2) =
      some (vectorContent (ray.outward (ballOf sphere) t)) :=
    (eval?_binary .div (eval?_binary .sub place (eval?_center globals answers _)) rfl).trans rfl
  have id : eval? calls globals locals (.unsigned sphere.1.toNat) =
      some (.unsigned (ballOf sphere).id) :=
    congrArg (some ∘ Content.unsigned) UInt32.ofNat_toNat
  refine (eval?_call (evalAll?_cons (eval?_local searching.ray) (evalAll?_cons (eval?_local root)
    (evalAll?_cons outward (evalAll?_cons id rfl))))).trans ?_
  exact answers.surfaceHit ray t (ballOf sphere)

/-- One sphere of the search, whatever is executed behind it. -/
theorem searchStep_exec {sphere : UInt32 × Vec3 Single × Single} (member : sphere ∈ spheres)
    {remaining : List UInt32} (searching : Searching ray hit (sphere.1 :: remaining) locals)
    (others : ∀ id ∈ remaining, id ≠ sphere.1) (rest : List (Stmt Single)) :
    ∃ after, Searching ray (ray.nearer (ballOf sphere) nearest hit) remaining after ∧
      execBlock? calls globals locals (searchStep sphere ++ rest) =
        execBlock? calls globals after rest := by
  obtain ⟨id, center, radius⟩ := sphere
  let root := ray.firstRoot (ballOf (id, center, radius)) nearest hit.t
  let inner := Function.update locals s!"t{id}" (some ⟨.number root, false⟩)
  have searched : Searching ray hit remaining inner := searching.bind others root
  have named : inner s!"t{id}" = some ⟨.number root, false⟩ := Function.update_self ..
  have bound (behind : List (Stmt Single)) := execBlock?_bind behind (.number root)
    (eval?_root globals answers member searching) (searching.fresh _ List.mem_cons_self)
  have tested : eval? calls globals inner (.gt (.var s!"t{id}") 0.0) =
      some (.flag (decide (0 < root))) := eval?_gt_zero (eval?_local named)
  unfold Ray.nearer
  by_cases found : 0 < root
  · rw [decide_eq_true found] at tested
    have surface := eval?_surface globals answers (id, center, radius) searched named
    have assigned := execBlock?_assign [] _ surface searched.closest
    refine ⟨_, ?_, (bound _).trans (execBlock?_enter rest tested assigned)⟩
    rw [if_pos found, Locals.leaveBlock_update _ searched.closest]
    exact searched.assign _
  · rw [decide_eq_false found] at tested
    refine ⟨inner, ?_, (bound _).trans (execBlock?_skip rest tested)⟩
    rw [if_neg found]
    exact searched

/-- The search through all spheres, whatever is executed behind it. -/
theorem search_exec {remaining : List (UInt32 × Vec3 Single × Single)}
    (members : remaining ⊆ spheres) (distinct : (remaining.map (·.1)).Nodup)
    (searching : Searching ray hit (remaining.map (·.1)) locals) (rest : List (Stmt Single)) :
    ∃ after, Searching ray ((remaining.map ballOf).foldl
        (fun hit ball => ray.nearer ball nearest hit) hit) [] after ∧
      execBlock? calls globals locals (remaining.flatMap searchStep ++ rest) =
        execBlock? calls globals after rest := by
  induction remaining generalizing hit locals with
  | nil => exact ⟨locals, searching, rfl⟩
  | cons sphere remaining ih =>
      obtain ⟨member, members⟩ := List.cons_subset.mp members
      obtain ⟨apart, distinct⟩ := List.nodup_cons.mp distinct
      have others : ∀ id ∈ remaining.map (·.1), id ≠ sphere.1 := by
        rintro id later rfl
        exact apart later
      obtain ⟨inner, searched, step⟩ := searchStep_exec globals answers member
        searching others (remaining.flatMap searchStep ++ rest)
      obtain ⟨after, done, steps⟩ := ih members distinct searched
      rw [List.flatMap_cons, List.append_assoc, step]
      exact ⟨after, done, steps⟩

theorem sceneHit_run (distinct : (spheres.map (·.1)).Nodup) (marches : Bool) :
    let closest := (spheres.map ballOf).foldl (fun hit ball => ray.nearer ball nearest hit)
      (.none farthest)
    run? calls globals (sceneHit spheres marches) [rayContent ray] =
      some (if marches then march (rayContent ray) (hitContent closest)
        else hitContent closest) := by
  intro closest
  let start : Locals := parameters (sceneHit spheres marches).parameters [rayContent ray]
  have started (behind : List (Stmt Single)) :
      execBlock? calls globals start (.declare "closest" (.call "no_hit" []) :: behind) =
        execBlock? calls globals
          (Function.update start "closest" (some ⟨hitContent (.none farthest), true⟩)) behind :=
    execBlock?_declare behind _ answers.noHit rfl
  have searching : Searching ray (.none farthest) (spheres.map (·.1))
      (Function.update start "closest" (some ⟨hitContent (.none farthest), true⟩)) := by
    refine ⟨rfl, rfl, fun id _ => ?_⟩
    rw [Function.update_of_ne (ne_rootName (by decide) id).symm]
    show Option.map _ (List.lookup _ [("r", rayContent ray)]) = none
    rw [List.lookup_cons, beq_false_of_ne (ne_rootName (by decide) id).symm]
    rfl
  obtain ⟨after, done, steps⟩ := search_exec globals answers (List.Subset.refl _) distinct searching
    ((if marches then [.assign (.var "closest") .set
      (.call "march" [.var "r", .var "closest"])] else []) ++ [.ret (.var "closest")])
  refine run?_of_block rfl ?_
  rw [sceneHit_body]
  refine (started _).trans (steps.trans ?_)
  cases marches with
  | false => exact execBlock?_ret (eval?_local done.closest)
  | true =>
      have called : eval? calls globals after (.call "march" [.var "r", .var "closest"]) =
          some (march (rayContent ray) (hitContent closest)) :=
        (eval?_call (evalAll?_cons (eval?_local done.ray)
          (evalAll?_cons (eval?_local done.closest) rfl))).trans (answers.march _ _)
      refine (execBlock?_assign _ _ called done.closest).trans ?_
      exact execBlock?_ret (eval?_local (Function.update_self ..))

end Search

end RayScene.Wgsl.Unrounded
