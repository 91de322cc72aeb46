import RayScene.Geometry.Validity
import RayScene.Proofs.Geometry.Regular
import RayScene.Proofs.Geometry.Trees
import RayScene.Proofs.Shader.StraightLine
import RayScene.Shader.FieldChain

/-!
The function of a tree computes the distance of the tree. A chain is run behind constants whose
numbers it has not given out yet; it keeps those constants and binds its result to the distance.
-/

namespace RayScene.Shader.FieldChain

open Wgsl

variable {S : Type} [Scalar S]

/-- The functions that chains call, by what they compute outside of shaders. -/
def library : Library S
  | "vec3f", [.number x, .number y, .number z] => some (.vector ⟨x, y, z⟩)
  | "sdf_sphere", [.vector p, .vector dims] => some (.number (Distance.sphere p dims))
  | "sdf_box", [.vector p, .vector dims] => some (.number (Distance.box p dims))
  | "sdf_torus", [.vector p, .vector dims] => some (.number (Distance.torus p dims))
  | "sdf_cylinder", [.vector p, .vector dims] => some (.number (Distance.cylinder p dims))
  | "min", [.number a, .number b] => some (.number (Scalar.min a b))
  | "max", [.number a, .number b] => some (.number (Scalar.max a b))
  | "smooth_union", [.number a, .number b, .number k] =>
    some (.number (Distance.smoothUnion a b k))
  | "inverse_rotate", [.vector p, .vector angles] =>
    some (.vector (Distance.inverseRotate p angles))
  | "repeat_domain", [.vector p, .vector period] =>
    some (.vector (Distance.repeatDomain p period))
  | _, _ => none

theorem eval_var {env : Env S} {name : String} {value : Value S}
    (bound : env.lookup name = some value) :
    (Expr.var name : Expr S).eval library env = .ok value := by
  simp only [Expr.eval, bound]

theorem eval_vec3 (env : Env S) (v : Vec3 S) :
    (Expr.vec3 v).eval library env = .ok (.vector v) := by
  rfl

theorem primitive_call (kind : Primitive) (p dims : Vec3 S) :
    library ("sdf_" ++ kind.name) [.vector p, .vector dims] =
      some (.number (kind.distance p dims)) := by
  cases kind <;> rfl

def Below (count : Nat) (env : Env S) : Prop :=
  ∀ name value, env.lookup name = some value → ∃ (letter : Char) (n : Nat),
    name = s!"{letter}{n}" ∧ n ≤ count

theorem name_toList (letter : Char) (n : Nat) :
    s!"{letter}{n}".toList = letter :: Nat.toDigits 10 n := by
  simp [toString, Char.toString, Nat.toList_repr]

theorem number_injective {a b : Char} {m n : Nat} (same : s!"{a}{m}" = s!"{b}{n}") : m = n := by
  have characters := congrArg String.toList same
  rw [name_toList, name_toList, List.cons.injEq] at characters
  rw [← Nat.ofDigitChars_ten_toDigits (n := m), characters.2, Nat.ofDigitChars_ten_toDigits]

omit [Scalar S] in
theorem Below.fresh {env : Env S} {count : Nat} (below : Below count env) (letter : Char) :
    env.lookup s!"{letter}{count + 1}" = none := by
  rcases found : env.lookup s!"{letter}{count + 1}" with _ | value
  · rfl
  · obtain ⟨other, n, same, bound⟩ := below _ value found
    have numbers := number_injective same
    omega

structure Reaches (env : Env S) (chain : FieldChain S) (value : Value S) (after : Env S) :
    Prop where
  runs : bindAll library env chain.links = .ok after
  result : after.lookup chain.result = some value
  kept : ∀ name v, env.lookup name = some v → after.lookup name = some v
  below : Below chain.count after

theorem reaches_single {env : Env S} {count : Nat} {value : Value S} {expr : Expr S}
    (letter : Char) (below : Below count env) (evaluates : expr.eval library env = .ok value) :
    ∃ after, Reaches env (single letter expr count) value after := by
  have fresh := below.fresh letter
  refine ⟨(s!"{letter}{count + 1}", value) :: env, ?_, ?_, ?_, ?_⟩
  · simp only [single, bindAll, evaluates, Env.bind, fresh, bind, Except.bind]
  · simp only [single, List.lookup_cons_self]
  · intro name v bound
    have other : name ≠ s!"{letter}{count + 1}" := by
      intro same
      rw [same, fresh] at bound
      cases bound
    simp only [List.lookup_cons, beq_false_of_ne other, bound]
  · intro name v bound
    simp only [List.lookup_cons] at bound
    split at bound
    next same => exact ⟨letter, count + 1, eq_of_beq same, Nat.le_refl _⟩
    next =>
      obtain ⟨other, n, same, le⟩ := below name v bound
      exact ⟨other, n, same, Nat.le_succ_of_le le⟩

theorem Reaches.andThen {env middle after : Env S} {chain : FieldChain S}
    {next : String → Nat → FieldChain S} {first second : Value S}
    (reaches : Reaches env chain first middle)
    (rest : Reaches middle (next chain.result chain.count) second after) :
    Reaches env (chain.andThen next) second after where
  runs := by
    simp only [FieldChain.andThen, bindAll_append, reaches.runs, bind, Except.bind, rest.runs]
  result := rest.result
  kept name v bound := rest.kept name v (reaches.kept name v bound)
  below := rest.below

/-- The expression of a joint stands for the combination of what its names are bound to. -/
def Joins (joint : Joint S) (combine : S → S → S) : Prop :=
  ∀ (env : Env S) (a b : String) (x y : S), env.lookup a = some (.number x) →
    env.lookup b = some (.number y) → (joint a b).eval library env = .ok (.number (combine x y))

theorem lesser_joins : Joins lesser (Scalar.min (S := S)) := by
  intro env a b x y left right
  simp only [lesser, call, Expr.eval, evalAll, left, right]
  rfl

theorem greater_joins : Joins greater (Scalar.max (S := S)) := by
  intro env a b x y left right
  simp only [greater, call, Expr.eval, evalAll, left, right]
  rfl

theorem blended_joins (k : S) : Joins (blended k) (Distance.smoothUnion · · k) := by
  intro env a b x y left right
  simp only [blended, call, Expr.eval, evalAll, left, right]
  rfl

theorem carved_joins : Joins carved (fun x y : S => Scalar.max x (-y)) := by
  intro env a b x y left right
  simp only [carved, call, Expr.eval, evalAll, left, right]
  rfl

theorem eval_call {env : Env S} (function : String) {point : String} {p q : Vec3 S} (v : Vec3 S)
    (bound : env.lookup point = some (.vector p))
    (calls : library function [.vector p, .vector v] = some (.vector q)) :
    (call function [.var point, .vec3 v]).eval library env = .ok (.vector q) := by
  simp only [call, Expr.eval, evalAll, bound, eval_vec3]
  simp only [bind, Except.bind, pure, Except.pure, calls]

theorem eval_minus {env : Env S} {point : String} {p : Vec3 S} (v : Vec3 S)
    (bound : env.lookup point = some (.vector p)) :
    (.var point - .vec3 v : Expr S).eval library env = .ok (.vector (p - v)) := by
  show (do (← Expr.eval library env (.var point)).minus (← Expr.eval library env (.vec3 v))) = _
  rw [eval_var bound, eval_vec3]
  rfl

section Regular

variable [Scalar.Regular S]

theorem sub_isZero (p : Vec3 S) {v : Vec3 S} (zero : v.isZero = true) : p - v = p := by
  simp only [Vec3.isZero, Vec3.toList, List.all_cons, List.all_nil, Bool.and_true,
    Bool.and_eq_true] at zero
  obtain ⟨x, y, z⟩ := zero
  show (⟨p.x - v.x, p.y - v.y, p.z - v.z⟩ : Vec3 S) = p
  rw [Scalar.Regular.sub_zero _ _ x, Scalar.Regular.sub_zero _ _ y,
    Scalar.Regular.sub_zero _ _ z]

theorem eval_primitiveCall {env : Env S} {point : String} {p : Vec3 S} (kind : Primitive)
    (position dimensions : Vec3 S) (bound : env.lookup point = some (.vector p)) :
    (primitiveCall kind position dimensions point).eval library env =
      .ok (.number (kind.distance (p - position) dimensions)) := by
  have placed : (if position.isZero then .var point else .var point - .vec3 position :
      Expr S).eval library env = .ok (.vector (p - position)) := by
    split
    next zero => rw [eval_var bound, sub_isZero p zero]
    next => exact eval_minus position bound
  simp only [primitiveCall, call, Expr.eval, evalAll, placed, eval_vec3]
  simp only [bind, Except.bind, pure, Except.pure, primitive_call]

def Sound (tree : Sdf S) : Prop := ∀ node ∈ tree.subtrees, node.nodeError? = none

omit [Scalar.Regular S] in
theorem Sound.of_isValid {tree : Sdf S} (valid : tree.IsValid) : Sound tree := by
  unfold Sdf.IsValid Sdf.error? at valid
  split at valid
  · cases valid
  · exact List.findSome?_eq_none_iff.mp valid

omit [Scalar.Regular S] in
theorem Sound.node {tree : Sdf S} (sound : Sound tree) : tree.nodeError? = none :=
  sound tree tree.mem_subtrees_self

omit [Scalar.Regular S] in
theorem Sound.child {tree child : Sdf S} (sound : Sound tree) (member : child ∈ tree.children) :
    Sound child :=
  fun node inside => sound node (Sdf.subtrees_subset member inside)

omit [Scalar.Regular S] in
theorem Sound.nonempty {f : List (Sdf S) → Sdf S} {children : List (Sdf S)} {e : SdfError S}
    (sound : Sound (f children)) (faulty : (f []).nodeError? = some e) : children ≠ [] := by
  rintro rfl
  rw [sound.node] at faulty
  cases faulty

omit [Scalar.Regular S] in
theorem Sound.smoothing {k : S} {children : List (Sdf S)}
    (sound : Sound (.smoothUnion k children)) : Scalar.zero < k := by
  have checked := sound.node
  cases children with
  | nil => cases checked
  | cons child children =>
      simp only [Sdf.nodeError?, ite_eq_left_iff, reduceCtorEq, imp_false, not_not] at checked
      exact of_decide_eq_true (Bool.and_eq_true_iff.mp checked).2

def Folds (combine : S → S → S) (total : List S → S) : Prop :=
  ∀ d ds, total (d :: ds) = ds.foldl combine d

theorem min_folds : Folds Scalar.min fun ds : List S => ds.foldl Scalar.min Scalar.infinity := by
  intro d ds
  simp only [List.foldl_cons, Scalar.Regular.infinity_min]

theorem max_folds :
    Folds Scalar.max fun ds : List S => ds.foldl Scalar.max (-Scalar.infinity) := by
  intro d ds
  simp only [List.foldl_cons, Scalar.Regular.neg_infinity_max]

omit [Scalar.Regular S] in
theorem blend_folds (k : S) : Folds (Distance.smoothUnion · · k) (Sdf.blend k) :=
  fun _ _ => rfl

end Regular

mutual

theorem ofTree_reaches [Scalar.Regular S] (tree : Sdf S) (sound : Sound tree) {env : Env S}
    {count : Nat} {point : String} {p : Vec3 S} (below : Below count env)
    (bound : env.lookup point = some (.vector p)) :
    ∃ after, Reaches env (ofTree tree point count) (.number (tree.distance p)) after := by
  match tree with
  | .primitive kind position dimensions =>
      exact reaches_single 'd' below (eval_primitiveCall kind position dimensions bound)
  | .union children =>
      rw [Sdf.distance]
      exact ofChildren_reaches lesser_joins min_folds children (sound.nonempty rfl)
        (fun _ member => sound.child member) below bound
  | .intersection children =>
      rw [Sdf.distance]
      exact ofChildren_reaches greater_joins max_folds children (sound.nonempty rfl)
        (fun _ member => sound.child member) below bound
  | .smoothUnion k children =>
      rw [ofTree, if_pos sound.smoothing, Sdf.distance]
      exact ofChildren_reaches (blended_joins k) (blend_folds k) children (sound.nonempty rfl)
        (fun _ member => sound.child member) below bound
  | .subtraction base cut =>
      -- The second chain only adds names, so the result of the first is still there to be carved.
      obtain ⟨first, whole⟩ :=
        ofTree_reaches base (sound.child (by simp [Sdf.children])) below bound
      obtain ⟨second, cutting⟩ := ofTree_reaches cut (sound.child (by simp [Sdf.children]))
        whole.below (whole.kept _ _ bound)
      have joined := carved_joins second _ _ _ _ (cutting.kept _ _ whole.result) cutting.result
      obtain ⟨third, carving⟩ := reaches_single 'd' cutting.below joined
      exact ⟨third, whole.andThen (cutting.andThen carving)⟩
  | .translate offset child =>
      obtain ⟨first, moved⟩ := reaches_single 'p' below (eval_minus offset bound)
      obtain ⟨second, inner⟩ := ofTree_reaches child (sound.child (by simp [Sdf.children]))
        moved.below moved.result
      exact ⟨second, moved.andThen inner⟩
  | .rotate angles child =>
      have evaluates := eval_call "inverse_rotate" angles bound rfl
      obtain ⟨first, turned⟩ := reaches_single 'p' below evaluates
      obtain ⟨second, inner⟩ := ofTree_reaches child (sound.child (by simp [Sdf.children]))
        turned.below turned.result
      exact ⟨second, turned.andThen inner⟩
  | .repeated period child =>
      have evaluates := eval_call "repeat_domain" period bound rfl
      obtain ⟨first, folded⟩ := reaches_single 'p' below evaluates
      obtain ⟨second, inner⟩ := ofTree_reaches child (sound.child (by simp [Sdf.children]))
        folded.below folded.result
      exact ⟨second, folded.andThen inner⟩

theorem ofChildren_reaches [Scalar.Regular S] {joint : Joint S} {combine : S → S → S}
    {total : List S → S} (joins : Joins joint combine) (folds : Folds combine total)
    (children : List (Sdf S)) (nonempty : children ≠ [])
    (sound : ∀ child ∈ children, Sound child) {env : Env S} {count : Nat} {point : String}
    {p : Vec3 S} (below : Below count env) (bound : env.lookup point = some (.vector p)) :
    ∃ after, Reaches env (ofTrees joint none children point count)
      (.number (total (Sdf.distances children p))) after := by
  match children with
  | child :: children =>
      obtain ⟨first, reached⟩ := ofTree_reaches child (sound child (by simp)) below bound
      obtain ⟨second, rest⟩ := ofTrees_reaches joins children
        (fun other member => sound other (List.mem_cons_of_mem _ member)) reached.below
        (reached.kept _ _ bound) reached.result
      rw [Sdf.distances, folds]
      exact ⟨second, reached.andThen rest⟩

theorem ofTrees_reaches [Scalar.Regular S] {joint : Joint S} {combine : S → S → S}
    (joins : Joins joint combine) (children : List (Sdf S))
    (sound : ∀ child ∈ children, Sound child) {env : Env S} {count : Nat} {point sum : String}
    {p : Vec3 S} {total : S} (below : Below count env)
    (bound : env.lookup point = some (.vector p))
    (summed : env.lookup sum = some (.number total)) :
    ∃ after, Reaches env (ofTrees joint (some sum) children point count)
      (.number ((Sdf.distances children p).foldl combine total)) after := by
  match children with
  | [] => exact ⟨env, rfl, summed, fun _ _ kept => kept, below⟩
  | child :: children =>
      obtain ⟨first, reached⟩ := ofTree_reaches child (sound child (by simp)) below bound
      have joined := joins first sum _ total _ (reached.kept _ _ summed) reached.result
      obtain ⟨second, combined⟩ := reaches_single 'd' reached.below joined
      obtain ⟨third, rest⟩ := ofTrees_reaches joins children
        (fun other member => sound other (List.mem_cons_of_mem _ member)) combined.below
        (combined.kept _ _ (reached.kept _ _ bound)) combined.result
      exact ⟨third, reached.andThen (combined.andThen rest)⟩

end

theorem boundNames_function (id : UInt32) (tree : Sdf S) :
    (function id tree).boundNames =
      startPoint :: (ofTree tree startPoint 0).links.map (·.1) := by
  simp only [function, Function.plain, Function.boundNames, List.map_cons, List.map_nil,
    List.singleton_append, List.filterMap_append, List.filterMap_map]
  simp

noncomputable def everyOperator : Sdf EReal :=
  .subtraction
    (.union [.primitive .sphere (Vec3.splat 0) (Vec3.splat 1),
      .translate (Vec3.splat 2) (.primitive .box (Vec3.splat 1) (Vec3.splat 1))])
    (.intersection [.rotate (Vec3.splat 1) (.primitive .torus (Vec3.splat 0) (Vec3.splat 1)),
      .smoothUnion 1 [.repeated (Vec3.splat 1) (.primitive .cylinder (Vec3.splat 0) (Vec3.splat 1)),
        .primitive .sphere (Vec3.splat 1) (Vec3.splat 1)]])

theorem everyOperator_valid : everyOperator.IsValid := by
  have positive : Scalar.isPositive (1 : EReal) = true := by
    rw [Extended.isPositive_iff]
    exact ⟨zero_lt_one, EReal.coe_ne_top 1⟩
  simp [Sdf.IsValid, Sdf.error?, everyOperator, Sdf.depth, Sdf.depthOfAll, Sdf.maxDepth,
    Sdf.subtrees, Sdf.subtreesOfAll, Sdf.nodeError?, Vec3.toList, Vec3.splat,
    Primitive.arity, positive]

end RayScene.Shader.FieldChain
