import RayScene.Proofs.Shader.Requirements

namespace RayScene.Shader

open Wgsl

variable {S : Type}

theorem Basis.within_vec3 {known : Mention → Prop} (basis : Basis known) {letters : List Char}
    {scope : List String} (lettered : Lettered letters scope) (apart : 'v' ∉ letters)
    (v : Vec3 S) : (Expr.vec3 v).Within known scope := by
  refine lettered.within_call ?_ (basis.builtin (by decide)) ?_
  · rw [startsIn_eq (by decide : "vec3f".toList.head? = some 'v')]
    simpa using apart
  · intro e member
    obtain ⟨value, -, rfl⟩ := List.mem_map.mp member
    exact Expr.within_float value

theorem Basis.within_constant {known : Mention → Prop} (basis : Basis known)
    {scope : List String} {name : String} (constant : .value name ∈ constantMentions) :
    (Expr.var name : Expr S).Within known scope := by
  intro mention used
  rw [Expr.mentions, variableMentions] at used
  split at used
  · cases used
  · rw [List.mem_singleton.mp used]
    exact basis.constants _ constant

def Serves (known : Mention → Prop) (nodes : List (Sdf S)) : Prop :=
  ∀ node ∈ nodes, ∀ routine, nodeRoutine? node = some routine →
    ∀ mention ∈ routine.declares, known mention

namespace FieldChain

def block (chain : FieldChain S) : List (Stmt S) :=
  chain.links.map fun (name, value) => .bind name value

def letters : List Char := ['p', 'd']

/-- A chain behind some local names uses only those, its own and what satisfies a condition. -/
structure Fits (known : Mention → Prop) (scope : List String) (chain : FieldChain S) : Prop where
  within : BlockWithin known scope chain.block
  result : chain.result ∈ scopeAfter scope chain.block
  lettered : Lettered letters (scopeAfter scope chain.block)

/-- The expression of a joint uses only the names it joins and what satisfies a condition. -/
def JointFits (known : Mention → Prop) (joint : Joint S) : Prop :=
  ∀ {scope : List String} {a b : String}, Lettered letters scope → a ∈ scope → b ∈ scope →
    (joint a b).Within known scope

variable {known : Mention → Prop} {scope : List String}

theorem fits_single {letter : Char} {value : Expr S} (count : Nat) (member : letter ∈ letters)
    (lettered : Lettered letters scope) (uses : value.Within known scope) :
    Fits known scope (single letter value count) where
  within := within_cons.mpr ⟨uses, within_nil⟩
  result := List.mem_cons_self
  lettered := lettered.cons member (by simp [toString, Char.toString])

theorem Fits.andThen {chain : FieldChain S} {next : String → Nat → FieldChain S}
    (fits : Fits known scope chain)
    (rest : Fits known (scopeAfter scope chain.block) (next chain.result chain.count)) :
    Fits known scope (chain.andThen next) := by
  have blocks : (chain.andThen next).block =
      chain.block ++ (next chain.result chain.count).block := List.map_append
  constructor
  · rw [blocks, within_append]
    exact ⟨fits.within, rest.within⟩
  · rw [blocks, scopeAfter_append]
    exact rest.result
  · rw [blocks, scopeAfter_append]
    exact rest.lettered

theorem lesser_fits (basis : Basis known) : JointFits known (lesser : Joint S) := by
  intro scope a b lettered left right
  refine lettered.within_call (by decide) (basis.builtin (by decide)) ?_
  exact Expr.within_pair (Expr.within_var left) (Expr.within_var right)

theorem greater_fits (basis : Basis known) : JointFits known (greater : Joint S) := by
  intro scope a b lettered left right
  refine lettered.within_call (by decide) (basis.builtin (by decide)) ?_
  exact Expr.within_pair (Expr.within_var left) (Expr.within_var right)

theorem carved_fits (basis : Basis known) : JointFits known (carved : Joint S) := by
  intro scope a b lettered left right
  have negated : (Expr.neg (.var b) : Expr S).Within known scope :=
    Expr.within_var (S := S) right
  refine lettered.within_call (by decide) (basis.builtin (by decide)) ?_
  exact Expr.within_pair (Expr.within_var left) negated

theorem blended_fits (k : S) (smooth : known (.function "smooth_union")) :
    JointFits known (blended k) := by
  intro scope a b lettered left right
  refine lettered.within_call (by decide) smooth (List.forall_mem_cons.mpr ?_)
  exact ⟨Expr.within_var left,
    Expr.within_pair (Expr.within_var right) (Expr.within_float k)⟩

theorem within_moved (basis : Basis known) {point : String} (lettered : Lettered letters scope)
    (bound : point ∈ scope) (v : Vec3 S) :
    (.var point - .vec3 v : Expr S).Within known scope :=
  Expr.within_binary .sub (Expr.within_var bound) (basis.within_vec3 lettered (by decide) v)

/-- A point mapped by a function that takes a constant vector too. -/
theorem map_fits (basis : Basis known) {function point : String} (count : Nat)
    (lettered : Lettered letters scope) (bound : point ∈ scope)
    (apart : startsIn letters function = false)
    (target : known (.function function)) (v : Vec3 S) :
    Fits known scope (single 'p' (call function [.var point, .vec3 v]) count) := by
  refine fits_single count (by decide) lettered (lettered.within_call apart target ?_)
  exact Expr.within_pair (Expr.within_var bound) (basis.within_vec3 lettered (by decide) v)

variable [Scalar S]

theorem primitive_fits (basis : Basis known) (kind : Primitive) (position dimensions : Vec3 S)
    {point : String} (count : Nat) (lettered : Lettered letters scope) (bound : point ∈ scope)
    (target : known (.function ("sdf_" ++ kind.name))) :
    Fits known scope (single 'd' (primitiveCall kind position dimensions point) count) := by
  have apart : startsIn letters ("sdf_" ++ kind.name) = false := by
    cases kind <;> decide
  refine fits_single count (by decide) lettered (lettered.within_call apart target ?_)
  refine Expr.within_pair ?_ (basis.within_vec3 lettered (by decide) dimensions)
  split
  · exact Expr.within_var bound
  · exact within_moved basis lettered bound position

mutual

/-- The chain of any tree, valid or not, uses the language, the routines of its nodes and nothing
else. -/
theorem ofTree_fits (basis : Basis known) (tree : Sdf S) (serves : Serves known tree.subtrees)
    {scope : List String} {point : String} (count : Nat) (lettered : Lettered letters scope)
    (bound : point ∈ scope) : Fits known scope (ofTree tree point count) := by
  match tree with
  | .primitive kind position dimensions =>
      have declared : .function ("sdf_" ++ kind.name) ∈ (Routine.primitive kind).declares := by
        cases kind <;> decide
      exact primitive_fits basis kind position dimensions count lettered bound
        (serves _ List.mem_cons_self _ rfl _ declared)
  | .union children =>
      have below : Serves known (Sdf.subtreesOfAll children) := (List.forall_mem_cons.mp serves).2
      exact ofTrees_fits basis (lesser_fits basis) children below none count lettered bound
        (by simp)
  | .intersection children =>
      have below : Serves known (Sdf.subtreesOfAll children) := (List.forall_mem_cons.mp serves).2
      exact ofTrees_fits basis (greater_fits basis) children below none count lettered bound
        (by simp)
  | .smoothUnion k children =>
      have smooth : known (.function "smooth_union") :=
        serves _ List.mem_cons_self .smoothUnion rfl _ (by decide)
      have below : Serves known (Sdf.subtreesOfAll children) := (List.forall_mem_cons.mp serves).2
      rw [ofTree]
      refine ofTrees_fits basis ?_ children below none count lettered bound (by simp)
      split
      · exact blended_fits k smooth
      · exact lesser_fits basis
  | .subtraction base cut =>
      have below := List.forall_mem_append.mp (List.forall_mem_cons.mp serves).2
      have whole := ofTree_fits basis base below.1 count lettered bound
      have kept := scope_subset_scopeAfter scope (ofTree base point count).block bound
      have cutting := ofTree_fits basis cut below.2 (ofTree base point count).count
        whole.lettered kept
      refine whole.andThen (cutting.andThen (fits_single _ (by decide) cutting.lettered ?_))
      exact carved_fits basis cutting.lettered (scope_subset_scopeAfter _ _ whole.result)
        cutting.result
  | .translate offset child =>
      have below : Serves known child.subtrees := (List.forall_mem_cons.mp serves).2
      have moved : Fits known scope (single 'p' (.var point - .vec3 offset) count) :=
        fits_single count (by decide) lettered (within_moved basis lettered bound offset)
      exact moved.andThen (ofTree_fits basis child below _ moved.lettered moved.result)
  | .rotate angles child =>
      have target : known (.function "inverse_rotate") :=
        serves _ List.mem_cons_self .inverseRotate rfl _ (by decide)
      have below : Serves known child.subtrees := (List.forall_mem_cons.mp serves).2
      have turned := map_fits basis count lettered bound (by decide) target angles
      exact turned.andThen (ofTree_fits basis child below _ turned.lettered turned.result)
  | .repeated period child =>
      have target : known (.function "repeat_domain") :=
        serves _ List.mem_cons_self .repeatDomain rfl _ (by decide)
      have below : Serves known child.subtrees := (List.forall_mem_cons.mp serves).2
      have folded := map_fits basis count lettered bound (by decide) target period
      exact folded.andThen (ofTree_fits basis child below _ folded.lettered folded.result)

theorem ofTrees_fits (basis : Basis known) {joint : Joint S} (joins : JointFits known joint)
    (children : List (Sdf S)) (serves : Serves known (Sdf.subtreesOfAll children))
    (sum : Option String) {scope : List String} {point : String} (count : Nat)
    (lettered : Lettered letters scope) (bound : point ∈ scope)
    (summed : ∀ name, sum = some name → name ∈ scope) :
    Fits known scope (ofTrees joint sum children point count) := by
  match sum, children with
  | none, [] =>
      exact fits_single count (by decide) lettered (basis.within_constant (by decide))
  | some sum, [] => exact ⟨within_nil, summed sum rfl, lettered⟩
  | none, child :: children =>
      have below := List.forall_mem_append.mp serves
      have first := ofTree_fits basis child below.1 count lettered bound
      have kept := scope_subset_scopeAfter scope (ofTree child point count).block
      refine first.andThen (ofTrees_fits basis joins children below.2 _ _ first.lettered
        (kept bound) ?_)
      rintro name ⟨⟩
      exact first.result
  | some sum, child :: children =>
      have below := List.forall_mem_append.mp serves
      have first := ofTree_fits basis child below.1 count lettered bound
      have kept := scope_subset_scopeAfter scope (ofTree child point count).block
      have used := joins first.lettered (kept (summed sum rfl)) first.result
      have joined : Fits known _ (single 'd' _ (ofTree child point count).count) :=
        fits_single _ (by decide) first.lettered used
      refine first.andThen (joined.andThen (ofTrees_fits basis joins children below.2 _ _
        joined.lettered (scope_subset_scopeAfter _ _ (kept bound)) ?_))
      rintro name ⟨⟩
      exact joined.result

end

theorem function_within (basis : Basis known) (id : UInt32) (tree : Sdf S)
    (serves : Serves known tree.subtrees) :
    ∀ mention ∈ (function id tree).mentions, known mention := by
  have lettered : Lettered letters [startPoint] :=
    List.forall_mem_singleton.mpr (by decide)
  have fits := ofTree_fits basis tree serves 0 lettered List.mem_cons_self
  show BlockWithin known [startPoint] ((ofTree tree startPoint 0).block ++
    [.ret (.var (ofTree tree startPoint 0).result)])
  have returned : (Expr.var (ofTree tree startPoint 0).result : Expr S).Within known _ :=
    Expr.within_var fits.result
  rw [within_append]
  exact ⟨fits.within, within_cons.mpr ⟨returned, within_nil⟩⟩

end FieldChain

variable {known : Mention → Prop}

def closer (id : UInt32) : List (Stmt S) := [
  .bind s!"d{id}" (.call (FieldChain.functionName id) [.var "p"]),
  .branch (.lt (.var s!"d{id}") (.member (.var "best") "x"))
    [.assign (.var "best") .set (.call "vec2f" [.var s!"d{id}", .whole id.toNat])] []]

theorem sceneSdf_body (id : UInt32) (ids : List UInt32) :
    (sceneSdf (id :: ids) : Function S).body =
      .declare "best" (.call "vec2f" [.call (FieldChain.functionName id) [.var "p"],
        .whole id.toNat]) :: (ids.flatMap closer ++ [.ret (.var "best")]) := rfl

theorem functionName_initial (id : UInt32) :
    (FieldChain.functionName id).toList.head? = some 's' :=
  initial_append (toString id) (by decide)

theorem distanceName_initial (id : UInt32) : s!"d{id}".toList.head? = some 'd' :=
  initial_append (toString id) (by decide)

def comparisonLetters : List Char := ['p', 'b', 'd']

theorem field_within {scope : List String} (lettered : Lettered comparisonLetters scope)
    (point : "p" ∈ scope) {id : UInt32}
    (target : known (.function (FieldChain.functionName id))) :
    (Expr.call (FieldChain.functionName id) [.var "p"] : Expr S).Within known scope := by
  refine lettered.within_call ?_ target (List.forall_mem_singleton.mpr (Expr.within_var point))
  rw [startsIn_eq (functionName_initial id)]
  decide

theorem candidate_within (basis : Basis known) {scope : List String}
    (lettered : Lettered comparisonLetters scope) {distance : Expr S}
    (within : distance.Within known scope) (id : UInt32) :
    (Expr.call "vec2f" [distance, .whole id.toNat]).Within known scope :=
  lettered.within_call (by decide) (basis.builtin (by decide))
    (Expr.within_pair within (Expr.within_whole id.toNat))

theorem closer_within (basis : Basis known) {scope : List String} {ids : List UInt32}
    (fields : ∀ id ∈ ids, known (.function (FieldChain.functionName id)))
    (lettered : Lettered comparisonLetters scope) (point : "p" ∈ scope) (best : "best" ∈ scope) :
    BlockWithin (S := S) known scope (ids.flatMap closer ++ [.ret (.var "best")]) := by
  induction ids generalizing scope with
  | nil => exact within_cons.mpr ⟨Expr.within_var (S := S) best, within_nil⟩
  | cons id ids ih =>
      have field := field_within (S := S) lettered point (fields id List.mem_cons_self)
      have inner := lettered.cons (by decide) (distanceName_initial id)
      have named : s!"d{id}" ∈ s!"d{id}" :: scope := List.mem_cons_self
      have least : "best" ∈ s!"d{id}" :: scope := List.mem_cons_of_mem _ best
      have candidate := candidate_within basis inner (Expr.within_var (S := S) named) id
      have update := Stmt.within_assign .set (Expr.within_var least) candidate
      have comparison := Expr.within_binary .lt (Expr.within_var named)
        (show (Expr.member (.var "best") "x" : Expr S).Within known _ from
          Expr.within_var (S := S) least)
      have chosen := Stmt.within_when comparison (within_cons.mpr ⟨update, within_nil⟩)
      have rest := ih (fun other member => fields other (List.mem_cons_of_mem id member)) inner
        (List.mem_cons_of_mem _ point) least
      exact within_cons.mpr ⟨field, within_cons.mpr ⟨chosen, rest⟩⟩

theorem sceneSdf_within (basis : Basis known) {ids : List UInt32} (nonempty : ids ≠ [])
    (fields : ∀ id ∈ ids, known (.function (FieldChain.functionName id))) :
    ∀ mention ∈ (sceneSdf ids : Function S).mentions, known mention := by
  obtain ⟨id, rest, rfl⟩ := List.exists_cons_of_ne_nil nonempty
  have lettered : Lettered comparisonLetters ["p"] :=
    List.forall_mem_singleton.mpr (by decide)
  have inner : Lettered comparisonLetters ["best", "p"] :=
    List.forall_mem_cons.mpr ⟨by decide, lettered⟩
  have field := field_within (S := S) lettered (by decide) (fields id List.mem_cons_self)
  have first := candidate_within basis lettered field id
  have later := closer_within (S := S) basis
    (fun other member => fields other (List.mem_cons_of_mem id member)) inner (by decide)
    (by decide)
  exact within_cons.mpr ⟨first, later⟩

def tryHit [Scalar S] (sphere : UInt32 × Vec3 S × S) : List (Stmt S) :=
  let t : Expr S := .var s!"t{sphere.1}"
  let ray : Expr S := .var "r"
  [.bind s!"t{sphere.1}" (.call "hit_sphere" [.vec3 sphere.2.1, .float sphere.2.2, ray,
      (Expr.var "closest").dot "t"]),
    .branch (.gt t 0.0) [.assign (.var "closest") .set (.call "surface_hit" [ray, t,
      .paren (ray.dot "origin" + t * ray.dot "dir" - .vec3 sphere.2.1) / .float sphere.2.2,
      .unsigned sphere.1.toNat])] []]

theorem sceneHit_body [Scalar S] (spheres : List (UInt32 × Vec3 S × S)) (marches : Bool) :
    (sceneHit spheres marches : Function S).body =
      .declare "closest" (.call "no_hit" []) :: spheres.flatMap tryHit ++
        (if marches then
          [.assign (.var "closest") .set (.call "march" [.var "r", .var "closest"])] else []) ++
        [.ret (.var "closest")] := rfl

def hitLetters : List Char := ['r', 'c', 't']

theorem tryHit_within [Scalar S] (basis : Basis known) {scope : List String}
    (sphere : UInt32 × Vec3 S × S) (hits : known (.function "hit_sphere"))
    (surface : known (.function "surface_hit")) (lettered : Lettered hitLetters scope)
    (ray : "r" ∈ scope) (closest : "closest" ∈ scope) :
    BlockWithin known scope (tryHit sphere) := by
  obtain ⟨id, center, radius⟩ := sphere
  have initial : s!"t{id}".toList.head? = some 't' := initial_append (toString id) (by decide)
  have inner := lettered.cons (by decide) initial
  have time : (Expr.var s!"t{id}" : Expr S).Within known (s!"t{id}" :: scope) :=
    Expr.within_var List.mem_cons_self
  have behind : (Expr.var "r" : Expr S).Within known (s!"t{id}" :: scope) :=
    Expr.within_var (List.mem_cons_of_mem _ ray)
  have least : (Expr.var "closest" : Expr S).Within known (s!"t{id}" :: scope) :=
    Expr.within_var (List.mem_cons_of_mem _ closest)
  have found : (Expr.call "hit_sphere" [.vec3 center, .float radius, .var "r",
      (Expr.var "closest").dot "t"]).Within known scope := by
    refine lettered.within_call (by decide) hits ?_
    simp only [List.forall_mem_cons, List.not_mem_nil, false_implies, implies_true, and_true]
    exact ⟨basis.within_vec3 lettered (by decide) center, Expr.within_float radius,
      Expr.within_var ray, Expr.within_var (S := S) closest⟩
  have outward := Expr.within_binary .div (Expr.within_binary .sub
    (Expr.within_binary .add behind (Expr.within_binary .mul time behind))
    (basis.within_vec3 inner (by decide) center)) (Expr.within_float radius)
  have surfaceHit : (Expr.call "surface_hit" [.var "r", .var s!"t{id}",
      .paren ((Expr.var "r").dot "origin" + .var s!"t{id}" * (Expr.var "r").dot "dir"
        - .vec3 center) / .float radius, .unsigned id.toNat]).Within known
      (s!"t{id}" :: scope) := by
    refine inner.within_call (by decide) surface ?_
    simp only [List.forall_mem_cons, List.not_mem_nil, false_implies, implies_true, and_true]
    exact ⟨behind, time, outward, Expr.within_unsigned id.toNat⟩
  have update := Stmt.within_assign .set least surfaceHit
  have positive := Expr.within_binary .gt time (Expr.within_float 0.0)
  have chosen := Stmt.within_when positive (within_cons.mpr ⟨update, within_nil⟩)
  exact within_cons.mpr ⟨found, within_cons.mpr ⟨chosen, within_nil⟩⟩

theorem tryHits_within [Scalar S] (basis : Basis known) {scope : List String}
    {spheres : List (UInt32 × Vec3 S × S)} (hits : spheres ≠ [] → known (.function "hit_sphere"))
    (surface : known (.function "surface_hit")) (lettered : Lettered hitLetters scope)
    (ray : "r" ∈ scope) (closest : "closest" ∈ scope) :
    BlockWithin known scope (spheres.flatMap tryHit) ∧
      Lettered hitLetters (scopeAfter scope (spheres.flatMap tryHit)) := by
  induction spheres generalizing scope with
  | nil => exact ⟨within_nil, lettered⟩
  | cons sphere rest ih =>
      have found := hits (List.cons_ne_nil sphere rest)
      have first := tryHit_within basis sphere found surface lettered ray closest
      have initial : s!"t{sphere.1}".toList.head? = some 't' :=
        initial_append (toString sphere.1) (by decide)
      have inner : Lettered hitLetters (scopeAfter scope (tryHit sphere)) :=
        lettered.cons (by decide) initial
      have kept := scope_subset_scopeAfter scope (tryHit sphere)
      obtain ⟨later, after⟩ := ih (fun _ => found) inner (kept ray) (kept closest)
      rw [List.flatMap_cons, within_append, scopeAfter_append]
      exact ⟨⟨first, later⟩, after⟩

theorem sceneHit_within [Scalar S] (basis : Basis known) (spheres : List (UInt32 × Vec3 S × S))
    (marches : Bool) (ray : known (.struct "Ray")) (hit : known (.struct "Hit"))
    (miss : known (.function "no_hit")) (hits : spheres ≠ [] → known (.function "hit_sphere"))
    (surface : known (.function "surface_hit"))
    (march : marches = true → known (.function "march")) :
    ∀ mention ∈ (sceneHit spheres marches).mentions, known mention := by
  have outer : Lettered hitLetters ["r"] :=
    List.forall_mem_singleton.mpr (by decide)
  have lettered : Lettered hitLetters ["closest", "r"] :=
    List.forall_mem_cons.mpr ⟨by decide, outer⟩
  have started : (Expr.call "no_hit" [] : Expr S).Within known ["r"] :=
    outer.within_call (by decide) miss (List.forall_mem_nil _)
  obtain ⟨tried, after⟩ := tryHits_within basis hits surface lettered (by decide) (by decide)
  have kept := scope_subset_scopeAfter ["closest", "r"] (spheres.flatMap tryHit)
  have least : (Expr.var "closest" : Expr S).Within known _ := Expr.within_var (kept (by decide))
  have behind : (Expr.var "r" : Expr S).Within known _ := Expr.within_var (kept (by decide))
  have body : BlockWithin known ["r"] (sceneHit spheres marches).body := by
    rw [sceneHit_body, List.append_assoc, List.cons_append]
    refine within_cons.mpr ⟨started, within_append.mpr ⟨tried, ?_⟩⟩
    cases marches with
    | false => exact within_ret least
    | true =>
        have marched := after.within_call (by decide) (march rfl)
          (Expr.within_pair behind least)
        exact within_cons.mpr ⟨Stmt.within_assign .set least marched, within_ret least⟩
  exact List.forall_mem_cons.mpr ⟨ray, List.forall_mem_cons.mpr ⟨hit, body⟩⟩

def surfaceScope : List String := ["p", "n"]

theorem surfaceCall_within (basis : Basis known) (function : Color.Builtin)
    {arguments : List (Expr S)} (within : ∀ e ∈ arguments, e.Within known surfaceScope) :
    (Expr.call function.name arguments).Within known surfaceScope := by
  have builtin : callee surfaceScope function.name ∈ builtins := by cases function <;> decide
  exact Expr.within_call (basis.language _ builtin) within

mutual

theorem ofColor_within (basis : Basis known) (color : Color.Expr S) :
    (ofColor color).Within known surfaceScope := by
  match color with
  | .number value => exact Expr.within_float value
  | .input source => exact Expr.within_var (by cases source <;> decide)
  | .negate operand => exact ofColor_within basis operand
  | .binary op left right =>
      exact List.forall_mem_append.mpr ⟨ofColor_within basis left, ofColor_within basis right⟩
  | .call function arguments =>
      exact surfaceCall_within basis function (ofColors_within basis arguments)
  | .swizzle base components => exact ofColor_within basis base

theorem ofColors_within (basis : Basis known) (colors : List (Color.Expr S)) :
    ∀ e ∈ ofColor.ofColors colors, e.Within known surfaceScope := by
  match colors with
  | [] => exact List.forall_mem_nil _
  | color :: colors =>
      exact List.forall_mem_cons.mpr ⟨ofColor_within basis color, ofColors_within basis colors⟩

end

theorem albedo_within (basis : Basis known) (id : UInt32) (color : SurfaceColor S) :
    ∀ mention ∈ (albedo id color).mentions, known mention := by
  cases color with
  | literal rgb =>
      have value : (Expr.vec3 rgb).Within known surfaceScope := by
        refine surfaceCall_within basis .vec3f ?_
        intro e member
        obtain ⟨value, -, rfl⟩ := List.mem_map.mp member
        exact Expr.within_float value
      exact within_ret value
  | expression source root =>
      have value := surfaceCall_within basis .vec3f
        (List.forall_mem_singleton.mpr (ofColor_within basis root))
      exact within_ret value

def scatterCase (id : UInt32) (material : Material) : Nat × List (Stmt S) :=
  (id.toNat, [.assign (.var "result") .set (.call (scatterName material) [.var "r", .var "hit",
    .call (albedoName id) [(Expr.var "hit").dot "p", (Expr.var "hit").dot "n"]])])

theorem objectScatter_body [Scalar S] (materials : List (UInt32 × Material)) :
    (objectScatter materials : Function S).body = [
      .declare "result" (.call "Scatter" [.call "vec3f" [0.0], .call "vec3f" [0.0], .var "r",
        .bool true]),
      .switch (.var "object_id") (materials.map fun (id, material) => scatterCase id material),
      .ret (.var "result")] := rfl

def scatterScope : List String := ["result", "object_id", "r", "hit"]

def scatterLetters : List Char := ['r', 'o', 'h']

theorem scatterScope_lettered : Lettered scatterLetters scatterScope := by
  unfold Lettered
  decide

theorem scatterCase_within (id : UInt32) (material : Material)
    (scatter : known (.function (scatterName material)))
    (color : known (.function (albedoName id))) :
    BlockWithin (S := S) known scatterScope (scatterCase id material).2 := by
  have lettered := scatterScope_lettered
  have hit : (Expr.var "hit" : Expr S).Within known scatterScope := Expr.within_var (by decide)
  have ray : (Expr.var "r" : Expr S).Within known scatterScope := Expr.within_var (by decide)
  have result : (Expr.var "result" : Expr S).Within known scatterScope :=
    Expr.within_var (by decide)
  have initial : (albedoName id).toList.head? = some 'a' :=
    initial_append (toString id) (by decide)
  have colored : (Expr.call (albedoName id) [(Expr.var "hit").dot "p",
      (Expr.var "hit").dot "n"] : Expr S).Within known scatterScope := by
    refine lettered.within_call ?_ color (Expr.within_pair hit hit)
    rw [startsIn_eq initial]
    decide
  have apart : startsIn scatterLetters (scatterName material) = false := by
    cases material <;> decide
  have scattered := lettered.within_call apart scatter
    (List.forall_mem_cons.mpr ⟨ray, Expr.within_pair hit colored⟩)
  exact within_cons.mpr ⟨Stmt.within_assign .set result scattered, within_nil⟩

theorem objectScatter_within [Scalar S] (basis : Basis known)
    (materials : List (UInt32 × Material)) (ray : known (.struct "Ray"))
    (hit : known (.struct "Hit")) (scatter : known (.struct "Scatter"))
    (build : known (.function "Scatter"))
    (served : ∀ c ∈ materials,
      known (.function (scatterName c.2)) ∧ known (.function (albedoName c.1))) :
    ∀ mention ∈ (objectScatter materials : Function S).mentions, known mention := by
  have outer : Lettered scatterLetters ["object_id", "r", "hit"] := by
    unfold Lettered
    decide
  have black : (Expr.call "vec3f" [0.0] : Expr S).Within known ["object_id", "r", "hit"] :=
    outer.within_call (by decide) (basis.builtin (by decide))
      (List.forall_mem_singleton.mpr (Expr.within_float 0.0))
  have primary : (Expr.var "r" : Expr S).Within known ["object_id", "r", "hit"] :=
    Expr.within_var (by decide)
  have absorbed : (Expr.bool true : Expr S).Within known ["object_id", "r", "hit"] :=
    fun _ used => nomatch used
  have started := outer.within_call (by decide) build (List.forall_mem_cons.mpr
    ⟨black, List.forall_mem_cons.mpr ⟨black, Expr.within_pair primary absorbed⟩⟩)
  have chosen : (Stmt.switch (.var "object_id")
      (materials.map fun (id, material) => scatterCase id material) : Stmt S).Within known
      scatterScope := by
    refine Stmt.within_switch (Expr.within_var (by decide)) ?_
    intro c member
    obtain ⟨⟨id, material⟩, listed, rfl⟩ := List.mem_map.mp member
    exact scatterCase_within id material (served _ listed).1 (served _ listed).2
  have returned : (Expr.var "result" : Expr S).Within known scatterScope :=
    Expr.within_var (by decide)
  have body : BlockWithin known ["object_id", "r", "hit"]
      (objectScatter materials : Function S).body := by
    rw [objectScatter_body]
    exact within_cons.mpr ⟨started, within_cons.mpr ⟨chosen, within_ret returned⟩⟩
  exact List.forall_mem_cons.mpr ⟨ray, List.forall_mem_cons.mpr ⟨hit,
    List.forall_mem_cons.mpr ⟨scatter, body⟩⟩⟩

theorem gridDistance_within (basis : Basis known) (marches : Bool)
    (field : marches = true → known (.function "scene_sdf")) :
    ∀ mention ∈ (gridDistance marches : Function S).mentions, known mention := by
  cases marches with
  | false => exact within_ret (basis.within_constant (by decide))
  | true =>
      have point : (Expr.var "p" : Expr S).Within known ["p"] := Expr.within_var (by decide)
      have distance : (Expr.call "scene_sdf" [.var "p"] : Expr S).Within known ["p"] :=
        Expr.within_call (field rfl) (List.forall_mem_singleton.mpr point)
      exact within_ret distance

theorem bakedField_within (basis : Basis known) (field : CameraBlock.Field × List S) :
    (bakedField field).Within known [] := by
  obtain ⟨kind, words⟩ := field
  cases kind with
  | vector name =>
      refine Expr.within_call (basis.builtin (by decide)) ?_
      intro e member
      obtain ⟨value, -, rfl⟩ := List.mem_map.mp member
      exact Expr.within_float value
  | scalar name | padding index =>
      cases words with
      | nil => exact Expr.within_call (basis.builtin (by decide)) (List.forall_mem_nil _)
      | cons word words => exact Expr.within_float word

theorem activeCamera_within [Scalar S] (basis : Basis known) (source : CameraSource S)
    (type : known (.struct "Camera")) (build : known (.function "Camera"))
    (filled : source = .uniform → known (.value "camera")) :
    ∀ mention ∈ (activeCamera source).mentions, known mention := by
  refine List.forall_mem_cons.mpr ⟨type, ?_⟩
  cases source with
  | uniform => exact List.forall_mem_singleton.mpr (filled rfl)
  | baked camera =>
      have fields : ∀ e ∈ (CameraBlock.filled camera).map bakedField,
          e.Within known [] := by
        intro e member
        obtain ⟨field, -, rfl⟩ := List.mem_map.mp member
        exact bakedField_within basis field
      have built : (Expr.call "Camera" ((CameraBlock.filled camera).map bakedField)).Within
          known [] := Expr.within_call build fields
      exact within_ret built

end RayScene.Shader
