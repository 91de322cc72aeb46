import RayScene.Proofs.Color.RoundTrip
import RayScene.Proofs.Shader.Closure
import RayScene.Proofs.Shader.Written

namespace RayScene.Shader

open Wgsl

def reserved : List String := keywords.map (·.1) ++ typeWords ++ ["inf", "NaN"]

def Extends (front : String) : Prop :=
  isWord front = true ∧ front.toList.head?.any Char.isDigit = false ∧
    ∀ word ∈ reserved, ¬(front.toList <+: word.toList ∧
      (word.toList.drop front.toList.length).all Char.isDigit = true)

instance : DecidablePred Extends := fun _ => inferInstanceAs (Decidable (_ ∧ _ ∧ _))

theorem isVariable_of_reserved {name : String} (word : isWord name = true)
    (initial : name.toList.head?.any Char.isDigit = false) (free : name ∉ reserved) :
    isVariable name = true := by
  simp only [reserved, List.mem_append, not_or] at free
  obtain ⟨⟨no_keyword, no_type⟩, no_number⟩ := free
  have keyword : keyword? name = none := by
    refine List.lookup_eq_none_iff.mpr fun entry listed => bne_iff_ne.mpr ?_
    rintro rfl
    exact no_keyword (List.mem_map_of_mem listed)
  simp only [List.mem_cons, List.not_mem_nil, or_false, not_or] at no_number
  simp [isVariable, isName, isNumber, word, initial, keyword, no_type, no_number]

theorem isVariable_numbered {front : String} (fits : Extends front) (n : Nat) :
    isVariable (front ++ toString n) = true := by
  obtain ⟨word, initial, free⟩ := fits
  have spelled : (front ++ toString n).toList = front.toList ++ Nat.toDigits 10 n := by
    rw [String.toList_append, toList_natural]
  obtain ⟨nonempty, all⟩ := isWord_iff.mp word
  refine isVariable_of_reserved ?_ ?_ fun listed => ?_
  · rw [isWord_iff, String.toList_append]
    exact ⟨List.append_ne_nil_of_left_ne_nil nonempty _,
      List.forall_mem_append.mpr ⟨all, isWordChar_natural n⟩⟩
  · rw [spelled, List.head?_append_of_ne_nil _ nonempty]
    exact initial
  · refine free _ listed ⟨⟨_, spelled.symm⟩, ?_⟩
    rw [spelled, List.drop_left, List.all_eq_true]
    exact Numeral.isDigit_toDigits n

theorem isCallable_of_isVariable {name : String} (named : isVariable name = true) :
    isCallable name = true := by
  rw [isVariable, Bool.and_eq_true] at named
  rw [isCallable, named.1, Bool.true_or]

theorem allSpelled_iff {S : Type} {es : List (Expr S)} :
    allSpelled es = true ↔ ∀ e ∈ es, e.spelled = true := by
  induction es with
  | nil => exact iff_of_true rfl (List.forall_mem_nil _)
  | cons e es ih => rw [allSpelled, Bool.and_eq_true, ih, List.forall_mem_cons]

theorem blockSpelled_append {S : Type} (first second : List (Stmt S)) :
    blockSpelled (first ++ second) = (blockSpelled first && blockSpelled second) := by
  induction first with
  | nil => rfl
  | cons s rest ih => rw [List.cons_append, blockSpelled, blockSpelled, ih, Bool.and_assoc]

theorem blockSpelled_flatMap {S α : Type} {items : List α} {made : α → List (Stmt S)}
    (spelled : ∀ item ∈ items, blockSpelled (made item) = true) :
    blockSpelled (items.flatMap made) = true := by
  induction items with
  | nil => rfl
  | cons item items ih =>
      obtain ⟨first, others⟩ := List.forall_mem_cons.mp spelled
      rw [List.flatMap_cons, blockSpelled_append, first, ih others]
      rfl

theorem casesSpelled_map {S α : Type} {items : List α} {made : α → Nat × List (Stmt S)}
    (spelled : ∀ item ∈ items, blockSpelled (made item).2 = true) :
    casesSpelled (items.map made) = true := by
  induction items with
  | nil => rfl
  | cons item items ih =>
      obtain ⟨first, others⟩ := List.forall_mem_cons.mp spelled
      rw [List.map_cons, casesSpelled, first, ih others]
      rfl

theorem routine_spelled (routine : Routine) :
    ∀ item ∈ (routine.items : List (Item Single)), item.spelled = true := by
  have each : ∀ routine ∈ Routine.all, ∀ item ∈ (routine.items : List (Item Single)),
      item.spelled = true := by
    decide +kernel
  exact each routine routine.mem_all

theorem structs_spelled (target : Target) :
    ∀ item ∈ (structs target : List (Item Single)), item.spelled = true := by
  cases target <;> decide +kernel

theorem entryPoint_spelled (entry : EntryPoint) :
    (entry.function : Function Single).spelled = true := by
  cases entry <;> decide +kernel

theorem constants_spelled (options : Options Single) :
    ∀ constant ∈ constants options, (constant.2.item constant.1).spelled = true := by
  have same : (constants options).map (·.1) = (constants (.standard : Options Single)).map (·.1) :=
    rfl
  have each : ∀ name ∈ (constants (.standard : Options Single)).map (·.1),
      isVariable name = true := by
    decide +kernel
  rintro ⟨name, value⟩ member
  have named : isVariable name = true := each name (same ▸ List.mem_map_of_mem member)
  cases value <;> simp [ConstantValue.item, Item.spelled, Expr.spelled, Ty.spelled, named]

theorem binding_spelled {target : Target} :
    ∀ binding ∈ targetBindings target, (binding.item : Item Single).spelled = true := by
  cases target <;> decide +kernel

theorem vec3_spelled (v : Vec3 Single) : (Expr.vec3 v).spelled = true := rfl

namespace FieldChain

structure Readable (chain : FieldChain Single) : Prop where
  links : ∀ link ∈ chain.links, isVariable link.1 = true ∧ link.2.spelled = true
  result : isVariable chain.result = true

theorem readable_single {letter : Char} (listed : letter ∈ letters) {value : Expr Single}
    (spelled : value.spelled = true) (count : Nat) : Readable (single letter value count) := by
  have named : isVariable (toString letter ++ toString (count + 1)) = true := by
    refine isVariable_numbered ?_ (count + 1)
    simp only [letters, List.mem_cons, List.not_mem_nil, or_false] at listed
    rcases listed with rfl | rfl <;> decide +kernel
  exact ⟨List.forall_mem_singleton.mpr ⟨named, spelled⟩, named⟩

theorem Readable.andThen {chain : FieldChain Single} {next : String → Nat → FieldChain Single}
    (readable : Readable chain) (rest : Readable (next chain.result chain.count)) :
    Readable (chain.andThen next) :=
  ⟨List.forall_mem_append.mpr ⟨readable.links, rest.links⟩, rest.result⟩

def JointReadable (joint : Joint Single) : Prop :=
  ∀ {a b : String}, isVariable a = true → isVariable b = true → (joint a b).spelled = true

theorem call_spelled {function : String} (callable : isCallable function = true)
    {arguments : List (Expr Single)} (spelled : allSpelled arguments = true) :
    (call function arguments).spelled = true := by
  rw [call, Expr.spelled, callable, spelled]
  rfl

theorem lesser_readable : JointReadable lesser := fun first second =>
  call_spelled (by decide) (by simp [allSpelled, Expr.spelled, first, second])

theorem greater_readable : JointReadable greater := fun first second =>
  call_spelled (by decide) (by simp [allSpelled, Expr.spelled, first, second])

theorem blended_readable (k : Single) : JointReadable (blended k) := fun first second =>
  call_spelled (by decide) (by simp [allSpelled, Expr.spelled, first, second])

theorem carved_readable : JointReadable carved := fun first second =>
  call_spelled (by decide) (by simp [allSpelled, Expr.spelled, first, second])

theorem primitive_readable (kind : Primitive) (position dimensions : Vec3 Single) {point : String}
    (named : isVariable point = true) :
    (primitiveCall kind position dimensions point).spelled = true := by
  have callable : isCallable ("sdf_" ++ kind.name) = true := by cases kind <;> decide
  refine call_spelled callable ?_
  have placed : (if position.isZero then .var point else .var point - .vec3 position :
      Expr Single).spelled = true := by
    split
    · exact named
    · show (isVariable point && (Expr.vec3 position).spelled) = true
      rw [named, vec3_spelled]
      rfl
  simp [allSpelled, placed, vec3_spelled]

mutual

/-- The chain of any tree, valid or not, can be read. -/
theorem ofTree_readable (tree : Sdf Single) {point : String} (named : isVariable point = true)
    (count : Nat) : Readable (ofTree tree point count) := by
  match tree with
  | .primitive kind position dimensions =>
      exact readable_single (by decide) (primitive_readable kind position dimensions named) count
  | .union children => exact ofTrees_readable lesser_readable none children named count nofun
  | .intersection children => exact ofTrees_readable greater_readable none children named count nofun
  | .smoothUnion k children =>
      rw [ofTree]
      refine ofTrees_readable ?_ none children named count nofun
      split
      · exact blended_readable k
      · exact lesser_readable
  | .subtraction base cut =>
      have whole := ofTree_readable base named count
      have cutting := ofTree_readable cut named (ofTree base point count).count
      exact whole.andThen (cutting.andThen
        (readable_single (by decide) (carved_readable whole.result cutting.result) _))
  | .translate offset child =>
      have moved : Readable (single 'p' (.var point - .vec3 offset) count) := by
        refine readable_single (by decide) ?_ count
        show (isVariable point && (Expr.vec3 offset).spelled) = true
        rw [named, vec3_spelled]
        rfl
      exact moved.andThen (ofTree_readable child moved.result _)
  | .rotate angles child =>
      have turned : Readable (single 'p' (call "inverse_rotate" [.var point, .vec3 angles]) count) :=
        readable_single (by decide) (call_spelled (by decide)
          (by simp [allSpelled, Expr.spelled, named, vec3_spelled])) count
      exact turned.andThen (ofTree_readable child turned.result _)
  | .repeated period child =>
      have folded : Readable (single 'p' (call "repeat_domain" [.var point, .vec3 period]) count) :=
        readable_single (by decide) (call_spelled (by decide)
          (by simp [allSpelled, Expr.spelled, named, vec3_spelled])) count
      exact folded.andThen (ofTree_readable child folded.result _)

theorem ofTrees_readable {joint : Joint Single} (joins : JointReadable joint) (sum : Option String)
    (children : List (Sdf Single)) {point : String} (named : isVariable point = true) (count : Nat)
    (summed : ∀ name, sum = some name → isVariable name = true) :
    Readable (ofTrees joint sum children point count) := by
  match sum, children with
  | none, [] => exact readable_single (by decide) (by decide) count
  | some sum, [] => exact ⟨List.forall_mem_nil _, summed sum rfl⟩
  | none, child :: children =>
      have first := ofTree_readable child named count
      refine first.andThen (ofTrees_readable joins _ children named _ ?_)
      rintro name ⟨⟩
      exact first.result
  | some sum, child :: children =>
      have first := ofTree_readable child named count
      have joined : Readable (single 'd' (joint sum (ofTree child point count).result)
          (ofTree child point count).count) :=
        readable_single (by decide) (joins (summed sum rfl) first.result) _
      refine first.andThen (joined.andThen (ofTrees_readable joins _ children named _ ?_))
      rintro name ⟨⟩
      exact joined.result

end

theorem links_spelled {links : List (String × Expr Single)}
    (spelled : ∀ link ∈ links, isVariable link.1 = true ∧ link.2.spelled = true) :
    blockSpelled (links.map fun (name, value) => .bind name value) = true := by
  induction links with
  | nil => rfl
  | cons link links ih =>
      obtain ⟨first, others⟩ := List.forall_mem_cons.mp spelled
      rw [List.map_cons, blockSpelled, Stmt.spelled, first.1, first.2, ih others]
      rfl

end FieldChain

theorem plain_spelled {name : String} {parameters : List (String × Ty)} {result : Option Ty}
    {body : List (Stmt Single)} (named : isVariable name = true)
    (typed : (parameters.all fun p => isVariable p.1 && p.2.spelled) = true)
    (results : result.all Ty.spelled = true) (block : blockSpelled body = true) :
    (Function.plain name parameters result body).spelled = true := by
  have slots : (parameters.map fun p => (⟨p.1, p.2, []⟩ : Slot)).all Slot.spelled = true := by
    rw [List.all_map]
    exact typed
  simp only [Function.spelled, Function.plain, named, slots, results, block, Bool.and_true]
  rfl

theorem functionName_spelled (id : UInt32) : isVariable (FieldChain.functionName id) = true :=
  isVariable_numbered (by decide +kernel : Extends "sdf_object_") id.toNat

theorem albedoName_spelled (id : UInt32) : isVariable (albedoName id) = true :=
  isVariable_numbered (by decide +kernel : Extends "albedo_") id.toNat

theorem field_spelled (id : UInt32) (tree : Sdf Single) :
    (FieldChain.function id tree).spelled = true := by
  have chain := FieldChain.ofTree_readable tree
    (by decide +kernel : isVariable FieldChain.startPoint = true) 0
  have links := FieldChain.links_spelled chain.links
  refine plain_spelled (functionName_spelled id) (by decide +kernel) rfl ?_
  rw [blockSpelled_append, links]
  simp [blockSpelled, Stmt.spelled, Expr.spelled, chain.result]

theorem closer_spelled (id : UInt32) : blockSpelled (closer id : List (Stmt Single)) = true := by
  have distance : isVariable s!"d{id}" = true :=
    isVariable_numbered (by decide +kernel : Extends "d") id.toNat
  have field := isCallable_of_isVariable (functionName_spelled id)
  have vector : isCallable "vec2f" = true := by decide +kernel
  have point : isVariable "p" = true := by decide +kernel
  have least : isVariable "best" = true ∧ isWord "x" = true := by decide +kernel
  simp [closer, blockSpelled, Stmt.spelled, Expr.lt, Expr.spelled, allSpelled, distance, field,
    vector, point, least]

theorem sceneSdf_spelled (ids : List UInt32) :
    (sceneSdf ids : Function Single).spelled = true := by
  refine plain_spelled (by decide +kernel) (by decide +kernel) rfl ?_
  cases ids with
  | nil => decide +kernel
  | cons id ids =>
      have field := isCallable_of_isVariable (functionName_spelled id)
      have vector : isCallable "vec2f" = true := by decide +kernel
      have point : isVariable "p" = true := by decide +kernel
      have best : isVariable "best" = true := by decide +kernel
      have later : blockSpelled (ids.flatMap closer : List (Stmt Single)) = true :=
        blockSpelled_flatMap fun id _ => closer_spelled id
      show blockSpelled (sceneSdf (id :: ids) : Function Single).body = true
      rw [sceneSdf_body, blockSpelled, blockSpelled_append, later]
      simp [blockSpelled, Stmt.spelled, Expr.spelled, allSpelled, field, vector, point, best]

theorem tryHit_spelled (sphere : UInt32 × Vec3 Single × Single) :
    blockSpelled (tryHit sphere) = true := by
  have time : isVariable s!"t{sphere.1}" = true :=
    isVariable_numbered (by decide +kernel : Extends "t") sphere.1.toNat
  have calls : isCallable "hit_sphere" = true ∧ isCallable "surface_hit" = true := by
    decide +kernel
  have names : isVariable "r" = true ∧ isVariable "closest" = true ∧ isWord "t" = true ∧
      isWord "origin" = true ∧ isWord "dir" = true := by
    decide +kernel
  have zero : (0.0 : Expr Single).spelled = true := rfl
  simp only [tryHit, blockSpelled, Stmt.spelled, Expr.gt, Expr.dot, Expr.spelled, allSpelled, time,
    calls, names, vec3_spelled, zero, HAdd.hAdd, HSub.hSub, HMul.hMul, HDiv.hDiv, Add.add, Sub.sub,
    Mul.mul, Div.div, Bool.and_self]

theorem sceneHit_spelled (spheres : List (UInt32 × Vec3 Single × Single)) (marches : Bool) :
    (sceneHit spheres marches).spelled = true := by
  refine plain_spelled (by decide +kernel) (by decide +kernel) rfl ?_
  have tried : blockSpelled (spheres.flatMap tryHit) = true :=
    blockSpelled_flatMap fun sphere _ => tryHit_spelled sphere
  have started : (Stmt.declare "closest" (.call "no_hit" []) : Stmt Single).spelled = true := by
    decide +kernel
  show blockSpelled (sceneHit spheres marches).body = true
  rw [sceneHit_body, List.append_assoc, List.cons_append, blockSpelled, blockSpelled_append, tried,
    started]
  cases marches <;> decide +kernel

theorem isWord_of_isName {word : String} (named : Color.isName word.toList = true) :
    isWord word = true := by
  unfold isWord
  cases letters : word.toList with
  | nil =>
      rw [letters] at named
      cases named
  | cons c rest =>
      rw [letters, Color.isName, Bool.and_eq_true] at named
      have start : isWordChar c = true := Color.isNameStart_rest named.1
      have others : rest.all isWordChar = true := named.2
      rw [List.all_cons, start, others]
      rfl

mutual

theorem ofColor_spelled : ∀ {color : Color.Expr Single} {width : Nat},
    color.width? = some width → (ofColor color).spelled = true
  | .number _, _, _ => rfl
  | .input source, _, _ => by cases source <;> decide +kernel
  | .negate operand, _, wide => by
    rw [Color.Expr.width?] at wide
    have inner := ofColor_spelled wide
    exact inner
  | .binary op left right, _, wide => by
    rw [Color.Expr.width?] at wide
    obtain ⟨_, first, wide⟩ := Option.bind_eq_some_iff.mp wide
    obtain ⟨_, second, _⟩ := Option.bind_eq_some_iff.mp wide
    have operands := Bool.and_eq_true_iff.mpr ⟨ofColor_spelled first, ofColor_spelled second⟩
    exact operands
  | .call function arguments, _, wide => by
    rw [Color.Expr.width?] at wide
    obtain ⟨_, parts, _⟩ := Option.bind_eq_some_iff.mp wide
    have callable : isCallable function.name = true := by cases function <;> decide +kernel
    rw [ofColor, Expr.spelled, callable, ofColors_spelled parts]
    rfl
  | .swizzle base components, _, wide => by
    rw [Color.Expr.width?] at wide
    obtain ⟨_, inner, valid⟩ := Option.bind_eq_some_iff.mp wide
    rw [ofColor, Expr.spelled, ofColor_spelled inner, isWord_of_isName (Color.swizzle_isName valid).2]
    rfl

theorem ofColors_spelled : ∀ {colors : List (Color.Expr Single)} {widths : List Nat},
    Color.widths? colors = some widths → allSpelled (ofColor.ofColors colors) = true
  | [], _, _ => rfl
  | color :: colors, _, parts => by
    rw [Color.widths_cons] at parts
    obtain ⟨_, wide, parts⟩ := Option.bind_eq_some_iff.mp parts
    obtain ⟨_, others, _⟩ := Option.bind_eq_some_iff.mp parts
    rw [ofColor.ofColors, allSpelled, ofColor_spelled wide, ofColors_spelled others]
    rfl

end

theorem albedo_spelled (id : UInt32) {color : SurfaceColor Single} (parsed : color.Parsed) :
    (albedo id color).spelled = true := by
  refine plain_spelled (albedoName_spelled id) (by decide +kernel) rfl ?_
  cases color with
  | literal rgb => rfl
  | expression source root =>
      obtain ⟨width, wide⟩ := Color.parse_width parsed
      have vector : isCallable "vec3f" = true := by decide +kernel
      simp [blockSpelled, Stmt.spelled, Expr.spelled, allSpelled, vector, ofColor_spelled wide]

theorem scatterCase_spelled (id : UInt32) (material : Material) :
    blockSpelled (scatterCase id material : Nat × List (Stmt Single)).2 = true := by
  have scatters : isCallable (scatterName material) = true := by cases material <;> decide +kernel
  have colors := isCallable_of_isVariable (albedoName_spelled id)
  have names : isVariable "result" = true ∧ isVariable "r" = true ∧ isVariable "hit" = true ∧
      isWord "p" = true ∧ isWord "n" = true := by
    decide +kernel
  simp [scatterCase, blockSpelled, Stmt.spelled, Expr.dot, Expr.spelled, allSpelled, scatters,
    colors, names]

theorem objectScatter_spelled (materials : List (UInt32 × Material)) :
    (objectScatter materials : Function Single).spelled = true := by
  refine plain_spelled (by decide +kernel) (by decide +kernel) (by decide +kernel) ?_
  have cases : casesSpelled (materials.map fun entry =>
      (scatterCase entry.1 entry.2 : Nat × List (Stmt Single))) = true :=
    casesSpelled_map fun entry _ => scatterCase_spelled entry.1 entry.2
  have started : blockSpelled [(Stmt.declare "result" (.call "Scatter" [.call "vec3f" [0.0],
      .call "vec3f" [0.0], .var "r", .bool true]) : Stmt Single)] = true := by
    decide +kernel
  have names : isVariable "object_id" = true ∧ isVariable "result" = true := by decide +kernel
  show blockSpelled (objectScatter materials : Function Single).body = true
  rw [objectScatter_body, ← List.singleton_append, blockSpelled_append, started]
  simp only [blockSpelled, Stmt.spelled, Expr.spelled, names, Bool.true_and, Bool.and_true]
  exact cases

theorem gridDistance_spelled (marches : Bool) :
    (gridDistance marches : Function Single).spelled = true := by
  cases marches <;> decide +kernel

theorem bakedField_spelled (field : CameraBlock.Field × List Single) :
    (bakedField field).spelled = true := by
  have vector : isCallable "vec4f" = true := by decide +kernel
  have scalar : isCallable "f32" = true := by decide +kernel
  obtain ⟨kind, words⟩ := field
  cases kind with
  | vector name =>
      have floats : allSpelled (words.map Expr.float) = true :=
        allSpelled_iff.mpr (List.forall_mem_map.mpr fun _ _ => rfl)
      rw [bakedField, Expr.spelled, vector, floats]
      rfl
  | scalar name | padding index =>
      cases words with
      | nil => exact scalar
      | cons word words => rfl

theorem activeCamera_spelled (source : CameraSource Single) :
    (activeCamera source).spelled = true := by
  refine plain_spelled (by decide +kernel) rfl (by decide +kernel) ?_
  cases source with
  | uniform => decide +kernel
  | baked camera =>
      have fields : allSpelled ((CameraBlock.filled camera).map bakedField) = true :=
        allSpelled_iff.mpr (List.forall_mem_map.mpr fun field _ => bakedField_spelled field)
      have camera : isCallable "Camera" = true := by decide +kernel
      simp [blockSpelled, Stmt.spelled, Expr.spelled, camera, fields]

section PlanOf

variable {options : Options Single} {objects : List (SceneObject Single)}

theorem shading_parsed (parsed : ∀ o ∈ objects, o.color.Parsed)
    {shading : UInt32 × Material × SurfaceColor Single}
    (listed : shading ∈ (planOf options objects).shadings) : shading.2.2.Parsed := by
  obtain ⟨part, member, found⟩ := List.mem_filterMap.mp listed
  obtain ⟨surface, shaded, rfl⟩ := Option.map_eq_some_iff.mp found
  obtain ⟨o, counts, rfl⟩ := List.mem_map.mp (List.mem_mergeSort.mp member)
  rw [objectPart_shading] at shaded
  split at shaded
  next =>
    cases shaded
    exact parsed o (distinctFrom_subset [] objects counts)
  next => cases shaded

theorem objectFunction_spelled (parsed : ∀ o ∈ objects, o.color.Parsed) {f : Function Single}
    (made : f ∈ (planOf options objects).objectFunctions) : f.spelled = true := by
  rcases Plan.mem_objectFunctions.mp made with ⟨field, -, rfl⟩ | ⟨-, rfl⟩ |
    ⟨-, rfl | ⟨shading, listed, rfl⟩ | rfl⟩ | ⟨-, rfl⟩
  · exact field_spelled field.1 field.2
  · exact sceneSdf_spelled _
  · exact sceneHit_spelled _ _
  · exact albedo_spelled shading.1 (shading_parsed parsed listed)
  · exact objectScatter_spelled _
  · exact gridDistance_spelled _

theorem planOf_spelled (parsed : ∀ o ∈ objects, o.color.Parsed) :
    (planOf options objects).module.Spelled := by
  intro item member
  rcases Plan.mem_module_items.mp member with rfl | ⟨constant, listed, rfl⟩ | listed |
    ⟨binding, listed, rfl⟩ | ⟨-, rfl⟩ | ⟨routine, -, inside⟩ | ⟨f, made, rfl⟩ | ⟨entry, -, rfl⟩
  · decide +kernel
  · exact constants_spelled options constant listed
  · exact structs_spelled _ item listed
  · exact binding_spelled binding ((bindings_sublist options).subset listed)
  · exact activeCamera_spelled _
  · exact routine_spelled routine item inside
  · exact objectFunction_spelled parsed made
  · exact entryPoint_spelled entry

end PlanOf

end RayScene.Shader
