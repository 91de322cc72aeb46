import RayScene.Shader.Plan

namespace RayScene.Shader

variable {S : Type}

theorem distinctFrom_subset (seen : List UInt32) (objects : List (SceneObject S)) :
    distinctFrom seen objects ⊆ objects := by
  induction objects generalizing seen with
  | nil => exact List.Subset.refl _
  | cons o rest ih =>
      rw [distinctFrom]
      split
      · exact List.subset_cons_of_subset o (ih _)
      · exact List.cons_subset_cons o (ih _)

theorem mem_distinctFrom {seen : List UInt32} {objects : List (SceneObject S)}
    {o : SceneObject S} :
    o ∈ distinctFrom seen objects ↔
      o.id ∉ seen ∧ objects.find? (fun other => other.id == o.id) = some o := by
  induction objects generalizing seen with
  | nil => simp [distinctFrom]
  | cons first rest ih =>
      rw [distinctFrom, List.find?_cons]
      by_cases same : first.id = o.id
      · have unseen : o ∉ distinctFrom (first.id :: seen) rest := by
          rw [ih, same]
          simp
        rw [same, beq_self_eq_true]
        split
        next old =>
          rw [ih]
          have before : o.id ∈ seen := List.contains_iff_mem.mp old
          simp [before]
        next fresh =>
          have new : o.id ∉ seen := by simpa using fresh
          rw [← same, List.mem_cons, or_iff_left unseen, same]
          simp [new, eq_comm]
      · rw [beq_false_of_ne same]
        split
        next => exact ih
        next =>
          have other : o ≠ first := by
            rintro rfl
            exact same rfl
          rw [List.mem_cons, or_iff_right other, ih]
          simp [Ne.symm same]

/-- An object counts if it is the first one of its id. -/
theorem mem_distinct {objects : List (SceneObject S)} {o : SceneObject S} :
    o ∈ distinct objects ↔ objects.find? (fun other => other.id == o.id) = some o := by
  simp [distinct, mem_distinctFrom]

theorem distinctFrom_ids_nodup (seen : List UInt32) (objects : List (SceneObject S)) :
    ((distinctFrom seen objects).map (·.id)).Nodup := by
  induction objects generalizing seen with
  | nil => exact List.nodup_nil
  | cons o rest ih =>
      rw [distinctFrom]
      split
      · exact ih seen
      · rw [List.map_cons, List.nodup_cons]
        refine ⟨?_, ih (o.id :: seen)⟩
        intro again
        obtain ⟨other, member, same⟩ := List.mem_map.mp again
        have fresh := (mem_distinctFrom.mp member).1
        rw [same] at fresh
        exact fresh List.mem_cons_self

theorem distinct_ids_nodup (objects : List (SceneObject S)) :
    ((distinct objects).map (·.id)).Nodup :=
  distinctFrom_ids_nodup [] objects

theorem distinctFrom_eq_self {seen : List UInt32} {objects : List (SceneObject S)}
    (unseen : ∀ o ∈ objects, o.id ∉ seen) (ids : (objects.map (·.id)).Nodup) :
    distinctFrom seen objects = objects := by
  induction objects generalizing seen with
  | nil => rfl
  | cons o rest ih =>
      obtain ⟨fresh, ids⟩ := List.nodup_cons.mp ids
      have new : o.id ∉ seen := unseen o List.mem_cons_self
      rw [distinctFrom, if_neg (mt List.contains_iff_mem.mp new), ih ?_ ids]
      intro other later again
      rcases List.mem_cons.mp again with same | before
      · exact fresh (List.mem_map.mpr ⟨other, later, same⟩)
      · exact unseen other (List.mem_cons_of_mem o later) before

theorem distinct_eq_self {objects : List (SceneObject S)} (ids : (objects.map (·.id)).Nodup) :
    distinct objects = objects :=
  distinctFrom_eq_self (fun _ _ => List.not_mem_nil) ids

theorem mergeSort_ascending {α : Type} (key : α → UInt32) {xs : List α}
    (keys : (xs.map key).Nodup) :
    (xs.mergeSort fun a b => key a ≤ key b).Pairwise fun a b => key a < key b := by
  have transitive : ∀ a b c : α, decide (key a ≤ key b) = true → decide (key b ≤ key c) = true →
      decide (key a ≤ key c) = true := by
    intro a b c first second
    exact decide_eq_true (UInt32.le_trans (of_decide_eq_true first) (of_decide_eq_true second))
  have total : ∀ a b : α, (decide (key a ≤ key b) || decide (key b ≤ key a)) = true := by
    intro a b
    simpa using UInt32.le_total (key a) (key b)
  have sorted := (List.pairwise_mergeSort transitive total xs).imp of_decide_eq_true
  have apart : (xs.mergeSort fun a b => key a ≤ key b).Pairwise fun a b => key a ≠ key b :=
    List.pairwise_map.mp (((List.mergeSort_perm _ _).map _).nodup_iff.mpr keys)
  exact (sorted.and apart).imp fun ordered => UInt32.lt_of_le_of_ne ordered.1 ordered.2

def Options.marches (options : Options S) (shape : Shape S) : Bool :=
  options.marchesAll || shape.isSolid

theorem objectPart_id (options : Options S) (o : SceneObject S) :
    (objectPart options o).id = o.id := by
  unfold objectPart
  cases o.shape with
  | sphere center radius => dsimp only; split <;> rfl
  | solid tree => rfl

theorem objectPart_field (options : Options S) (o : SceneObject S) :
    (objectPart options o).field =
      if options.marches o.shape then some o.shape.toSdf else none := by
  unfold objectPart Options.marches
  cases o.shape with
  | sphere center radius => cases options.marchesAll <;> rfl
  | solid tree => cases options.marchesAll <;> rfl

theorem objectPart_analytic (options : Options S) (o : SceneObject S) :
    (objectPart options o).analytic.isSome = !options.marches o.shape := by
  unfold objectPart Options.marches
  cases o.shape with
  | sphere center radius => cases options.marchesAll <;> rfl
  | solid tree => cases options.marchesAll <;> rfl

theorem objectPart_shading (options : Options S) (o : SceneObject S) :
    (objectPart options o).shading =
      if options.target = .screen then some (o.material, o.color) else none := by
  unfold objectPart
  cases o.shape with
  | sphere center radius => cases options.marchesAll <;> rfl
  | solid tree => rfl

theorem depthError?_objectPart (options : Options S) {o : SceneObject S}
    (shallow : o.shape.toSdf.depth ≤ Sdf.maxDepth) : depthError? (objectPart options o) = none := by
  have fits : ¬ Sdf.maxDepth < o.shape.toSdf.depth := Nat.not_lt_of_le shallow
  rw [depthError?, objectPart_field]
  split
  next tree same =>
    split at same
    · rw [← Option.some.inj same, if_neg fits]
    · cases same
  next => rfl

def parts (options : Options S) (objects : List (SceneObject S)) : List (ObjectPart S) :=
  (distinct objects).map (objectPart options)

theorem parts_ids_nodup (options : Options S) (objects : List (SceneObject S)) :
    ((parts options objects).map (·.id)).Nodup := by
  have same : (parts options objects).map (·.id) = (distinct objects).map (·.id) := by
    rw [parts, List.map_map]
    exact List.map_congr_left fun o _ => objectPart_id options o
  rw [same]
  exact distinct_ids_nodup objects

variable [Scalar S]

/-- The plan of parts without faults. -/
def planned (options : Options S) (parts : List (ObjectPart S)) : Plan S where
  target := options.target
  camera := options.camera
  bindings := bindings options
  constants := constants options
  routines := neededRoutines options.target parts
  objects := parts.mergeSort fun a b => a.id ≤ b.id
  entryPoints := entryPoints options

/-- A plan follows from the options and the parts. -/
theorem plan_eq (objects : List (SceneObject S)) (options : Options S) :
    plan objects options =
      if options.numSamples = 0 then .error .invalidSampleCount
      else ((parts options objects).findSome? depthError?).elim
        (.ok (planned options (parts options objects))) .error := by
  have same : (distinct objects).map (objectPart options) = parts options objects := rfl
  unfold plan
  dsimp only
  rw [same]
  cases (parts options objects).findSome? depthError? <;> rfl

theorem plan_eq_ok_iff {objects : List (SceneObject S)} {options : Options S} {p : Plan S} :
    plan objects options = .ok p ↔
      options.numSamples ≠ 0 ∧ (∀ part ∈ parts options objects, depthError? part = none) ∧
        planned options (parts options objects) = p := by
  rw [← List.findSome?_eq_none_iff, plan_eq]
  by_cases sampled : options.numSamples = 0
  · simp [sampled]
  · cases (parts options objects).findSome? depthError? <;> simp [sampled]

/-- Nothing but a missing sample or a field that is too deep keeps a shader from being planned. -/
theorem plan_succeeds {objects : List (SceneObject S)} {options : Options S}
    (sampled : options.numSamples ≠ 0)
    (shallow : ∀ o ∈ objects, o.shape.toSdf.depth ≤ Sdf.maxDepth) :
    ∃ p, plan objects options = .ok p := by
  refine ⟨_, plan_eq_ok_iff.mpr ⟨sampled, ?_, rfl⟩⟩
  intro part member
  obtain ⟨o, inside, rfl⟩ := List.mem_map.mp member
  exact depthError?_objectPart options (shallow o (distinctFrom_subset [] objects inside))

end RayScene.Shader
