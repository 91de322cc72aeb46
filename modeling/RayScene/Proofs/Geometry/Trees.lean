import RayScene.Geometry.Sdf

namespace RayScene.Sdf

variable {S T : Type}

theorem mem_subtrees_self (tree : Sdf S) : tree ∈ tree.subtrees := by
  cases tree <;> simp [subtrees]

theorem subtrees_subset_subtreesOfAll {child : Sdf S} {children : List (Sdf S)}
    (member : child ∈ children) : child.subtrees ⊆ subtreesOfAll children := by
  induction children with
  | nil => cases member
  | cons first rest ih =>
      rw [subtreesOfAll]
      rcases List.mem_cons.mp member with rfl | member
      · exact List.subset_append_left _ _
      · exact List.subset_append_of_subset_right _ (ih member)

theorem subtrees_subset {tree child : Sdf S} (member : child ∈ tree.children) :
    child.subtrees ⊆ tree.subtrees := by
  intro node inside
  cases tree with
  | primitive kind position dimensions => cases member
  | union children | smoothUnion k children | intersection children =>
      exact List.mem_cons_of_mem _ (subtrees_subset_subtreesOfAll member inside)
  | subtraction base cut =>
      simp only [children, List.mem_cons, List.not_mem_nil, or_false] at member
      rcases member with rfl | rfl <;> simp [subtrees, inside]
  | translate offset inner | rotate angles inner | repeated period inner =>
      rw [children, List.mem_singleton] at member
      rw [subtrees, ← member]
      exact List.mem_cons_of_mem _ inside

mutual

theorem induction_on_children {motive : Sdf S → Prop}
    (step : ∀ tree, (∀ child ∈ tree.children, motive child) → motive tree) : ∀ tree, motive tree
  | primitive .. => step _ fun _ member => by cases member
  | union children | smoothUnion _ children | intersection children =>
    step _ (induction_on_all_children step children)
  | subtraction base cut => step _ fun child member => by
    rcases List.mem_cons.mp member with same | member
    · rw [same]
      exact induction_on_children step base
    · rw [List.mem_singleton.mp member]
      exact induction_on_children step cut
  | translate _ inner | rotate _ inner | repeated _ inner => step _ fun child member => by
    rw [List.mem_singleton.mp member]
    exact induction_on_children step inner

theorem induction_on_all_children {motive : Sdf S → Prop}
    (step : ∀ tree, (∀ child ∈ tree.children, motive child) → motive tree) :
    ∀ children : List (Sdf S), ∀ child ∈ children, motive child
  | [] => fun _ member => by cases member
  | first :: rest => fun child member => by
    rcases List.mem_cons.mp member with same | member
    · rw [same]
      exact induction_on_children step first
    · exact induction_on_all_children step rest child member

end

theorem induction_on_nodes {known motive : Sdf S → Prop}
    (step : ∀ tree, known tree → (∀ child ∈ tree.children, motive child) → motive tree)
    {tree : Sdf S} (nodes : ∀ node ∈ tree.subtrees, known node) : motive tree := by
  induction tree using induction_on_children with
  | step tree ih =>
      refine step tree (nodes tree (mem_subtrees_self tree)) fun child member => ?_
      exact ih child member fun node inside => nodes node (subtrees_subset member inside)

mutual

/-- The tree with other numbers in it. -/
def map (f : S → T) : Sdf S → Sdf T
  | primitive kind position dimensions => primitive kind (position.map f) (dimensions.map f)
  | union children => union (mapAll f children)
  | smoothUnion k children => smoothUnion (f k) (mapAll f children)
  | intersection children => intersection (mapAll f children)
  | subtraction base cut => subtraction (map f base) (map f cut)
  | translate offset child => translate (offset.map f) (map f child)
  | rotate angles child => rotate (angles.map f) (map f child)
  | repeated period child => repeated (period.map f) (map f child)

def mapAll (f : S → T) : List (Sdf S) → List (Sdf T)
  | [] => []
  | child :: children => map f child :: mapAll f children

end

theorem mapAll_eq (f : S → T) (children : List (Sdf S)) :
    mapAll f children = children.map (map f) := by
  induction children with
  | nil => rfl
  | cons child children ih => rw [mapAll, ih, List.map_cons]

theorem children_map (f : S → T) (tree : Sdf S) :
    (tree.map f).children = tree.children.map (map f) := by
  cases tree <;> simp [map, children, mapAll_eq]

theorem subtreesOfAll_eq (trees : List (Sdf S)) : subtreesOfAll trees = trees.flatMap subtrees := by
  induction trees with
  | nil => rfl
  | cons first rest ih => rw [subtreesOfAll, ih, List.flatMap_cons]

theorem subtrees_eq (tree : Sdf S) : tree.subtrees = tree :: tree.children.flatMap subtrees := by
  cases tree <;> simp [subtrees, children, subtreesOfAll_eq]

theorem subtrees_trans {root node : Sdf S} (inside : node ∈ root.subtrees) :
    node.subtrees ⊆ root.subtrees := by
  induction root using induction_on_children with
  | step root ih =>
      rw [subtrees_eq, List.mem_cons, List.mem_flatMap] at inside
      rcases inside with rfl | ⟨child, member, inside⟩
      · exact List.Subset.refl _
      · exact List.Subset.trans (ih child member inside) (subtrees_subset member)

/-- A tree itself, its children, the children of those, and so on. -/
inductive Part (root : Sdf S) : Sdf S → Prop where
  | self : root.Part root
  | child {node inner : Sdf S} : root.Part node → inner ∈ node.children → root.Part inner

theorem Part.trans {root node inner : Sdf S} (first : root.Part node) (second : node.Part inner) :
    root.Part inner := by
  induction second with
  | self => exact first
  | child _ member ih => exact ih.child member

theorem mem_subtrees_iff {root node : Sdf S} : node ∈ root.subtrees ↔ root.Part node := by
  constructor
  · intro inside
    induction root using induction_on_children with
    | step root ih =>
        rw [subtrees_eq, List.mem_cons, List.mem_flatMap] at inside
        rcases inside with rfl | ⟨child, member, inside⟩
        · exact .self
        · exact (Part.self.child member).trans (ih child member inside)
  · intro part
    induction part with
    | self => exact mem_subtrees_self root
    | child _ member ih =>
        exact subtrees_trans ih (subtrees_subset member (mem_subtrees_self _))

theorem map_mem_subtrees (f : S → T) (tree : Sdf S) {node : Sdf S}
    (inside : node ∈ tree.subtrees) : node.map f ∈ (tree.map f).subtrees := by
  induction tree using induction_on_children with
  | step tree ih =>
      rw [subtrees_eq, List.mem_cons, List.mem_flatMap] at inside ⊢
      rcases inside with rfl | ⟨child, member, inside⟩
      · exact .inl rfl
      · rw [children_map]
        exact .inr ⟨_, List.mem_map_of_mem member, ih child member inside⟩

theorem distances_eq [Scalar S] (trees : List (Sdf S)) (p : Vec3 S) :
    distances trees p = trees.map (distance · p) := by
  induction trees with
  | nil => rfl
  | cons first rest ih => rw [distances, ih, List.map_cons]

end RayScene.Sdf
