import RayScene.Shader.Wgsl

namespace RayScene.Wgsl

variable {S : Type}

/-- A name from outside of where it is used, by what it is used as. -/
inductive Mention where
  | function (name : String)
  | value (name : String)
  | struct (name : String)
  /-- A function that is called where a local name hides it. -/
  | hidden (name : String)
  deriving DecidableEq, Repr

def Mention.name : Mention → String
  | function name | value name | struct name | hidden name => name

def builtinNames : List String := [
  "vec2f", "vec3f", "vec4f", "vec2u", "vec2i", "f32", "u32", "bitcast<vec2u>",
  "abs", "ceil", "clamp", "cos", "cross", "distance", "dot", "exp", "floor", "fract", "length",
  "max", "min", "mix", "normalize", "pow", "radians", "reflect", "refract", "select", "sign",
  "sin", "smoothstep", "sqrt", "step", "tan", "textureLoad"]

def builtins : List Mention := builtinNames.map .function

def callee (scope : List String) (name : String) : Mention :=
  if scope.contains name then .hidden name else .function name

def variableMentions (scope : List String) (name : String) : List Mention :=
  if scope.contains name then [] else [.value name]

mutual

def Expr.mentions (scope : List String) : Expr S → List Mention
  | .float _ | .whole _ | .unsigned _ | .signed _ | .bool _ => []
  | .var name => variableMentions scope name
  | .member base _ => base.mentions scope
  | .index base position => base.mentions scope ++ position.mentions scope
  | .neg operand => operand.mentions scope
  | .binary _ left right => left.mentions scope ++ right.mentions scope
  | .paren inner => inner.mentions scope
  | .call function arguments | .tallCall function arguments =>
    callee scope function :: mentionsOfAll scope arguments

def mentionsOfAll (scope : List String) : List (Expr S) → List Mention
  | [] => []
  | e :: es => e.mentions scope ++ mentionsOfAll scope es

end

def Ty.mentions : Ty → List Mention
  | struct name => [.struct name]
  | _ => []

def Stmt.binds : Stmt S → List String
  | .bind name _ | .declare name _ | .declareEmpty name _ => [name]
  | _ => []

mutual

def Stmt.mentions (scope : List String) : Stmt S → List Mention
  | .bind _ value | .declare _ value | .ret value => value.mentions scope
  | .declareEmpty _ type => type.mentions
  | .assign target _ value => target.mentions scope ++ value.mentions scope
  | .effect call => call.mentions scope
  | .stop | .leave => []
  | .branch condition yes no =>
    condition.mentions scope ++ blockMentions scope yes ++ blockMentions scope no
  | .count counter bound body =>
    bound.mentions (counter :: scope) ++ blockMentions (counter :: scope) body
  | .switch value cases => value.mentions scope ++ caseMentions scope cases

def blockMentions (scope : List String) : List (Stmt S) → List Mention
  | [] => []
  | s :: rest => s.mentions scope ++ blockMentions (s.binds ++ scope) rest

def caseMentions (scope : List String) : List (Nat × List (Stmt S)) → List Mention
  | [] => []
  | (_, body) :: rest => blockMentions scope body ++ caseMentions scope rest

end

def slotMentions (slots : List Slot) : List Mention := slots.flatMap (·.type.mentions)

def Function.mentions (f : Function S) : List Mention :=
  slotMentions f.parameters ++ f.result.elim [] Ty.mentions ++
    blockMentions (f.parameters.map (·.name)) f.body

def Item.mentions : Item S → List Mention
  | comment _ => []
  | constant _ type value => type.mentions ++ value.mentions []
  | struct _ members => slotMentions members
  | global _ _ _ type => type.mentions
  | function definition => definition.mentions

def Module.mentions (m : Module S) : List Mention := m.items.flatMap Item.mentions

def Item.declared? : Item S → Option Mention
  | comment _ => none
  | constant name _ _ | global _ _ name _ => some (.value name)
  | struct name _ => some (.struct name)
  | function definition => some (.function definition.name)

def Item.name? (item : Item S) : Option String := item.declared?.map Mention.name

def itemNames (items : List (Item S)) : List String := items.filterMap Item.name?

/-- What a declaration can be used as; a structure is a function too, its constructor. -/
def Mention.offers : Mention → List Mention
  | struct name => [.struct name, .function name]
  | mention => [mention]

def Item.declares (item : Item S) : List Mention := item.declared?.toList.flatMap Mention.offers

def Module.declares (m : Module S) : List Mention := m.items.flatMap Item.declares

def Attribute.binding? : Attribute → Option Nat
  | binding index => some index
  | _ => none

def Item.bindings : Item S → List Nat
  | global attributes _ _ _ => attributes.filterMap Attribute.binding?
  | _ => []

/-- Whatever is used is declared exactly once, unless the language has it and no item does. -/
def Module.Closed (m : Module S) : Prop :=
  ∀ mention ∈ m.mentions, m.declares.count mention = if mention ∈ builtins then 0 else 1

theorem Mention.name_of_offers {own mention : Mention} (offered : mention ∈ own.offers) :
    mention.name = own.name := by
  cases own with
  | struct name =>
      simp only [offers, List.mem_cons, List.not_mem_nil, or_false] at offered
      rcases offered with rfl | rfl <;> rfl
  | function name | value name | hidden name => rw [List.mem_singleton.mp offered]

theorem Item.name?_of_declares {item : Item S} {mention : Mention}
    (declared : mention ∈ item.declares) : item.name? = some mention.name := by
  obtain ⟨own, listed, offered⟩ := List.mem_flatMap.mp declared
  rw [Item.name?, Option.mem_toList.mp listed, Option.map_some, Mention.name_of_offers offered]

theorem Item.declares_nodup (item : Item S) : item.declares.Nodup := by
  rw [Item.declares]
  rcases item.declared? with _ | own
  · exact List.nodup_nil
  · cases own <;> simp [Mention.offers]

theorem name_mem_itemNames {items : List (Item S)} {mention : Mention}
    (declared : mention ∈ items.flatMap Item.declares) : mention.name ∈ itemNames items := by
  obtain ⟨item, inside, found⟩ := List.mem_flatMap.mp declared
  exact List.mem_filterMap.mpr ⟨item, inside, item.name?_of_declares found⟩

theorem declares_nodup {items : List (Item S)} (distinct : (itemNames items).Nodup) :
    (items.flatMap Item.declares).Nodup := by
  induction items with
  | nil => exact List.nodup_nil
  | cons item rest ih =>
      have later : (itemNames rest).Nodup := by
        unfold itemNames at distinct
        rw [List.filterMap_cons] at distinct
        split at distinct
        · exact distinct
        · exact (List.nodup_cons.mp distinct).2
      rw [List.flatMap_cons]
      refine List.nodup_append.mpr ⟨item.declares_nodup, ih later, ?_⟩
      intro mention here other there same
      subst same
      have named := item.name?_of_declares here
      simp only [itemNames, List.filterMap_cons, named] at distinct
      exact (List.nodup_cons.mp distinct).1 (name_mem_itemNames there)

/-- A shader is closed if no two items share a name, none takes a name of the language, and all
that is used belongs to the language or to an item. -/
theorem Module.closed {m : Module S} (distinct : (itemNames m.items).Nodup)
    (apart : ∀ name ∈ itemNames m.items, name ∉ builtinNames)
    (known : ∀ mention ∈ m.mentions, mention ∈ builtins ∨ mention ∈ m.declares) : m.Closed := by
  intro mention used
  by_cases builtin : mention ∈ builtins
  · rw [if_pos builtin]
    apply List.count_eq_zero_of_not_mem
    intro declared
    obtain ⟨name, own, rfl⟩ := List.mem_map.mp builtin
    exact apart name (name_mem_itemNames declared) own
  · rw [if_neg builtin]
    have declared : mention ∈ m.declares := (known mention used).resolve_left builtin
    have once : m.declares.Nodup := declares_nodup distinct
    rw [once.count, if_pos declared]

theorem variableMentions_bound {scope : List String} {name : String} (bound : name ∈ scope) :
    variableMentions scope name = [] := by
  rw [variableMentions, List.contains_iff_mem.mpr bound, if_pos rfl]

def startsIn (letters : List Char) (name : String) : Bool :=
  name.toList.head?.any letters.contains

theorem startsIn_eq {letters : List Char} {name : String} {letter : Char}
    (initial : name.toList.head? = some letter) :
    startsIn letters name = letters.contains letter := by
  rw [startsIn, initial]
  rfl

def Lettered (letters : List Char) (scope : List String) : Prop :=
  ∀ name ∈ scope, startsIn letters name = true

/-- A call is not hidden where no local name starts as the name of the function does. -/
theorem callee_eq {letters : List Char} {scope : List String} {name : String}
    (lettered : Lettered letters scope) (apart : startsIn letters name = false) :
    callee scope name = .function name := by
  rw [callee, if_neg]
  intro bound
  have starts := lettered name (List.contains_iff_mem.mp bound)
  rw [apart] at starts
  cases starts

theorem Lettered.cons {letters : List Char} {scope : List String} {name : String} {letter : Char}
    (lettered : Lettered letters scope) (member : letter ∈ letters)
    (initial : name.toList.head? = some letter) : Lettered letters (name :: scope) := by
  have starts : startsIn letters name = true := by
    rw [startsIn_eq initial]
    exact List.contains_iff_mem.mpr member
  exact List.forall_mem_cons.mpr ⟨starts, lettered⟩

theorem initial_append {word : String} {letter : Char} (rest : String)
    (initial : word.toList.head? = some letter) :
    (word ++ rest).toList.head? = some letter := by
  rw [String.toList_append, List.head?_append, initial]
  rfl

/-- All that an expression mentions satisfies a condition. -/
def Expr.Within (known : Mention → Prop) (scope : List String) (e : Expr S) : Prop :=
  ∀ mention ∈ e.mentions scope, known mention

def Stmt.Within (known : Mention → Prop) (scope : List String) (s : Stmt S) : Prop :=
  ∀ mention ∈ s.mentions scope, known mention

def BlockWithin (known : Mention → Prop) (scope : List String) (block : List (Stmt S)) : Prop :=
  ∀ mention ∈ blockMentions scope block, known mention

def scopeAfter (scope : List String) (block : List (Stmt S)) : List String :=
  block.foldl (fun scope s => s.binds ++ scope) scope

theorem scope_subset_scopeAfter (scope : List String) (block : List (Stmt S)) :
    scope ⊆ scopeAfter scope block := by
  induction block generalizing scope with
  | nil => exact List.Subset.refl scope
  | cons s rest ih => exact List.Subset.trans (List.subset_append_right s.binds scope) (ih _)

theorem scopeAfter_append (scope : List String) (first second : List (Stmt S)) :
    scopeAfter scope (first ++ second) = scopeAfter (scopeAfter scope first) second :=
  List.foldl_append

theorem blockMentions_append (scope : List String) (first second : List (Stmt S)) :
    blockMentions scope (first ++ second) =
      blockMentions scope first ++ blockMentions (scopeAfter scope first) second := by
  induction first generalizing scope with
  | nil => simp only [List.nil_append, blockMentions, scopeAfter, List.foldl_nil]
  | cons s rest ih =>
      simp only [List.cons_append, blockMentions, ih, List.append_assoc, scopeAfter,
        List.foldl_cons]

section Within

variable {known : Mention → Prop} {scope : List String}

theorem Expr.within_var {name : String} (bound : name ∈ scope) :
    (Expr.var name : Expr S).Within known scope := by
  unfold Expr.Within
  rw [Expr.mentions, variableMentions_bound bound]
  intro mention used
  cases used

theorem Expr.within_float (value : S) : (Expr.float value).Within known scope := by
  intro mention used
  cases used

theorem Expr.within_whole (value : Nat) : (Expr.whole value : Expr S).Within known scope := by
  intro mention used
  cases used

theorem Expr.within_unsigned (value : Nat) :
    (Expr.unsigned value : Expr S).Within known scope := by
  intro mention used
  cases used

theorem Expr.within_binary {left right : Expr S} (op : BinaryOp) (first : left.Within known scope)
    (second : right.Within known scope) : (Expr.binary op left right).Within known scope :=
  List.forall_mem_append.mpr ⟨first, second⟩

theorem Expr.within_call {function : String} {arguments : List (Expr S)}
    (target : known (callee scope function)) (within : ∀ e ∈ arguments, e.Within known scope) :
    (Expr.call function arguments).Within known scope := by
  refine List.forall_mem_cons.mpr ⟨target, ?_⟩
  induction arguments with
  | nil =>
      intro mention used
      cases used
  | cons e es ih =>
      rw [mentionsOfAll, List.forall_mem_append]
      exact ⟨within e List.mem_cons_self,
        ih fun other member => within other (List.mem_cons_of_mem e member)⟩

theorem Expr.within_pair {a b : Expr S} (first : a.Within known scope)
    (second : b.Within known scope) : ∀ e ∈ [a, b], e.Within known scope :=
  List.forall_mem_cons.mpr ⟨first, List.forall_mem_singleton.mpr second⟩

theorem Lettered.within_call {letters : List Char} {function : String} {arguments : List (Expr S)}
    (lettered : Lettered letters scope) (apart : startsIn letters function = false)
    (target : known (.function function)) (within : ∀ e ∈ arguments, e.Within known scope) :
    (Expr.call function arguments).Within known scope := by
  refine Expr.within_call ?_ within
  rw [callee_eq lettered apart]
  exact target

theorem Stmt.within_assign {target value : Expr S} (op : AssignOp)
    (first : target.Within known scope) (second : value.Within known scope) :
    (Stmt.assign target op value).Within known scope :=
  List.forall_mem_append.mpr ⟨first, second⟩

theorem Stmt.within_when {condition : Expr S} {yes : List (Stmt S)}
    (first : condition.Within known scope) (second : BlockWithin known scope yes) :
    (Stmt.branch condition yes []).Within known scope := by
  unfold Stmt.Within
  rw [Stmt.mentions, blockMentions, List.append_nil]
  exact List.forall_mem_append.mpr ⟨first, second⟩

theorem Stmt.within_switch {value : Expr S} {cases : List (Nat × List (Stmt S))}
    (first : value.Within known scope) (second : ∀ c ∈ cases, BlockWithin known scope c.2) :
    (Stmt.switch value cases).Within known scope := by
  refine List.forall_mem_append.mpr ⟨first, ?_⟩
  induction cases with
  | nil =>
      intro mention used
      cases used
  | cons c rest ih =>
      rw [caseMentions, List.forall_mem_append]
      exact ⟨second c List.mem_cons_self,
        ih fun other member => second other (List.mem_cons_of_mem c member)⟩

theorem within_nil : BlockWithin known scope ([] : List (Stmt S)) := by
  intro mention used
  cases used

theorem within_cons {s : Stmt S} {rest : List (Stmt S)} :
    BlockWithin known scope (s :: rest) ↔
      s.Within known scope ∧ BlockWithin known (s.binds ++ scope) rest := by
  unfold BlockWithin
  rw [blockMentions, List.forall_mem_append]
  rfl

theorem within_ret {value : Expr S} (within : value.Within known scope) :
    BlockWithin known scope [.ret value] :=
  within_cons.mpr ⟨within, within_nil⟩

theorem within_append {first second : List (Stmt S)} :
    BlockWithin known scope (first ++ second) ↔
      BlockWithin known scope first ∧ BlockWithin known (scopeAfter scope first) second := by
  unfold BlockWithin
  rw [blockMentions_append, List.forall_mem_append]

end Within

end RayScene.Wgsl
