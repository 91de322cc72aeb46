import Mathlib.Logic.Function.Basic
import RayScene.Proofs.Number.Value
import RayScene.Proofs.Shader.Execution

namespace RayScene.Wgsl.Unrounded

inductive Content where
  | number (value : ℝ)
  | unsigned (value : UInt32)
  | flag (value : Bool)
  | vector (components : List ℝ)
  | flags (components : List Bool)
  | record (members : List (String × Content))

namespace Content

def arithmetic? (op : ℝ → ℝ → ℝ) : Content → Content → Option Content
  | number x, number y => some (number (op x y))
  | number x, vector ys => some (vector (ys.map (op x)))
  | vector xs, number y => some (vector (xs.map (op · y)))
  | vector xs, vector ys =>
    if xs.length = ys.length then some (vector (xs.zipWith op ys)) else none
  | _, _ => none

def compare? (test : ℝ → ℝ → Bool) : Content → Content → Option Content
  | number x, number y => some (flag (test x y))
  | vector xs, vector ys =>
    if xs.length = ys.length then some (flags (xs.zipWith test ys)) else none
  | _, _ => none

def either? : Content → Content → Option Content
  | flag a, flag b => some (flag (a || b))
  | _, _ => none

noncomputable def binary? : BinaryOp → Content → Content → Option Content
  | .add => arithmetic? (· + ·)
  | .sub => arithmetic? (· - ·)
  | .mul => arithmetic? (· * ·)
  | .div => arithmetic? (· / ·)
  | .lt => compare? fun x y => decide (x < y)
  | .gt => compare? fun x y => decide (y < x)
  | .le => compare? fun x y => decide (x ≤ y)
  | .ge => compare? fun x y => decide (y ≤ x)
  | .or => either?
  | _ => fun _ _ => none

def negate? : Content → Option Content
  | number x => some (number (-x))
  | vector xs => some (vector (xs.map (-·)))
  | _ => none

def swizzle? (components : List ℝ) (name : String) : Option Content := do
  match ← name.toList.mapM fun axis => components[['x', 'y', 'z', 'w'].idxOf axis]? with
  | [x] => some (number x)
  | xs => some (vector xs)

def member? : Content → String → Option Content
  | record members, name => members.lookup name
  | vector components, name => swizzle? components name
  | _, _ => none

end Content

structure Local where
  content : Content
  assignable : Bool

abbrev Locals := String → Option Local

namespace Locals

def declare? (locals : Locals) (name : String) (entry : Local) : Option Locals :=
  match locals name with
  | some _ => none
  | none => some (Function.update locals name (some entry))

def assign? (locals : Locals) (name : String) (content : Content) : Option Locals :=
  match locals name with
  | some ⟨_, true⟩ => some (Function.update locals name (some ⟨content, true⟩))
  | _ => none

def leaveBlock (outer inner : Locals) : Locals := fun name => (outer name).bind fun _ => inner name

end Locals

abbrev Calls := String → List Content → Option Content

abbrev Globals := String → Option Content

inductive Flow where
  | onward (locals : Locals)
  | returned (content : Content)

def Flow.leaveBlock (outer : Locals) : Flow → Flow
  | onward inner => .onward (outer.leaveBlock inner)
  | returned content => .returned content

section Run

variable (calls : Calls) (globals : Globals)

mutual

@[simp]
noncomputable def eval? (locals : Locals) : Expr Single → Option Content
  | .float value => some (.number value.value)
  | .whole value => some (.number value)
  | .unsigned value => some (.unsigned (UInt32.ofNat value))
  | .bool value => some (.flag value)
  | .var name => ((locals name).map (·.content)).or (globals name)
  | .member base name => do (← eval? locals base).member? name
  | .neg operand => do (← eval? locals operand).negate?
  | .binary op left right => do Content.binary? op (← eval? locals left) (← eval? locals right)
  | .paren inner => eval? locals inner
  | .call function arguments | .tallCall function arguments => do
    calls function (← evalAll? locals arguments)
  | _ => none

@[simp]
noncomputable def evalAll? (locals : Locals) : List (Expr Single) → Option (List Content)
  | [] => some []
  | e :: es => do return (← eval? locals e) :: (← evalAll? locals es)

end

mutual

@[simp]
noncomputable def exec? (locals : Locals) : Stmt Single → Option Flow
  | .bind name value => do
    return .onward (← locals.declare? name ⟨← eval? calls globals locals value, false⟩)
  | .declare name value => do
    return .onward (← locals.declare? name ⟨← eval? calls globals locals value, true⟩)
  | .assign (.var name) .set value => do
    return .onward (← locals.assign? name (← eval? calls globals locals value))
  | .ret value => do return .returned (← eval? calls globals locals value)
  | .branch condition yes no => do
    match ← eval? calls globals locals condition with
    | .flag true => return (← execBlock? locals yes).leaveBlock locals
    | .flag false => return (← execBlock? locals no).leaveBlock locals
    | _ => none
  | _ => none

@[simp]
noncomputable def execBlock? (locals : Locals) : List (Stmt Single) → Option Flow
  | [] => some (.onward locals)
  | s :: rest => do
    match ← exec? locals s with
    | .onward locals => execBlock? locals rest
    | .returned content => some (.returned content)

end

def parameters (slots : List Slot) (arguments : List Content) : Locals := fun name =>
  (((slots.map (·.name)).zip arguments).lookup name).map (⟨·, false⟩)

/-- What a function returns; it has to reach a return statement. -/
noncomputable def run? (f : Function Single) (arguments : List Content) : Option Content := do
  if f.parameters.length ≠ arguments.length then none
  else
    match ← execBlock? calls globals (parameters f.parameters arguments) f.body with
    | .returned content => some content
    | .onward _ => none

end Run

noncomputable def language : Calls
  | "dot", [.vector xs, .vector ys] =>
    if xs.length = ys.length then some (.number (xs.zipWith (· * ·) ys).sum) else none
  | "sqrt", [.number x] => some (.number √x)
  | "select", [no, yes, .flag choice] => some (if choice then yes else no)
  | "vec3f", [.number x] => some (.vector [x, x, x])
  | "vec3f", [.number x, .number y, .number z] => some (.vector [x, y, z])
  | _, _ => none

def slots? (name : String) : Item Single → Option (List Slot)
  | .struct other members => if other = name then some members else none
  | _ => none

def construct? (m : Module Single) (name : String) (arguments : List Content) : Option Content := do
  let slots ← m.items.findSome? (slots? name)
  if slots.length = arguments.length then some (.record ((slots.map (·.name)).zip arguments))
  else none

noncomputable def itemConstant? (name : String) : Item Single → Option Content
  | .constant other _ value =>
    if other = name then eval? (fun _ _ => none) (fun _ => none) (fun _ => none) value else none
  | _ => none

noncomputable def constant? (m : Module Single) (name : String) : Option Content :=
  m.items.findSome? (itemConstant? name)

/-- Calls a function of a shader, where some functions are given by what they return, and calls
are nested to a limited depth. -/
noncomputable def call? (m : Module Single) (given : Calls) : Nat → Calls
  | 0, _, _ => none
  | depth + 1, name, arguments =>
    (given name arguments).or <| (language name arguments).or <|
      (construct? m name arguments).or <|
        (m.function? name).bind fun f => run? (call? m given depth) (constant? m) f arguments

section Steps

variable {calls : Calls} {globals : Globals} {locals : Locals}

theorem eval?_local {name : String} {entry : Local} (bound : locals name = some entry) :
    eval? calls globals locals (.var name) = some entry.content := by
  rw [eval?, bound]
  rfl

theorem eval?_global {name : String} (free : locals name = none) :
    eval? calls globals locals (.var name) = globals name := by
  rw [eval?, free]
  rfl

theorem eval?_member {e : Expr Single} {content : Content} (name : String)
    (evaluated : eval? calls globals locals e = some content) :
    eval? calls globals locals (.member e name) = content.member? name := by
  rw [eval?, evaluated]
  rfl

theorem eval?_binary (op : BinaryOp) {left right : Expr Single} {a b : Content}
    (first : eval? calls globals locals left = some a)
    (second : eval? calls globals locals right = some b) :
    eval? calls globals locals (.binary op left right) = Content.binary? op a b := by
  rw [eval?, first, second]
  rfl

theorem evalAll?_cons {e : Expr Single} {es : List (Expr Single)} {content : Content}
    {contents : List Content} (first : eval? calls globals locals e = some content)
    (others : evalAll? calls globals locals es = some contents) :
    evalAll? calls globals locals (e :: es) = some (content :: contents) := by
  rw [evalAll?, first, others]
  rfl

theorem eval?_call {function : String} {arguments : List (Expr Single)} {contents : List Content}
    (evaluated : evalAll? calls globals locals arguments = some contents) :
    eval? calls globals locals (.call function arguments) = calls function contents := by
  rw [eval?, evaluated]
  rfl

theorem execBlock?_cons {s : Stmt Single} {after : Locals} (rest : List (Stmt Single))
    (step : exec? calls globals locals s = some (.onward after)) :
    execBlock? calls globals locals (s :: rest) = execBlock? calls globals after rest := by
  rw [execBlock?, step]
  rfl

theorem execBlock?_ret {e : Expr Single} {content : Content}
    (evaluated : eval? calls globals locals e = some content) :
    execBlock? calls globals locals [.ret e] = some (.returned content) := by
  rw [execBlock?, exec?, evaluated]
  rfl

theorem execBlock?_bind {name : String} {e : Expr Single} (rest : List (Stmt Single))
    (content : Content) (evaluated : eval? calls globals locals e = some content)
    (fresh : locals name = none) :
    execBlock? calls globals locals (.bind name e :: rest) =
      execBlock? calls globals (Function.update locals name (some ⟨content, false⟩)) rest := by
  refine execBlock?_cons rest ?_
  rw [exec?, evaluated]
  show (do return Flow.onward (← Locals.declare? locals name ⟨content, false⟩)) = _
  rw [Locals.declare?, fresh]
  rfl

theorem execBlock?_declare {name : String} {e : Expr Single} (rest : List (Stmt Single))
    (content : Content) (evaluated : eval? calls globals locals e = some content)
    (fresh : locals name = none) :
    execBlock? calls globals locals (.declare name e :: rest) =
      execBlock? calls globals (Function.update locals name (some ⟨content, true⟩)) rest := by
  refine execBlock?_cons rest ?_
  rw [exec?, evaluated]
  show (do return Flow.onward (← Locals.declare? locals name ⟨content, true⟩)) = _
  rw [Locals.declare?, fresh]
  rfl

theorem execBlock?_assign {name : String} {e : Expr Single} {old : Content}
    (rest : List (Stmt Single)) (content : Content)
    (evaluated : eval? calls globals locals e = some content)
    (bound : locals name = some ⟨old, true⟩) :
    execBlock? calls globals locals (.assign (.var name) .set e :: rest) =
      execBlock? calls globals (Function.update locals name (some ⟨content, true⟩)) rest := by
  refine execBlock?_cons rest ?_
  rw [exec?, evaluated]
  show (do return Flow.onward (← Locals.assign? locals name content)) = _
  rw [Locals.assign?, bound]
  rfl

theorem run?_of_block {f : Function Single} {arguments : List Content} {content : Content}
    (fits : f.parameters.length = arguments.length)
    (block : execBlock? calls globals (parameters f.parameters arguments) f.body =
      some (.returned content)) : run? calls globals f arguments = some content := by
  rw [run?, if_neg (not_not.mpr fits), block]
  rfl

end Steps

namespace Locals

theorem leaveBlock_self (locals : Locals) : locals.leaveBlock locals = locals := by
  funext name
  unfold leaveBlock
  cases locals name <;> rfl

/-- What a block does to an outer name stays. -/
theorem leaveBlock_update {locals : Locals} {name : String} {old : Local} (new : Local)
    (bound : locals name = some old) :
    locals.leaveBlock (Function.update locals name (some new)) =
      Function.update locals name (some new) := by
  funext other
  unfold leaveBlock
  by_cases same : other = name
  · subst same
    rw [bound, Option.bind_some]
  · rw [Function.update_of_ne same]
    cases locals other <;> rfl

end Locals

section Branches

variable {calls : Calls} {globals : Globals} {locals : Locals} {condition : Expr Single}
  {yes : List (Stmt Single)} (rest : List (Stmt Single))

theorem execBlock?_skip (tested : eval? calls globals locals condition = some (.flag false)) :
    execBlock? calls globals locals (.branch condition yes [] :: rest) =
      execBlock? calls globals locals rest := by
  refine execBlock?_cons rest ?_
  rw [exec?, tested]
  show some (Flow.onward (locals.leaveBlock locals)) = _
  rw [locals.leaveBlock_self]

variable (tested : eval? calls globals locals condition = some (.flag true))

include tested

theorem execBlock?_enter {after : Locals}
    (block : execBlock? calls globals locals yes = some (.onward after)) :
    execBlock? calls globals locals (.branch condition yes [] :: rest) =
      execBlock? calls globals (locals.leaveBlock after) rest := by
  refine execBlock?_cons rest ?_
  rw [exec?, tested]
  show (do return Flow.leaveBlock locals (← execBlock? calls globals locals yes)) = _
  rw [block]
  rfl

theorem execBlock?_leave {content : Content}
    (block : execBlock? calls globals locals yes = some (.returned content)) :
    execBlock? calls globals locals (.branch condition yes [] :: rest) =
      some (.returned content) := by
  have returned : exec? calls globals locals (.branch condition yes []) =
      some (.returned content) := by
    rw [exec?, tested]
    show (do return Flow.leaveBlock locals (← execBlock? calls globals locals yes)) = _
    rw [block]
    rfl
  rw [execBlock?, returned]
  rfl

end Branches

end RayScene.Wgsl.Unrounded
