import RayScene.Number.Single
import RayScene.Proofs.Shader.Names

namespace RayScene.Wgsl

inductive Datum where
  | number (value : Single)
  | flag (value : Bool)
  | pair (x y : Single)
  | vector (value : Vec3 Single)

def Datum.member? : Datum → String → Option Datum
  | pair x _, "x" => some (.number x)
  | pair _ y, "y" => some (.number y)
  | _, _ => none

structure Local where
  value : Datum
  assignable : Bool

abbrev Locals := List (String × Local)

namespace Locals

def declare? (locals : Locals) (name : String) (entry : Local) : Option Locals :=
  match locals.lookup name with
  | some _ => none
  | none => some ((name, entry) :: locals)

def assign? : Locals → String → Datum → Option Locals
  | [], _, _ => none
  | (other, entry) :: rest, name, value =>
    if name = other then
      if entry.assignable then some ((other, ⟨value, true⟩) :: rest) else none
    else (assign? rest name value).map ((other, entry) :: ·)

end Locals

abbrev Calls := String → List Datum → Option Datum

section Run

variable (calls : Calls) (globals : String → Option Datum)

mutual

def Expr.value? (locals : Locals) : Expr Single → Option Datum
  | .float value => some (.number value)
  | .whole value => some (.number (Single.ofNat value))
  | .var name => ((locals.lookup name).map (·.value)).or (globals name)
  | .member base name => do (← base.value? locals).member? name
  | .binary .lt left right => do
    match ← left.value? locals, ← right.value? locals with
    | .number x, .number y => some (.flag (x < y))
    | _, _ => none
  | .call function arguments => do calls function (← valuesOf? locals arguments)
  | _ => none

def valuesOf? (locals : Locals) : List (Expr Single) → Option (List Datum)
  | [] => some []
  | e :: es => do return (← e.value? locals) :: (← valuesOf? locals es)

end

inductive Flow where
  | onward (locals : Locals)
  | returned (value : Datum)

def Flow.leaveBlock (outer : Locals) : Flow → Flow
  | onward inner => .onward (inner.drop (inner.length - outer.length))
  | returned value => .returned value

mutual

def Stmt.exec? (locals : Locals) : Stmt Single → Option Flow
  | .bind name value => do
    return .onward (← locals.declare? name ⟨← value.value? calls globals locals, false⟩)
  | .declare name value => do
    return .onward (← locals.declare? name ⟨← value.value? calls globals locals, true⟩)
  | .assign (.var name) .set value => do
    return .onward (← locals.assign? name (← value.value? calls globals locals))
  | .ret value => do return .returned (← value.value? calls globals locals)
  | .branch condition yes no => do
    match ← condition.value? calls globals locals with
    | .flag true => return (← execBlock? locals yes).leaveBlock locals
    | .flag false => return (← execBlock? locals no).leaveBlock locals
    | _ => none
  | _ => none

def execBlock? (locals : Locals) : List (Stmt Single) → Option Flow
  | [] => some (.onward locals)
  | s :: rest => do
    match ← s.exec? locals with
    | .onward locals => execBlock? locals rest
    | .returned value => some (.returned value)

end

/-- What a function returns; it has to reach a return statement. -/
def Function.run? (f : Function Single) (arguments : List Datum) : Option Datum := do
  if f.parameters.length ≠ arguments.length then none
  else
    let locals := f.parameters.zipWith (fun slot value => (slot.name, ⟨value, false⟩)) arguments
    match ← execBlock? calls globals locals f.body with
    | .returned value => some value
    | .onward _ => none

end Run

def language : Calls
  | "vec2f", [.number x, .number y] => some (.pair x y)
  | _, _ => none

def Item.function? (name : String) : Item Single → Option (Function Single)
  | .function f => if f.name = name then some f else none
  | _ => none

def Item.constant? (name : String) : Item Single → Option Datum
  | .constant other _ (.float value) => if other = name then some (.number value) else none
  | _ => none

def Module.function? (m : Module Single) (name : String) : Option (Function Single) :=
  m.items.findSome? (·.function? name)

def Module.constant? (m : Module Single) (name : String) : Option Datum :=
  m.items.findSome? (·.constant? name)

/-- Calls a function of a shader, where some functions are given by what they return, and calls
are nested to a limited depth. -/
def Module.call? (m : Module Single) (given : Calls) : Nat → Calls
  | 0, _, _ => none
  | depth + 1, name, arguments =>
    (language name arguments).or <| (given name arguments).or <|
      (m.function? name).bind fun f => f.run? (m.call? given depth) m.constant? arguments

theorem function?_of_mem {items : List (Item Single)} (names : (itemNames items).Nodup)
    {f : Function Single} (member : .function f ∈ items) :
    items.findSome? (·.function? f.name) = some f := by
  induction items with
  | nil => cases member
  | cons item items ih =>
      rw [List.findSome?_cons]
      rcases List.mem_cons.mp member with rfl | later
      · rw [Item.function?, if_pos rfl]
      · cases item with
        | comment text => exact ih names later
        | constant name type value => exact ih (List.nodup_cons.mp names).2 later
        | struct name members => exact ih (List.nodup_cons.mp names).2 later
        | global attributes space name type => exact ih (List.nodup_cons.mp names).2 later
        | function other =>
            obtain ⟨fresh, names⟩ := List.nodup_cons.mp names
            have different : other.name ≠ f.name := by
              intro same
              exact fresh (List.mem_filterMap.mpr ⟨_, later, congrArg some same.symm⟩)
            rw [Item.function?, if_neg different]
            exact ih names later

theorem Module.function?_of_mem {m : Module Single} (names : (itemNames m.items).Nodup)
    {f : Function Single} (member : .function f ∈ m.items) : m.function? f.name = some f :=
  Wgsl.function?_of_mem names member

section Steps

variable {calls : Calls} {globals : String → Option Datum} {locals : Locals}

theorem Expr.value?_var {name : String} {entry : Local} (bound : locals.lookup name = some entry) :
    (Expr.var name).value? calls globals locals = some entry.value := by
  rw [Expr.value?, bound]
  rfl

theorem valuesOf?_cons {e : Expr Single} {es : List (Expr Single)} {value : Datum}
    {values : List Datum} (first : e.value? calls globals locals = some value)
    (others : valuesOf? calls globals locals es = some values) :
    valuesOf? calls globals locals (e :: es) = some (value :: values) := by
  rw [valuesOf?, first, others]
  rfl

theorem Expr.value?_call {function : String} {arguments : List (Expr Single)}
    {values : List Datum} (evaluated : valuesOf? calls globals locals arguments = some values) :
    (Expr.call function arguments).value? calls globals locals = calls function values := by
  rw [Expr.value?, evaluated]
  rfl

theorem execBlock?_cons {s : Stmt Single} {after : Locals} (rest : List (Stmt Single))
    (step : s.exec? calls globals locals = some (.onward after)) :
    execBlock? calls globals locals (s :: rest) = execBlock? calls globals after rest := by
  rw [execBlock?, step]
  rfl

theorem execBlock?_ret {e : Expr Single} {value : Datum}
    (evaluated : e.value? calls globals locals = some value) :
    execBlock? calls globals locals [.ret e] = some (.returned value) := by
  rw [execBlock?, Stmt.exec?, evaluated]
  rfl

/-- A branch whose block binds no names. -/
theorem Stmt.exec?_branch {condition : Expr Single} {flag : Bool} {after : Locals}
    (yes no : List (Stmt Single))
    (tested : condition.value? calls globals locals = some (.flag flag))
    (block : execBlock? calls globals locals (if flag then yes else no) = some (.onward after))
    (length : after.length = locals.length) :
    (Stmt.branch condition yes no).exec? calls globals locals = some (.onward after) := by
  have left : Flow.leaveBlock locals (.onward after) = .onward after := by
    rw [Flow.leaveBlock, length, Nat.sub_self, List.drop_zero]
  rw [Stmt.exec?, tested]
  cases flag with
  | true =>
      have run : execBlock? calls globals locals yes = some (.onward after) := block
      show (do return Flow.leaveBlock locals (← execBlock? calls globals locals yes)) = _
      rw [run]
      exact congrArg some left
  | false =>
      have run : execBlock? calls globals locals no = some (.onward after) := block
      show (do return Flow.leaveBlock locals (← execBlock? calls globals locals no)) = _
      rw [run]
      exact congrArg some left

theorem Function.run?_single {f : Function Single} {slot : Slot} {argument value : Datum}
    (parameters : f.parameters = [slot])
    (body : execBlock? calls globals [(slot.name, ⟨argument, false⟩)] f.body =
      some (.returned value)) :
    f.run? calls globals [argument] = some value := by
  rw [Function.run?, parameters, if_neg (by simp)]
  show (do match ← execBlock? calls globals [(slot.name, ⟨argument, false⟩)] f.body with
    | .returned value => some value
    | .onward _ => none) = _
  rw [body]
  rfl

end Steps

namespace Locals

theorem assign?_of_lookup {locals : Locals} {name : String} {old : Datum} (value : Datum)
    (bound : locals.lookup name = some ⟨old, true⟩) :
    ∃ after, locals.assign? name value = some after ∧ after.length = locals.length ∧
      after.lookup name = some ⟨value, true⟩ ∧
      ∀ other, other ≠ name → after.lookup other = locals.lookup other := by
  induction locals with
  | nil => cases bound
  | cons first rest ih =>
      obtain ⟨key, entry⟩ := first
      rw [List.lookup_cons] at bound
      by_cases same : name = key
      · subst same
        rw [beq_self_eq_true] at bound
        obtain rfl : entry = ⟨old, true⟩ := Option.some.inj bound
        refine ⟨(name, ⟨value, true⟩) :: rest, by simp [assign?], rfl, List.lookup_cons_self, ?_⟩
        intro other different
        rw [List.lookup_cons, List.lookup_cons, beq_false_of_ne different]
      · rw [beq_false_of_ne same] at bound
        obtain ⟨after, assigned, length, updated, kept⟩ := ih bound
        refine ⟨(key, entry) :: after, ?_, ?_, ?_, ?_⟩
        · rw [assign?, if_neg same, assigned]
          rfl
        · rw [List.length_cons, List.length_cons, length]
        · rw [List.lookup_cons, beq_false_of_ne same, updated]
        · intro other different
          rw [List.lookup_cons, List.lookup_cons, kept other different]

end Locals

end RayScene.Wgsl
