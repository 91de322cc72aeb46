import RayScene.Proofs.Outcome
import RayScene.Shader.Wgsl

namespace RayScene.Wgsl

inductive Value (S : Type) where
  | number (value : S)
  | vector (value : Vec3 S)
  deriving DecidableEq, Repr

inductive Stuck where
  | unbound (name : String)
  | rebound (name : String)
  | badCall (function : String)
  | unsupported
  deriving DecidableEq, Repr

abbrev Env (S : Type) := List (String × Value S)

abbrev Library (S : Type) := String → List (Value S) → Option (Value S)

variable {S : Type} [Scalar S]

def Value.negate : Value S → Except Stuck (Value S)
  | .number x => .ok (.number (-x))
  | .vector _ => .error .unsupported

def Value.minus : Value S → Value S → Except Stuck (Value S)
  | .vector a, .vector b => .ok (.vector (a - b))
  | .number x, .number y => .ok (.number (x - y))
  | _, _ => .error .unsupported

mutual

def Expr.eval (library : Library S) (env : Env S) : Expr S → Except Stuck (Value S)
  | .float value => .ok (.number value)
  | .var name =>
    match env.lookup name with
    | some value => .ok value
    | none => .error (.unbound name)
  | .neg operand => do (← operand.eval library env).negate
  | .binary .sub left right => do
    (← left.eval library env).minus (← right.eval library env)
  | .call function arguments => do
    match library function (← evalAll library env arguments) with
    | some value => .ok value
    | none => .error (.badCall function)
  | _ => .error .unsupported

def evalAll (library : Library S) (env : Env S) : List (Expr S) → Except Stuck (List (Value S))
  | [] => .ok []
  | e :: es => do return (← e.eval library env) :: (← evalAll library env es)

end

def Env.bind (env : Env S) (name : String) (value : Value S) : Except Stuck (Env S) :=
  match env.lookup name with
  | some _ => .error (.rebound name)
  | none => .ok ((name, value) :: env)

def bindAll (library : Library S) : Env S → List (String × Expr S) → Except Stuck (Env S)
  | env, [] => .ok env
  | env, (name, expr) :: links => do
    let value ← expr.eval library env
    bindAll library (← env.bind name value) links

/-- Runs statements up to the one that returns, which has to be the last one. -/
def run (library : Library S) : Env S → List (Stmt S) → Except Stuck (Value S)
  | env, .bind name expr :: rest => do
    let value ← expr.eval library env
    run library (← env.bind name value) rest
  | env, [.ret expr] => expr.eval library env
  | _, _ => .error .unsupported

/-- The names that a function binds, its parameters first. -/
def Function.boundNames (f : Function S) : List String :=
  f.parameters.map (·.name) ++ f.body.filterMap fun
    | .bind name _ => some name
    | _ => none

/-- Runs a function on arguments, one for each parameter. -/
def Function.apply (library : Library S) (f : Function S) (arguments : List (Value S)) :
    Except Stuck (Value S) :=
  if f.parameters.length = arguments.length then
    run library ((f.parameters.map (·.name)).zip arguments) f.body
  else .error (.badCall f.name)

theorem bindAll_append (library : Library S) (env : Env S) (first second : List (String × Expr S)) :
    bindAll library env (first ++ second) =
      bindAll library env first >>= fun env => bindAll library env second := by
  induction first generalizing env with
  | nil => rfl
  | cons link first ih => simp only [List.cons_append, bindAll, ih, bind_assoc]

theorem run_links (library : Library S) (env : Env S) (links : List (String × Expr S))
    (result : Expr S) :
    run library env (links.map (fun (name, value) => .bind name value) ++ [.ret result]) =
      bindAll library env links >>= fun env => result.eval library env := by
  induction links generalizing env with
  | nil => rfl
  | cons link links ih => simp only [List.map_cons, List.cons_append, run, bindAll, ih, bind_assoc]

omit [Scalar S] in
theorem Env.bind_ok {env after : Env S} {name : String} {value : Value S}
    (bound : env.bind name value = .ok after) :
    env.lookup name = none ∧ after = (name, value) :: env := by
  unfold Env.bind at bound
  split at bound
  next => cases bound
  next fresh => exact ⟨fresh, (Except.ok.inj bound).symm⟩

theorem bindAll_cons {library : Library S} {env after : Env S} {link : String × Expr S}
    {links : List (String × Expr S)} (bound : bindAll library env (link :: links) = .ok after) :
    ∃ value, env.lookup link.1 = none ∧
      bindAll library ((link.1, value) :: env) links = .ok after := by
  rw [bindAll] at bound
  obtain ⟨value, _, rest⟩ := Outcome.bind_eq_ok.mp bound
  obtain ⟨next, one, rest⟩ := Outcome.bind_eq_ok.mp rest
  obtain ⟨fresh, rfl⟩ := Env.bind_ok one
  exact ⟨value, fresh, rest⟩

theorem bindAll_nodup {library : Library S} {env after : Env S} {links : List (String × Expr S)}
    (bound : bindAll library env links = .ok after) :
    (links.map (·.1)).Nodup ∧ ∀ name ∈ links.map (·.1), env.lookup name = none := by
  induction links generalizing env with
  | nil => exact ⟨List.nodup_nil, by simp⟩
  | cons link links ih =>
      obtain ⟨value, fresh, rest⟩ := bindAll_cons bound
      obtain ⟨distinct, unbound⟩ := ih rest
      rw [List.map_cons]
      refine ⟨List.nodup_cons.mpr ⟨?_, distinct⟩, ?_⟩
      · intro again
        have twice := unbound _ again
        rw [List.lookup_cons_self] at twice
        cases twice
      · intro name member
        rcases List.mem_cons.mp member with rfl | member
        · exact fresh
        · have missing := unbound name member
          rw [List.lookup_cons] at missing
          split at missing
          · cases missing
          · exact missing

end RayScene.Wgsl
