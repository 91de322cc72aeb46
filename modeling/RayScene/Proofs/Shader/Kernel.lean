import Mathlib.Logic.Function.Basic
import RayScene.Shader.Routine
import RayScene.Volume.Grid

namespace RayScene.Wgsl.Kernel

open Shader

inductive Datum (S : Type) where
  | unsigned (value : UInt32)
  | words (components : List UInt32)
  | flag (value : Bool)
  | number (value : S)
  | numbers (components : List S)
  | record (members : List (String × Datum S))

namespace Datum

variable {S : Type}

def words? : BinaryOp → UInt32 → UInt32 → Option (Datum S)
  | .add, a, b => if a.toNat + b.toNat < UInt32.size then some (unsigned (a + b)) else none
  | .sub, a, b => if b ≤ a then some (unsigned (a - b)) else none
  | .mul, a, b => if a.toNat * b.toNat < UInt32.size then some (unsigned (a * b)) else none
  | .div, a, b => if b = 0 then none else some (unsigned (a / b))
  | .mod, a, b => if b = 0 then none else some (unsigned (a % b))
  | .lt, a, b => some (flag (decide (a < b)))
  | .gt, a, b => some (flag (decide (b < a)))
  | .le, a, b => some (flag (decide (a ≤ b)))
  | .ge, a, b => some (flag (decide (b ≤ a)))
  | .eq, a, b => some (flag (decide (a = b)))
  | _, _, _ => none

def scalars? [Scalar S] : BinaryOp → Option (S → S → S)
  | .add => some (· + ·)
  | .sub => some (· - ·)
  | .mul => some (· * ·)
  | .div => some (· / ·)
  | _ => none

def binary? [Scalar S] (op : BinaryOp) : Datum S → Datum S → Option (Datum S)
  | unsigned a, unsigned b => words? op a b
  | number x, number y => (scalars? op).map fun f => number (f x y)
  | numbers xs, number y => (scalars? op).map fun f => numbers (xs.map (f · y))
  | number x, numbers ys => (scalars? op).map fun f => numbers (ys.map (f x))
  | numbers xs, numbers ys =>
    if xs.length = ys.length then (scalars? op).map fun f => numbers (xs.zipWith f ys) else none
  | _, _ => none

def components? {T : Type} (all : List T) (letters : String) : Option (List T) :=
  letters.toList.mapM fun axis => all[['x', 'y', 'z', 'w'].idxOf axis]?

def member? : Datum S → String → Option (Datum S)
  | record members, name => members.lookup name
  | words all, letters => do
    match ← components? all letters with
    | [n] => return unsigned n
    | chosen => return words chosen
  | numbers all, letters => do
    match ← components? all letters with
    | [x] => return number x
    | chosen => return numbers chosen
  | _, _ => none

end Datum

abbrev Locals (S : Type) := String → Option (Datum S)

abbrev Calls (S : Type) := String → List (Datum S) → Option (Datum S)

structure Write (S : Type) where
  buffer : String
  slot : Nat
  value : S
  deriving DecidableEq, Repr

inductive Flow (S : Type) where
  | onward (locals : Locals S)
  | stopped

def Flow.leaveBlock {S : Type} (outer : Locals S) : Flow S → Flow S
  | onward _ => .onward outer
  | stopped => .stopped

variable {S : Type} [Scalar S]

section Run

variable (calls : Calls S) (globals : Locals S)

mutual

def eval? (locals : Locals S) : Expr S → Option (Datum S)
  | .float value => some (.number value)
  | .unsigned value => some (.unsigned (UInt32.ofNat value))
  | .bool value => some (.flag value)
  | .var name => (locals name).or (globals name)
  | .member base name => do (← eval? locals base).member? name
  | .binary op left right => do Datum.binary? op (← eval? locals left) (← eval? locals right)
  | .paren inner => eval? locals inner
  | .call function arguments => do calls function (← evalAll? locals arguments)
  | _ => none

def evalAll? (locals : Locals S) : List (Expr S) → Option (List (Datum S))
  | [] => some []
  | e :: es => do return (← eval? locals e) :: (← evalAll? locals es)

end

mutual

def exec? (locals : Locals S) : Stmt S → Option (Flow S × List (Write S))
  | .bind name value => do
    match locals name, ← eval? calls globals locals value with
    | some _, _ => none
    | none, datum => return (.onward (Function.update locals name (some datum)), [])
  | .assign (.index (.var buffer) position) .set value => do
    match ← eval? calls globals locals position, ← eval? calls globals locals value with
    | .unsigned slot, .number x => return (.onward locals, [⟨buffer, slot.toNat, x⟩])
    | _, _ => none
  | .stop => some (.stopped, [])
  | .branch condition yes no => do
    let (flow, writes) ← match ← eval? calls globals locals condition with
      | .flag true => execBlock? locals yes
      | .flag false => execBlock? locals no
      | _ => none
    return (flow.leaveBlock locals, writes)
  | _ => none

def execBlock? (locals : Locals S) : List (Stmt S) → Option (Flow S × List (Write S))
  | [] => some (.onward locals, [])
  | s :: rest => do
    match ← exec? locals s with
    | (.stopped, writes) => return (.stopped, writes)
    | (.onward after, writes) =>
      let (flow, others) ← execBlock? after rest
      return (flow, writes ++ others)

end

def builtin? (thread : UInt32) : Attribute → Option (Datum S)
  | .builtin name => if name = "global_invocation_id" then some (.words [thread, 0, 0]) else none
  | _ => none

def parameters (f : Function S) (thread : UInt32) : Locals S := fun name => do
  let slot ← f.parameters.find? (·.name = name)
  slot.attributes.findSome? (builtin? thread)

def invoke? (f : Function S) (thread : Nat) : Option (List (Write S)) := do
  if thread < UInt32.size then
    return (← execBlock? calls globals (parameters f (UInt32.ofNat thread)) f.body).2
  else none

def groupSize? : Attribute → Option Nat
  | .workgroupSize size => some size
  | _ => none

def dispatch? (f : Function S) (groups : UInt32) : Option (List (Write S)) := do
  let size ← f.attributes.findSome? groupSize?
  return (← (List.range (size * groups.toNat)).mapM (invoke? calls globals f)).flatten

end Run

section Steps

variable {calls : Calls S} {globals locals : Locals S}

theorem eval?_binary (op : BinaryOp) {left right : Expr S} {a b : Datum S}
    (first : eval? calls globals locals left = some a)
    (second : eval? calls globals locals right = some b) :
    eval? calls globals locals (.binary op left right) = Datum.binary? op a b := by
  rw [eval?, first, second]
  rfl

theorem execBlock?_bind {name : String} {e : Expr S} (rest : List (Stmt S)) (datum : Datum S)
    (evaluated : eval? calls globals locals e = some datum) (fresh : locals name = none) :
    execBlock? calls globals locals (.bind name e :: rest) =
      execBlock? calls globals (Function.update locals name (some datum)) rest := by
  rw [execBlock?, exec?, evaluated, fresh]
  show (do
    let (flow, others) ← execBlock? calls globals (Function.update locals name (some datum)) rest
    return (flow, [] ++ others)) = _
  cases execBlock? calls globals (Function.update locals name (some datum)) rest <;> rfl

theorem execBlock?_write {buffer : String} {position e : Expr S} (slot : UInt32) (x : S)
    (place : eval? calls globals locals position = some (.unsigned slot))
    (evaluated : eval? calls globals locals e = some (.number x)) :
    execBlock? calls globals locals [.assign (.index (.var buffer) position) .set e] =
      some (.onward locals, [⟨buffer, slot.toNat, x⟩]) := by
  rw [execBlock?, exec?, place, evaluated]
  rfl

variable {condition : Expr S} {yes : List (Stmt S)} (rest : List (Stmt S))

theorem execBlock?_skip (tested : eval? calls globals locals condition = some (.flag false)) :
    execBlock? calls globals locals (.branch condition yes [] :: rest) =
      execBlock? calls globals locals rest := by
  rw [execBlock?, exec?, tested]
  show (do
    let (flow, others) ← execBlock? calls globals locals rest
    return (flow, [] ++ others)) = _
  cases execBlock? calls globals locals rest <;> rfl

theorem execBlock?_stop (tested : eval? calls globals locals condition = some (.flag true)) :
    execBlock? calls globals locals (.branch condition [.stop] [] :: rest) =
      some (.stopped, []) := by
  rw [execBlock?, exec?, tested]
  rfl

omit rest in
theorem invoke?_of_block {f : Function S} {thread : Nat} {flow : Flow S} {writes : List (Write S)}
    (fits : thread < UInt32.size)
    (block : execBlock? calls globals (parameters f (UInt32.ofNat thread)) f.body =
      some (flow, writes)) : invoke? calls globals f thread = some writes := by
  rw [invoke?, if_pos fits, block]
  rfl

omit rest in
theorem mapM_some {T V : Type} {f : T → Option V} {g : T → V} {list : List T}
    (each : ∀ a ∈ list, f a = some (g a)) : list.mapM f = some (list.map g) := by
  induction list with
  | nil => rfl
  | cons a list ih =>
      rw [List.mapM_cons, each a List.mem_cons_self, ih fun b member => each b (.tail _ member)]
      rfl

omit rest in
theorem dispatch?_of_threads {f : Function S} {groups : UInt32} {size : Nat}
    (writes : Nat → List (Write S)) (sized : f.attributes.findSome? groupSize? = some size)
    (each : ∀ thread < size * groups.toNat, invoke? calls globals f thread = some (writes thread)) :
    dispatch? calls globals f groups =
      some ((List.range (size * groups.toNat)).flatMap writes) := by
  have threads := mapM_some fun thread member => each thread (List.mem_range.mp member)
  rw [dispatch?, sized]
  show (do return (← (List.range (size * groups.toNat)).mapM (invoke? calls globals f)).flatten) = _
  rw [threads]
  rfl

end Steps

section Words

variable {m n : Nat}

def word (n : Nat) : Datum S := .unsigned (UInt32.ofNat n)

theorem add_word (fits : m + n < UInt32.size) :
    Datum.binary? .add (word m) (word n) = some (word (m + n) : Datum S) := by
  have sum : (UInt32.ofNat m).toNat + (UInt32.ofNat n).toNat = m + n := by
    rw [UInt32.toNat_ofNat_of_lt' (by omega), UInt32.toNat_ofNat_of_lt' (by omega)]
  show (if (UInt32.ofNat m).toNat + (UInt32.ofNat n).toNat < UInt32.size then
    some (Datum.unsigned (UInt32.ofNat m + UInt32.ofNat n)) else none) = _
  rw [sum, if_pos fits, word, UInt32.ofNat_add]

theorem ge_word (left : m < UInt32.size) (right : n < UInt32.size) :
    Datum.binary? .ge (word m) (word n) = some (Datum.flag (decide (n ≤ m)) : Datum S) := by
  have same : UInt32.ofNat n ≤ UInt32.ofNat m ↔ n ≤ m := by
    rw [UInt32.le_iff_toNat_le, UInt32.toNat_ofNat_of_lt' left, UInt32.toNat_ofNat_of_lt' right]
  exact congrArg (fun test => some (Datum.flag test)) (decide_eq_decide.mpr same)

theorem mul_word (left : m < UInt32.size) (right : n < UInt32.size)
    (fits : m * n < UInt32.size) :
    Datum.binary? .mul (word m) (word n) = some (word (m * n) : Datum S) := by
  have product : (UInt32.ofNat m).toNat * (UInt32.ofNat n).toNat = m * n := by
    rw [UInt32.toNat_ofNat_of_lt' left, UInt32.toNat_ofNat_of_lt' right]
  show (if (UInt32.ofNat m).toNat * (UInt32.ofNat n).toNat < UInt32.size then
    some (Datum.unsigned (UInt32.ofNat m * UInt32.ofNat n)) else none) = _
  rw [product, if_pos fits, word, UInt32.ofNat_mul]

variable (left : m < UInt32.size) (right : n < UInt32.size) (positive : 0 < n)

include right positive in
theorem word_ne_zero : UInt32.ofNat n ≠ 0 := by
  intro zero
  have counted := congrArg UInt32.toNat zero
  rw [UInt32.toNat_ofNat_of_lt' right] at counted
  exact absurd counted (Nat.ne_of_gt positive)

include left right positive

theorem div_word : Datum.binary? .div (word m) (word n) = some (word (m / n) : Datum S) := by
  show (if UInt32.ofNat n = 0 then none else
    some (Datum.unsigned (UInt32.ofNat m / UInt32.ofNat n))) = _
  rw [if_neg (word_ne_zero right positive), word, UInt32.ofNat_div left right]

theorem mod_word : Datum.binary? .mod (word m) (word n) = some (word (m % n) : Datum S) := by
  show (if UInt32.ofNat n = 0 then none else
    some (Datum.unsigned (UInt32.ofNat m % UInt32.ofNat n))) = _
  rw [if_neg (word_ne_zero right positive), word, UInt32.ofNat_mod left right]

end Words

end RayScene.Wgsl.Kernel
