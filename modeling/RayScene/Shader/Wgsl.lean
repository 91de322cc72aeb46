import RayScene.Geometry.Vec3

/-!
The part of the WebGPU shading language that shaders are written in. Float constants are numbers
of a scalar type, so that a shader can be evaluated over other numbers than those it is printed
with.
-/

namespace RayScene.Wgsl

inductive Ty where
  | f32
  | u32
  | bool
  | vec2f
  | vec3f
  | vec4f
  | vec2u
  | vec2i
  | vec3u
  | struct (name : String)
  | texture
  | floats
  deriving DecidableEq, Repr

inductive BinaryOp where
  | add | sub | mul | div | mod | xor | shiftRight | lt | gt | le | ge | eq | or
  deriving DecidableEq, Repr

inductive Expr (S : Type) where
  | float (value : S)
  /-- A whole number as a float constant, written with all its digits. -/
  | whole (value : Nat)
  | unsigned (value : Nat)
  | signed (value : Nat)
  | bool (value : Bool)
  | var (name : String)
  | member (base : Expr S) (name : String)
  | index (base position : Expr S)
  | neg (operand : Expr S)
  | binary (op : BinaryOp) (left right : Expr S)
  | paren (inner : Expr S)
  | call (function : String) (arguments : List (Expr S))
  | tallCall (function : String) (arguments : List (Expr S))
  deriving Repr, Inhabited

inductive AssignOp where
  | set
  | add
  | mul
  deriving DecidableEq, Repr

inductive Stmt (S : Type) where
  | bind (name : String) (value : Expr S)
  | declare (name : String) (value : Expr S)
  | declareEmpty (name : String) (type : Ty)
  | assign (target : Expr S) (op : AssignOp) (value : Expr S)
  | ret (value : Expr S)
  /-- Returns from a function without a result. -/
  | stop
  | effect (call : Expr S)
  | leave
  | branch (condition : Expr S) (yes no : List (Stmt S))
  /-- Runs a counter from zero up to, but not including, a bound. -/
  | count (counter : String) (bound : Expr S) (body : List (Stmt S))
  /-- Runs the body of the case that a value is equal to, if there is one. -/
  | switch (value : Expr S) (cases : List (Nat × List (Stmt S)))
  deriving Repr, Inhabited

inductive Attribute where
  | vertex
  | fragment
  | compute
  | workgroupSize (size : Nat)
  | location (index : Nat)
  | builtin (name : String)
  | group (index : Nat)
  | binding (index : Nat)
  deriving DecidableEq, Repr

structure Slot where
  name : String
  type : Ty
  attributes : List Attribute
  deriving DecidableEq, Repr

structure Function (S : Type) where
  attributes : List Attribute
  name : String
  parameters : List Slot
  resultAttributes : List Attribute
  result : Option Ty
  body : List (Stmt S)
  deriving Repr

inductive AddressSpace where
  | handle
  | uniform
  | storage
  | private_
  deriving DecidableEq, Repr

inductive Item (S : Type) where
  | comment (text : String)
  | constant (name : String) (type : Ty) (value : Expr S)
  | struct (name : String) (members : List Slot)
  | global (attributes : List Attribute) (space : AddressSpace) (name : String) (type : Ty)
  | function (definition : Function S)
  deriving Repr

structure Module (S : Type) where
  paragraphs : List (List (Item S))
  deriving Repr

def Module.items {S : Type} (m : Module S) : List (Item S) := m.paragraphs.flatten

namespace Expr

variable {S : Type}

instance : Add (Expr S) := ⟨.binary .add⟩
instance : Sub (Expr S) := ⟨.binary .sub⟩
instance : Mul (Expr S) := ⟨.binary .mul⟩
instance : Div (Expr S) := ⟨.binary .div⟩
instance : Mod (Expr S) := ⟨.binary .mod⟩
instance : Neg (Expr S) := ⟨.neg⟩
instance [OfScientific S] : OfScientific (Expr S) :=
  ⟨fun m s e => .float (OfScientific.ofScientific m s e)⟩
instance {n : Nat} : OfNat (Expr S) n := ⟨.unsigned n⟩
instance : Coe String (Expr S) := ⟨.var⟩

def dot (base : Expr S) (name : String) : Expr S := .member base name

def vec3 (v : Vec3 S) : Expr S := .call "vec3f" (v.toList.map .float)

def lt (a b : Expr S) : Expr S := .binary .lt a b

def gt (a b : Expr S) : Expr S := .binary .gt a b

def or (a b : Expr S) : Expr S := .binary .or a b

end Expr

def Function.plain {S : Type} (name : String) (parameters : List (String × Ty)) (result : Option Ty)
    (body : List (Stmt S)) : Function S where
  attributes := []
  name := name
  parameters := parameters.map fun (name, type) => ⟨name, type, []⟩
  resultAttributes := []
  result := result
  body := body

end RayScene.Wgsl
