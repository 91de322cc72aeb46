import RayScene.Geometry.Sdf
import RayScene.Shader.Wgsl

namespace RayScene.Shader

open Wgsl

variable {S : Type}

structure FieldChain (S : Type) where
  links : List (String × Expr S)
  result : String
  count : Nat
  deriving Repr

namespace FieldChain

/-- A new constant behind `count` others; the letter tells points from distances. -/
def single (letter : Char) (value : Expr S) (count : Nat) : FieldChain S :=
  let name := s!"{letter}{count + 1}"
  ⟨[(name, value)], name, count + 1⟩

def andThen (chain : FieldChain S) (next : String → Nat → FieldChain S) : FieldChain S :=
  let rest := next chain.result chain.count
  ⟨chain.links ++ rest.links, rest.result, rest.count⟩

def startPoint : String := "p0"

def call (function : String) (arguments : List (Expr S)) : Expr S := .call function arguments

def Joint (S : Type) := String → String → Expr S

def lesser : Joint S := fun a b => call "min" [.var a, .var b]

def greater : Joint S := fun a b => call "max" [.var a, .var b]

def blended (k : S) : Joint S := fun a b => call "smooth_union" [.var a, .var b, .float k]

def carved : Joint S := fun a b => call "max" [.var a, .neg (.var b)]

variable [Scalar S]

def primitiveCall (kind : Primitive) (position dimensions : Vec3 S) (point : String) : Expr S :=
  let placed : Expr S := if position.isZero then .var point else .var point - .vec3 position
  call ("sdf_" ++ kind.name) [placed, .vec3 dimensions]

mutual

def ofTree : Sdf S → String → Nat → FieldChain S
  | .primitive kind position dimensions, point, count =>
    single 'd' (primitiveCall kind position dimensions point) count
  | .union children, point, count => ofTrees lesser none children point count
  | .intersection children, point, count => ofTrees greater none children point count
  | .smoothUnion k children, point, count =>
    ofTrees (if Scalar.zero < k then blended k else lesser) none children point count
  | .subtraction base cut, point, count =>
    (ofTree base point count).andThen fun base count =>
      (ofTree cut point count).andThen fun cut count => single 'd' (carved base cut) count
  | .translate offset child, point, count =>
    (single 'p' (.var point - .vec3 offset) count).andThen fun point count =>
      ofTree child point count
  | .rotate angles child, point, count =>
    (single 'p' (call "inverse_rotate" [.var point, .vec3 angles]) count).andThen
      fun point count => ofTree child point count
  | .repeated period child, point, count =>
    (single 'p' (call "repeat_domain" [.var point, .vec3 period]) count).andThen
      fun point count => ofTree child point count

def ofTrees (joint : Joint S) : Option String → List (Sdf S) → String → Nat → FieldChain S
  | none, [], _, count => single 'd' (.var "MAX_DISTANCE") count
  | some sum, [], _, count => ⟨[], sum, count⟩
  | none, child :: children, point, count =>
    (ofTree child point count).andThen fun d count =>
      ofTrees joint (some d) children point count
  | some sum, child :: children, point, count =>
    (ofTree child point count).andThen fun d count =>
      (single 'd' (joint sum d) count).andThen fun sum count =>
        ofTrees joint (some sum) children point count

end

def functionName (id : UInt32) : String := s!"sdf_object_{id}"

/-- The function of an object's field. -/
def function (id : UInt32) (tree : Sdf S) : Function S :=
  let chain := ofTree tree startPoint 0
  .plain (functionName id) [(startPoint, .vec3f)] (some .f32)
    (chain.links.map (fun (name, value) => .bind name value) ++ [.ret (.var chain.result)])

end FieldChain
end RayScene.Shader
