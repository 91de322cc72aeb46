import RayScene.Geometry.Scalar
import RayScene.Number.Notation

namespace RayScene.Color

inductive Input where
  | point
  | normal
  deriving DecidableEq, Repr, Inhabited

def Input.name : Input → String
  | point => "p"
  | normal => "n"

inductive BinaryOp where
  | add
  | sub
  | mul
  | div
  deriving DecidableEq, Repr, Inhabited

def BinaryOp.symbol : BinaryOp → Char
  | add => '+'
  | sub => '-'
  | mul => '*'
  | div => '/'

inductive Builtin where
  | abs | ceil | clamp | cos | cross | distance | dot | exp | floor | fract | length | max
  | min | mix | normalize | pow | sign | sin | smoothstep | sqrt | step | tan | vec2f | vec3f
  deriving DecidableEq, Repr, Inhabited

inductive Expr (S : Type) where
  | number (value : S)
  | input (source : Input)
  | negate (operand : Expr S)
  | binary (op : BinaryOp) (left right : Expr S)
  | call (function : Builtin) (arguments : List (Expr S))
  | swizzle (base : Expr S) (components : String)
  deriving Repr, Inhabited

inductive Signature where
  | componentwise
  | vectorwise
  | uniform (count : Nat)
  | reduce
  | measure
  | cross
  /-- Two values of one width and a factor of that width or of one component. -/
  | blend
  /-- One number for all components, or arguments that add up to so many components. -/
  | construct (width : Nat)
  deriving DecidableEq, Repr

namespace Builtin

def all : List Builtin :=
  [abs, ceil, clamp, cos, cross, distance, dot, exp, floor, fract, length, max, min, mix,
    normalize, pow, sign, sin, smoothstep, sqrt, step, tan, vec2f, vec3f]

def name : Builtin → String
  | abs => "abs"
  | ceil => "ceil"
  | clamp => "clamp"
  | cos => "cos"
  | cross => "cross"
  | distance => "distance"
  | dot => "dot"
  | exp => "exp"
  | floor => "floor"
  | fract => "fract"
  | length => "length"
  | max => "max"
  | min => "min"
  | mix => "mix"
  | normalize => "normalize"
  | pow => "pow"
  | sign => "sign"
  | sin => "sin"
  | smoothstep => "smoothstep"
  | sqrt => "sqrt"
  | step => "step"
  | tan => "tan"
  | vec2f => "vec2f"
  | vec3f => "vec3f"

def ofName? (name : String) : Option Builtin := all.find? (·.name = name)

def signature : Builtin → Signature
  | abs | ceil | cos | exp | floor | fract | sign | sin | sqrt | tan => .componentwise
  | normalize => .vectorwise
  | clamp | smoothstep => .uniform 3
  | max | min | pow | step => .uniform 2
  | distance | dot => .reduce
  | length => .measure
  | cross => .cross
  | mix => .blend
  | vec2f => .construct 2
  | vec3f => .construct 3

end Builtin

inductive ArgumentError where
  | count (expected found : Nat)
  | mixedWidths (widths : List Nat)
  | needsVector
  | needsVectors
  | needsSpatialVectors
  | factorWidth
  | noComponents (width : Nat)
  | componentCount (found expected : Nat)
  deriving DecidableEq, Repr

def ArgumentError.message : ArgumentError → String
  | count expected found => s!"takes {expected} arguments, got {found}"
  | mixedWidths widths =>
    let list := ", ".intercalate (widths.map toString)
    s!"arguments must have the same width, got [{list}]"
  | needsVector => "expects a vector argument"
  | needsVectors => "expects vector arguments"
  | needsSpatialVectors => "expects two three component vectors"
  | factorWidth => "factor must be a scalar or match the blended values"
  | noComponents width => s!"takes 1 to {width} arguments, got 0"
  | componentCount found expected => s!"arguments add up to {found} components, expected {expected}"

namespace Signature

def resultWidth : Signature → List Nat → Except ArgumentError Nat
  | componentwise, [a] => .ok a
  | componentwise, args => .error (.count 1 args.length)
  | vectorwise, [a] => if a < 2 then .error .needsVector else .ok a
  | vectorwise, args => .error (.count 1 args.length)
  | measure, [a] => if a < 2 then .error .needsVector else .ok 1
  | measure, args => .error (.count 1 args.length)
  | uniform count, args =>
    if args.length ≠ count then .error (.count count args.length)
    else
      match args with
      | [] => .error (.count count 0)
      | a :: rest => if rest.all (· == a) then .ok a else .error (.mixedWidths args)
  | reduce, [a, b] =>
    if a ≠ b then .error (.mixedWidths [a, b])
    else if a < 2 then .error .needsVectors
    else .ok 1
  | reduce, args => .error (.count 2 args.length)
  | cross, [a, b] => if a = 3 ∧ b = 3 then .ok 3 else .error .needsSpatialVectors
  | cross, args => .error (.count 2 args.length)
  | blend, [a, b, factor] =>
    if a ≠ b then .error (.mixedWidths [a, b])
    else if factor ≠ 1 ∧ factor ≠ a then .error .factorWidth
    else .ok a
  | blend, args => .error (.count 3 args.length)
  | construct width, [] => .error (.noComponents width)
  | construct width, args =>
    let total := args.foldl (· + ·) 0
    if args = [1] ∨ total = width then .ok width else .error (.componentCount total width)

end Signature

def letterSets : List (List Char) := [['x', 'y', 'z', 'w'], ['r', 'g', 'b', 'a']]

/-- The width of a swizzle of a value of width `base`, if its letters name components of it. -/
def swizzleWidth? (components : List Char) (base : Nat) : Option Nat :=
  let named := letterSets.any fun letters => components.all fun c => (letters.take base).contains c
  if 1 < base ∧ components ≠ [] ∧ components.length ≤ 4 ∧ named then some components.length
  else none

mutual

/-- Writes an expression with a pair of parentheses around every operator. -/
def Expr.write : Expr Single → String
  | .number value => value.literal
  | .input source => source.name
  | .negate operand => "(-" ++ operand.write ++ ")"
  | .binary op left right => "(" ++ left.write ++ s!" {op.symbol} " ++ right.write ++ ")"
  | .call function args => function.name ++ "(" ++ ", ".intercalate (writeAll args) ++ ")"
  | .swizzle base components => base.write ++ "." ++ components

def writeAll : List (Expr Single) → List String
  | [] => []
  | e :: es => e.write :: writeAll es

end

end RayScene.Color
