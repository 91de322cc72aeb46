import RayScene.Color.Expr
import RayScene.Number.Notation

namespace RayScene.Color

inductive TokenKind where
  | number (value : Single)
  | name (text : String)
  | symbol (sign : Char)
  deriving DecidableEq, Repr

namespace TokenKind

def describe : TokenKind → String
  | number value => s!"number {value.plain}"
  | name text => s!"identifier `{text}`"
  | symbol sign => s!"`{sign}`"

end TokenKind

structure Token where
  kind : TokenKind
  /-- Position of its first character, counted from one. -/
  column : Nat
  deriving DecidableEq, Repr

inductive ExprFault where
  | malformedNumber (text : String)
  | numberOutOfRange (text : String)
  | unexpectedCharacter (c : Char)
  | unexpectedToken (found : TokenKind)
  | unexpectedEnd
  | expectedSymbol (symbol : Char) (found : Option TokenKind)
  | expectedSwizzle (found : Option TokenKind)
  | invalidSwizzle (components : String)
  | nestedTooDeeply
  | operandWidths (op : BinaryOp) (left right : Nat)
  | unknownName (name : String)
  | unknownFunction (name : String)
  | arguments (function : Builtin) (reason : ArgumentError)
  | colorWidth (width : Nat)
  deriving DecidableEq, Repr

namespace ExprFault

def describeFound : Option TokenKind → String
  | some token => token.describe
  | none => "end of expression"

def message : ExprFault → String
  | malformedNumber text => s!"malformed number `{text}`"
  | numberOutOfRange text => s!"number `{text}` is out of range"
  | unexpectedCharacter c => s!"unexpected character `{c}`"
  | unexpectedToken found => "unexpected " ++ found.describe
  | unexpectedEnd => "unexpected end of expression"
  | expectedSymbol symbol found => s!"expected `{symbol}`, found " ++ describeFound found
  | expectedSwizzle found => "expected swizzle, found " ++ describeFound found
  | invalidSwizzle components => s!"invalid swizzle `{components}`"
  | nestedTooDeeply => "expression is nested too deeply"
  | operandWidths op left right =>
    s!"cannot apply `{op.symbol}` to {left} and {right} component values"
  | unknownName name => s!"unknown identifier `{name}` (inputs are `p` and `n`)"
  | unknownFunction name => s!"unknown function `{name}`"
  | arguments function reason => s!"`{function.name}` " ++ reason.message
  | colorWidth width =>
    s!"color must be a scalar or a three component vector, got {width} components"

end ExprFault

structure ExprError where
  column : Nat
  fault : ExprFault
  deriving DecidableEq, Repr

def ExprError.message (e : ExprError) : String := s!"column {e.column}: " ++ e.fault.message

end RayScene.Color
