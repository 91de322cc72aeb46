import RayScene.Color.Parser

/-!
The grammar of color expressions as derivations, apart from any way of parsing. Every derivation
carries its tree and its depth, which is the greatest number of minus signs, parentheses and calls
around a token. Widths are a property of the tree alone.
-/

namespace RayScene.Color

mutual

/-- The number of components of an expression, if its parts fit together. -/
def Expr.width? {S : Type} : Expr S → Option Nat
  | .number _ => some 1
  | .input _ => some 3
  | .negate operand => operand.width?
  | .binary _ left right => do commonWidth? (← left.width?) (← right.width?)
  | .call function arguments => do (function.signature.resultWidth (← widths? arguments)).toOption
  | .swizzle base components => do swizzleWidth? components.toList (← base.width?)

def widths? {S : Type} : List (Expr S) → Option (List Nat)
  | [] => some []
  | e :: es => do return (← e.width?) :: (← widths? es)

end

theorem commonWidth?_eq_some_iff (a b width : Nat) :
    commonWidth? a b = some width ↔
      a = b ∧ width = a ∨ a = 1 ∧ width = b ∨ b = 1 ∧ width = a := by
  unfold commonWidth?
  split
  · simp_all; omega
  · split
    · simp_all; omega
    · split <;> simp_all; omega

inductive Phrase where
  | sum (root : Expr Single)
  | product (root : Expr Single)
  | signed (root : Expr Single)
  | operand (root : Expr Single)
  | primary (root : Expr Single)
  | arguments (roots : List (Expr Single))

/-- Tokens are a phrase with so many levels of nesting. -/
inductive Derives : Phrase → Nat → List TokenKind → Prop where
  | product {root : Expr Single} {depth : Nat} {tokens : List TokenKind} :
      Derives (.product root) depth tokens → Derives (.sum root) depth tokens
  | sum {op : BinaryOp} {left right : Expr Single} {m n : Nat} {front back : List TokenKind} :
      op ∈ [BinaryOp.add, .sub] → Derives (.sum left) m front → Derives (.product right) n back →
      Derives (.sum (.binary op left right)) (max m n) (front ++ .symbol op.symbol :: back)
  | signed {root : Expr Single} {depth : Nat} {tokens : List TokenKind} :
      Derives (.signed root) depth tokens → Derives (.product root) depth tokens
  | times {op : BinaryOp} {left right : Expr Single} {m n : Nat} {front back : List TokenKind} :
      op ∈ [BinaryOp.mul, .div] → Derives (.product left) m front →
      Derives (.signed right) n back →
      Derives (.product (.binary op left right)) (max m n) (front ++ .symbol op.symbol :: back)
  | negate {root : Expr Single} {depth : Nat} {tokens : List TokenKind} :
      Derives (.signed root) depth tokens →
      Derives (.signed (.negate root)) (depth + 1) (.symbol '-' :: tokens)
  | operand {root : Expr Single} {depth : Nat} {tokens : List TokenKind} :
      Derives (.operand root) depth tokens → Derives (.signed root) depth tokens
  | swizzle {root : Expr Single} {depth : Nat} {tokens : List TokenKind} (components : String) :
      Derives (.operand root) depth tokens →
      Derives (.operand (.swizzle root components)) depth
        (tokens ++ [.symbol '.', .name components])
  | primary {root : Expr Single} {depth : Nat} {tokens : List TokenKind} :
      Derives (.primary root) depth tokens → Derives (.operand root) depth tokens
  | number (value : Single) : Derives (.primary (.number value)) 0 [.number value]
  | input (source : Input) : Derives (.primary (.input source)) 0 [.name source.name]
  | call (function : Builtin) {roots : List (Expr Single)} {depth : Nat}
      {tokens : List TokenKind} :
      Derives (.arguments roots) depth tokens →
      Derives (.primary (.call function roots)) (depth + 1)
        (.name function.name :: .symbol '(' :: (tokens ++ [.symbol ')']))
  | parentheses {root : Expr Single} {depth : Nat} {tokens : List TokenKind} :
      Derives (.sum root) depth tokens →
      Derives (.primary root) (depth + 1) (.symbol '(' :: (tokens ++ [.symbol ')']))
  | argument {root : Expr Single} {depth : Nat} {tokens : List TokenKind} :
      Derives (.sum root) depth tokens → Derives (.arguments [root]) depth tokens
  | more {root : Expr Single} {roots : List (Expr Single)} {m n : Nat}
      {front back : List TokenKind} :
      Derives (.sum root) m front → Derives (.arguments roots) n back →
      Derives (.arguments (root :: roots)) (max m n) (front ++ .symbol ',' :: back)

end RayScene.Color
