import RayScene.Color.Token

/-!
The grammar of color expressions.

    sum     := product (('+' | '-') product)*
    product := signed (('*' | '/') signed)*
    signed  := '-' signed | operand
    operand := primary ('.' swizzle)*
    primary := number | input | builtin '(' sum (',' sum)* ')' | '(' sum ')'

Every part carries its width, and widths are checked as soon as a part is complete. A nesting
budget, which each minus sign, parenthesis and call spends one unit of, bounds the recursion.
-/

namespace RayScene.Color

/-- An expression with its width, and the tokens behind it. -/
structure Parsed where
  expr : Expr Single
  width : Nat
  rest : List Token
  deriving Repr

abbrev Parser := List Token → Except ExprError Parsed

/-- How many minus signs, parentheses and calls may stand around a token. -/
def maxNesting : Nat := 64

/-- Fails at the first token, or behind the text if there is none. -/
def failAt {α : Type} (textEnd : Nat) (tokens : List Token) (fault : Option TokenKind → ExprFault) :
    Except ExprError α :=
  match tokens with
  | token :: _ => .error ⟨token.column, fault (some token.kind)⟩
  | [] => .error ⟨textEnd, fault none⟩

def expectSymbol (textEnd : Nat) (symbol : Char) : List Token → Except ExprError (List Token)
  | tokens@(token :: rest) =>
    if token.kind = .symbol symbol then .ok rest
    else failAt textEnd tokens (.expectedSymbol symbol)
  | [] => failAt textEnd [] (.expectedSymbol symbol)

/-- A number combines with any width, other values with their own width only. -/
def commonWidth? (a b : Nat) : Option Nat :=
  if a = b then some a else if a = 1 then some b else if b = 1 then some a else none

def operator? (ops : List BinaryOp) (kind : TokenKind) : Option BinaryOp :=
  ops.find? fun op => kind = .symbol op.symbol

def chainFrom (ops : List BinaryOp) (operand : Parser) : Nat → Parsed → Except ExprError Parsed
  | 0, left => .ok left
  | count + 1, left =>
    match left.rest with
    | [] => .ok left
    | token :: rest =>
      match operator? ops token.kind with
      | none => .ok left
      | some op => do
        let right ← operand rest
        match commonWidth? left.width right.width with
        | none => throw ⟨token.column, .operandWidths op left.width right.width⟩
        | some width =>
          chainFrom ops operand count ⟨.binary op left.expr right.expr, width, right.rest⟩

def chain (ops : List BinaryOp) (operand : Parser) : Parser := fun tokens => do
  chainFrom ops operand tokens.length (← operand tokens)

def product (signed : Parser) : Parser := chain [.mul, .div] signed

def sum (signed : Parser) : Parser := chain [.add, .sub] (product signed)

def swizzles (textEnd : Nat) (base : Expr Single) (width : Nat) :
    List Token → Except ExprError Parsed
  | ⟨.symbol '.', _⟩ :: ⟨.name components, column⟩ :: rest =>
    match swizzleWidth? components.toList width with
    | some width => swizzles textEnd (.swizzle base components) width rest
    | none => .error ⟨column, .invalidSwizzle components⟩
  | ⟨.symbol '.', _⟩ :: rest => failAt textEnd rest .expectedSwizzle
  | rest => .ok ⟨base, width, rest⟩

def argumentsFrom (argument : Parser) : Nat → List Token →
    Except ExprError (List (Expr Single) × List Nat × List Token)
  | 0, tokens => .ok ([], [], tokens)
  | count + 1, tokens => do
    let first ← argument tokens
    match first.rest with
    | ⟨.symbol ',', _⟩ :: rest => do
      let (exprs, widths, rest) ← argumentsFrom argument count rest
      return (first.expr :: exprs, first.width :: widths, rest)
    | rest => return ([first.expr], [first.width], rest)

def call (textEnd : Nat) (argument : Parser) (name : String) (column : Nat) : Parser :=
  fun tokens => do
    let some function := Builtin.ofName? name | throw ⟨column, .unknownFunction name⟩
    let (exprs, widths, rest) ← match tokens with
      | ⟨.symbol ')', _⟩ :: _ => pure ([], [], tokens)
      -- one more than there are tokens: where there are none, the first argument is missing
      | _ => argumentsFrom argument (tokens.length + 1) tokens
    let rest ← expectSymbol textEnd ')' rest
    match function.signature.resultWidth widths with
    | .ok width => return ⟨.call function exprs, width, rest⟩
    | .error reason => throw ⟨column, .arguments function reason⟩

def enter (nested : Option Parser) (column : Nat) : Except ExprError Parser :=
  match nested with
  | some parser => .ok parser
  | none => .error ⟨column, .nestedTooDeeply⟩

def primary (textEnd : Nat) (nested : Option Parser) : Parser
  | ⟨.number value, _⟩ :: rest => .ok ⟨.number value, 1, rest⟩
  | ⟨.symbol '(', column⟩ :: rest => do
    let signed ← enter nested column
    let inner ← sum signed rest
    return { inner with rest := ← expectSymbol textEnd ')' inner.rest }
  | ⟨.name name, column⟩ :: ⟨.symbol '(', _⟩ :: rest => do
    let signed ← enter nested column
    call textEnd (sum signed) name column rest
  | ⟨.name "p", _⟩ :: rest => .ok ⟨.input .point, 3, rest⟩
  | ⟨.name "n", _⟩ :: rest => .ok ⟨.input .normal, 3, rest⟩
  | ⟨.name name, column⟩ :: _ => .error ⟨column, .unknownName name⟩
  | ⟨kind, column⟩ :: _ => .error ⟨column, .unexpectedToken kind⟩
  | [] => .error ⟨textEnd, .unexpectedEnd⟩

def signedStep (textEnd : Nat) (nested : Option Parser) : Parser
  | ⟨.symbol '-', column⟩ :: rest => do
    let signed ← enter nested column
    let inner ← signed rest
    return { inner with expr := .negate inner.expr }
  | tokens => do
    let base ← primary textEnd nested tokens
    swizzles textEnd base.expr base.width base.rest

/-- A signed value with so much nesting left. -/
def signed (textEnd : Nat) : Nat → Parser
  | 0 => signedStep textEnd none
  | budget + 1 => signedStep textEnd (some (signed textEnd budget))

def parseTokens (textEnd : Nat) (tokens : List Token) : Except ExprError (Expr Single) := do
  let parsed ← sum (signed textEnd maxNesting) tokens
  match parsed.rest with
  | token :: _ => throw ⟨token.column, .unexpectedToken token.kind⟩
  | [] =>
    if parsed.width = 1 ∨ parsed.width = 3 then return parsed.expr
    else throw ⟨1, .colorWidth parsed.width⟩

/-- Parses a text of one or three components per point. -/
def parse (text : String) : Except ExprError (Expr Single) := do
  parseTokens (text.length + 1) (← tokenize text.toList)

end RayScene.Color
