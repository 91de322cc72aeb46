import Mathlib.Logic.Function.Iterate
import RayScene.Color.Parser

/-!
The parser as a machine that keeps its own stack of calls. It has a position among the tokens and a
counter of nesting, which its routines increment and decrement themselves; for every call that waits
for another one it keeps what the call does next. A step is one decision of one routine.
-/

namespace RayScene.Color.Calls

/-- The routines that call each other. -/
inductive Routine where
  | sum
  | product
  | signed
  | operand
  | primary
  | call
  deriving DecidableEq, Repr

structure Place where
  position : Nat
  depth : Nat
  deriving DecidableEq, Repr

namespace Place

def skip (p : Place) (count : Nat) : Place := { p with position := p.position + count }

def enter (p : Place) : Place := { p with depth := p.depth + 1 }

def leave (p : Place) : Place := { p with depth := p.depth - 1 }

end Place

abbrev Typed := Expr Single × Nat

inductive Precedence where
  | sum
  | product
  deriving DecidableEq, Repr

inductive Task where
  /-- Reads a first operand. -/
  | chain (level : Precedence)
  | operators (level : Precedence) (left : Typed)
  | signed
  | operand
  | swizzles (base : Typed)
  | primary
  | call (name : String) (column : Nat)
  | arguments (function : Builtin) (column : Nat) (read : List Typed)
  | closing (function : Builtin) (column : Nat) (read : List Typed)

inductive Wait where
  | first (level : Precedence)
  | right (level : Precedence) (left : Typed) (op : BinaryOp) (column : Nat)
  | negate
  | pass
  | base
  | group
  | enclosed
  | argument (function : Builtin) (column : Nat) (read : List Typed)

namespace Precedence

def routine : Precedence → Routine
  | sum => .sum
  | product => .product

def ops : Precedence → List BinaryOp
  | sum => [.add, .sub]
  | product => [.mul, .div]

def operand : Precedence → Task
  | sum => .chain .product
  | product => .signed

end Precedence

inductive Move where
  | call (callee : Task) (wait : Wait)
  /-- Begins an iteration of its loop, or what follows the last one. -/
  | again (task : Task)
  | finish (outcome : Except ExprError Typed)

section Routines

variable (textEnd : Nat) (tokens : List Token)

def nest (column : Nat) (callee : Task) (wait : Wait) (p : Place) : Move × Place :=
  if maxNesting < p.enter.depth then (.finish (.error ⟨column, .nestedTooDeeply⟩), p.enter)
  else (.call callee wait, p.enter)

def expect (symbol : Char) (p : Place) (behind : Place → Move × Place) : Move × Place :=
  match tokens[p.position]? with
  | some token =>
    if token.kind = .symbol symbol then behind (p.skip 1)
    else (.finish (.error ⟨token.column, .expectedSymbol symbol (some token.kind)⟩), p.skip 1)
  | none => (.finish (.error ⟨textEnd, .expectedSymbol symbol none⟩), p)

def applied (function : Builtin) (column : Nat) (read : List Typed) : Except ExprError Typed :=
  match function.signature.resultWidth (read.map (·.2)) with
  | .ok width => .ok (.call function (read.map (·.1)), width)
  | .error reason => .error ⟨column, .arguments function reason⟩

def seekOperator (level : Precedence) (left : Typed) (p : Place) : Move × Place :=
  match tokens[p.position]? with
  | some token =>
    match operator? level.ops token.kind with
    | some op => (.call level.operand (.right level left op token.column), p.skip 1)
    | none => (.finish (.ok left), p)
  | none => (.finish (.ok left), p)

def combine (level : Precedence) (left : Typed) (op : BinaryOp) (column : Nat) (right : Typed)
    (p : Place) : Move × Place :=
  match commonWidth? left.2 right.2 with
  | some width => (.again (.operators level (.binary op left.1 right.1, width)), p)
  | none => (.finish (.error ⟨column, .operandWidths op left.2 right.2⟩), p)

def seekSign (p : Place) : Move × Place :=
  match tokens[p.position]? with
  | some ⟨.symbol '-', column⟩ => nest column .signed .negate (p.skip 1)
  | _ => (.call .operand .pass, p)

def seekSwizzle (base : Typed) (p : Place) : Move × Place :=
  match tokens[p.position]? with
  | some ⟨.symbol '.', _⟩ =>
    match tokens[p.position + 1]? with
    | some ⟨.name components, column⟩ =>
      match swizzleWidth? components.toList base.2 with
      | some width => (.again (.swizzles (.swizzle base.1 components, width)), p.skip 2)
      | none => (.finish (.error ⟨column, .invalidSwizzle components⟩), p.skip 2)
    | some token => (.finish (.error ⟨token.column, .expectedSwizzle (some token.kind)⟩), p.skip 2)
    | none => (.finish (.error ⟨textEnd, .expectedSwizzle none⟩), p.skip 1)
  | _ => (.finish (.ok base), p)

def input (name : String) (column : Nat) : Except ExprError Typed :=
  match name with
  | "p" => .ok (.input .point, 3)
  | "n" => .ok (.input .normal, 3)
  | _ => .error ⟨column, .unknownName name⟩

def takePrimary (p : Place) : Move × Place :=
  match tokens[p.position]? with
  | some ⟨.number value, _⟩ => (.finish (.ok (.number value, 1)), p.skip 1)
  | some ⟨.symbol '(', column⟩ => nest column (.chain .sum) .group (p.skip 1)
  | some ⟨.name name, column⟩ =>
    match tokens[p.position + 1]? with
    | some ⟨.symbol '(', _⟩ => nest column (.call name column) .enclosed (p.skip 2)
    | _ => (.finish (input name column), p.skip 1)
  | some ⟨kind, column⟩ => (.finish (.error ⟨column, .unexpectedToken kind⟩), p.skip 1)
  | none => (.finish (.error ⟨textEnd, .unexpectedEnd⟩), p)

def openCall (name : String) (column : Nat) (p : Place) : Move × Place :=
  match Builtin.ofName? name with
  | none => (.finish (.error ⟨column, .unknownFunction name⟩), p)
  | some function =>
    match tokens[p.position]? with
    | some ⟨.symbol ')', _⟩ => (.again (.closing function column []), p)
    | _ => (.again (.arguments function column []), p)

def seekArgument (function : Builtin) (column : Nat) (read : List Typed) (p : Place) :
    Move × Place :=
  match tokens[p.position]? with
  | some ⟨.symbol ',', _⟩ => (.again (.arguments function column read), p.skip 1)
  | _ => (.again (.closing function column read), p)

def act : Task → Place → Move × Place
  | .chain level, p => (.call level.operand (.first level), p)
  | .operators level left, p => seekOperator tokens level left p
  | .signed, p => seekSign tokens p
  | .operand, p => (.call .primary .base, p)
  | .swizzles base, p => seekSwizzle textEnd tokens base p
  | .primary, p => takePrimary textEnd tokens p
  | .call name column, p => openCall tokens name column p
  | .arguments function column read, p =>
    (.call (.chain .sum) (.argument function column read), p)
  | .closing function column read, p =>
    expect textEnd tokens ')' p fun p => (.finish (applied function column read), p)

def resume : Wait → Typed → Place → Move × Place
  | .first level, value, p => (.again (.operators level value), p)
  | .right level left op column, value, p => combine level left op column value p
  | .negate, value, p => (.finish (.ok (.negate value.1, value.2)), p.leave)
  | .pass, value, p => (.finish (.ok value), p)
  | .base, value, p => (.again (.swizzles value), p)
  | .group, value, p => expect textEnd tokens ')' p fun p => (.finish (.ok value), p.leave)
  | .enclosed, value, p => (.finish (.ok value), p.leave)
  | .argument function column read, value, p =>
    seekArgument tokens function column (read ++ [value]) p

end Routines

namespace Task

def routine : Task → Routine
  | chain level | operators level _ => level.routine
  | signed => .signed
  | operand | swizzles _ => .operand
  | primary => .primary
  | call .. | arguments .. | closing .. => .call

end Task

structure Call where
  routine : Routine
  /-- Where the parser stood when it was called. -/
  start : Place
  /-- The positions at which its loop has begun an iteration or ended, the latest one first. -/
  marks : List Nat

/-- The machine between two steps: the call whose turn it is stands on top of those that wait. -/
inductive Config where
  | active (task : Task) (call : Call) (place : Place) (below : List (Wait × Call))
  | leaving (outcome : Except ExprError Typed) (call : Call) (place : Place)
    (below : List (Wait × Call))
  | done (outcome : Except ExprError Typed) (place : Place)

namespace Config

def place : Config → Place
  | active _ _ place _ | leaving _ _ place _ | done _ place => place

/-- The calls that have not returned, the latest one first. -/
def calls : Config → List Call
  | active _ call _ below | leaving _ call _ below => call :: below.map (·.2)
  | done .. => []

def routines (c : Config) : List Routine := c.calls.map (·.routine)

def proceed (call : Call) (below : List (Wait × Call)) : Move × Place → Config
  | (.call callee wait, p) => active callee ⟨callee.routine, p, []⟩ p ((wait, call) :: below)
  | (.again task, p) => active task { call with marks := p.position :: call.marks } p below
  | (.finish outcome, p) => leaving outcome call p below

/-- One step. A failure passes through all calls, and a parse that is done stays as it is. -/
def step (textEnd : Nat) (tokens : List Token) : Config → Config
  | active task call p below => proceed call below (act textEnd tokens task p)
  | leaving outcome _ p [] => done outcome p
  | leaving (.error e) _ p ((_, call) :: below) => leaving (.error e) call p below
  | leaving (.ok value) _ p ((wait, call) :: below) =>
    proceed call below (resume textEnd tokens wait value p)
  | done outcome p => done outcome p

/-- A sum is called in front of the first token. -/
def start : Config := active (.chain .sum) ⟨.sum, ⟨0, 0⟩, []⟩ ⟨0, 0⟩ []

end Config

end RayScene.Color.Calls
