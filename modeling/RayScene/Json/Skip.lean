import RayScene.Json.Number
import RayScene.Json.String

/-!
Skipping a value that nothing asks for. Only its syntax is checked, and there is no limit to its
depth: a stack of the open brackets takes the place of recursion.
-/

namespace RayScene.Json

inductive Bracket where
  | list
  | object
  deriving DecidableEq, Repr

namespace Bracket

def closing : Bracket → Char
  | list => ']'
  | object => '\x7d'

def endFault : Bracket → Fault
  | list => .endInList
  | object => .endInObject

def commaFault : Bracket → Fault
  | list => .expectedCommaOrBracket
  | object => .expectedCommaOrBrace

end Bracket

def skipExponent : Reader Unit := do
  skip
  match ← peek with
  | some '+' | some '-' => skip
  | _ => pure ()
  match ← next with
  | some c => unless c.isDigit do failHere .invalidNumber
  | none => failHere .invalidNumber
  let _ ← countDigits

def skipFraction : Reader Unit := do
  skip
  if (← countDigits) = 0 then failNext .invalidNumber
  match ← peek with
  | some 'e' | some 'E' => skipExponent
  | _ => pure ()

def skipNumber : Reader Unit := do
  match ← next with
  | some '0' =>
    if ((← peek).map Char.isDigit).getD false then failNext .invalidNumber
  | some c =>
    unless c.isDigit do failHere .invalidNumber
    let _ ← countDigits
  | none => failHere .invalidNumber
  match ← peek with
  | some '.' => skipFraction
  | some 'e' | some 'E' => skipExponent
  | _ => pure ()

/-- Skips a value without parts, or enters a bracket. -/
def skipStart : Reader (Option Bracket) := do
  match ← peekSolid with
  | none => failNext .endInValue
  | some 'n' => skip; word ['u', 'l', 'l']; return none
  | some 't' => skip; word ['r', 'u', 'e']; return none
  | some 'f' => skip; word ['a', 'l', 's', 'e']; return none
  | some '-' => skip; skipNumber; return none
  | some '"' => skip; skipString ((← bytesLeft) + 1); return none
  | some '[' => skip; return some .list
  | some '\x7b' => skip; return some .object
  | some c =>
    if c.isDigit then
      skipNumber
      return none
    else failNext .expectedValue

/--
Closes brackets, the innermost first, until one of them goes on. `between` tells whether a value
of the innermost bracket has just ended, so that a comma has to come before another one.
-/
def skipClosings (between : Bool) : List Bracket → Reader (List Bracket)
  | [] => return []
  | bracket :: outer => do
    match ← peekSolid with
    | none => failNext bracket.endFault
    | some c =>
      if c = bracket.closing then
        skip
        skipClosings true outer
      else if !between then return bracket :: outer
      else if c = ',' then
        skip
        return bracket :: outer
      else failNext bracket.commaFault

def skipKey : Reader Unit := do
  match ← peekSolid with
  | some '"' => skip
  | some _ => failNext .keyNoString
  | none => failNext .endInObject
  skipString ((← bytesLeft) + 1)
  match ← peekSolid with
  | some ':' => skip
  | some _ => failNext .expectedColon
  | none => failNext .endInObject

/-- Skips a value inside the open brackets and all that follows it up to the last of them. -/
def skipInside : Nat → List Bracket → Reader Unit
  | 0, _ => return ()
  | count + 1, stack => do
    let entered ← skipStart
    let stack ← match entered with
      | some bracket => skipClosings false (bracket :: stack)
      | none => skipClosings true stack
    match stack with
    | [] => return ()
    | bracket :: _ =>
      if bracket = .object then skipKey
      skipInside count stack

def skipValue : Reader Unit := do
  skipInside ((← bytesLeft) + 1) []

end RayScene.Json
