import RayScene.Json.Number
import RayScene.Json.String

namespace RayScene.Json

inductive Value where
  | null
  | bool (value : Bool)
  | number (value : Number)
  | string (value : String)
  | array (items : List Value)
  | object (members : List (String × Value))
  deriving Repr, Inhabited

def Value.found : Value → Found
  | null => .null
  | bool value => .bool value
  | number value => value.found
  | string value => .string value
  | array _ => .sequence
  | object _ => .map

variable {α σ : Type}

/-- How many brackets may be open at once. -/
def maxLevels : Nat := 127

def closeList : Reader Unit := do
  match ← peekSolid with
  | some ']' => skip
  | some ',' =>
    skip
    match ← peekSolid with
    | some ']' => failNext .trailingComma
    | _ => failNext .trailingCharacters
  | some _ => failNext .trailingCharacters
  | none => failNext .endInList

def closeObject : Reader Unit := do
  match ← peekSolid with
  | some '\x7d' => skip
  | some ',' => failNext .trailingComma
  | some _ => failNext .trailingCharacters
  | none => failNext .endInObject

def nextElement (first : Bool) : Reader Bool := do
  match ← peekSolid with
  | none => failNext .endInList
  | some ']' => return false
  | some c =>
    if first then return true
    else if c = ',' then
      skip
      match ← peekSolid with
      | some ']' => failNext .trailingComma
      | some _ => return true
      | none => failNext .endInValue
    else failNext .expectedCommaOrBracket

def nextKey (first : Bool) : Reader (Option String) := do
  match ← peekSolid with
  | none => failNext .endInObject
  | some '\x7d' => return none
  | some c =>
    let c ← if first then pure c
      else if c = ',' then
        skip
        match ← peekSolid with
        | some '\x7d' => failNext .trailingComma
        | some c => pure c
        | none => failNext .endInValue
      else failNext .expectedCommaOrBrace
    if c = '"' then
      skip
      some <$> stringRest
    else failNext .keyNoString

def colon : Reader Unit := do
  match ← peekSolid with
  | some ':' => skip
  | some _ => failNext .expectedColon
  | none => failNext .endInObject

def elementsFrom (element : Reader α) : Nat → Bool → Reader (List α)
  | 0, _ => return []
  | count + 1, first => do
    if ← nextElement first then
      let a ← element
      return a :: (← elementsFrom element count false)
    else return []

def elements (element : Reader α) : Reader (List α) := do
  elementsFrom element ((← bytesLeft) + 1) true

/-- Reads at most `count` members up to the closing brace, each into what has been gathered. -/
def membersFrom (member : σ → String → Reader σ) : Nat → Bool → σ → Reader σ
  | 0, _, gathered => return gathered
  | count + 1, first, gathered => do
    match ← nextKey first with
    | some key => membersFrom member count false (← member gathered key)
    | none => return gathered

def members (member : σ → String → Reader σ) (empty : σ) : Reader σ := do
  membersFrom member ((← bytesLeft) + 1) true empty

/-- Opens a bracket and gives the reader of its contents, unless too many are open already. -/
def enterWith (nested : Option (Reader α)) : Reader (Reader α) := do
  match nested with
  | none => failNext .tooManyLevels
  | some reader =>
    skip
    return reader

def valueStep (nested : Option (Reader Value)) : Reader Value := do
  match ← peekSolid with
  | none => failNext .endInValue
  | some 'n' => skip; word ['u', 'l', 'l']; return .null
  | some 't' => skip; word ['r', 'u', 'e']; return .bool true
  | some 'f' => skip; word ['a', 'l', 's', 'e']; return .bool false
  | some '"' => skip; return .string (← stringRest)
  | some '[' =>
    let part ← enterWith nested
    .array <$> placed (closedBy closeList (elements part))
  | some '\x7b' =>
    let part ← enterWith nested
    let member (pairs : List (String × Value)) (key : String) : Reader (List (String × Value)) := do
      colon
      return (key, ← part) :: pairs
    let pairs ← placed (closedBy closeObject (members member []))
    return .object pairs.reverse
  | some c =>
    if c = '-' ∨ c.isDigit then .number <$> number
    else failNext .expectedValue

/-- Reads a value with at most so many levels of brackets. -/
def value : Nat → Reader Value
  | 0 => valueStep none
  | levels + 1 => valueStep (some (value levels))

end RayScene.Json
