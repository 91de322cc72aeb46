import RayScene.Geometry.Vec3
import RayScene.Json.Skip
import RayScene.Json.Value

/-!
Reading values whose type is known beforehand. A value of another type is a fault of its own, and
so are names that a record does not have, has twice or lacks.
-/

namespace RayScene.Json

variable {α β σ : Type}

def valueStart : Reader Char := do
  match ← peekSolid with
  | some c => return c
  | none => failNext .endInValue

/-- Fails because the value ahead is of another type. A value without parts is read first. -/
def mistyped (expected : String) : Reader α := placed do
  match ← peek with
  | some 'n' => skip; word ['u', 'l', 'l']; reject (.invalidType .null expected)
  | some 't' => skip; word ['r', 'u', 'e']; reject (.invalidType (.bool true) expected)
  | some 'f' => skip; word ['a', 'l', 's', 'e']; reject (.invalidType (.bool false) expected)
  | some '"' => skip; reject (.invalidType (.string (← stringRest)) expected)
  | some '[' => reject (.invalidType .sequence expected)
  | some '\x7b' => reject (.invalidType .map expected)
  | some c =>
    if c = '-' ∨ c.isDigit then reject (.invalidType (← number).found expected)
    else failNext .expectedValue
  | none => failNext .expectedValue

def ofExcept : Except Fault α → Reader α
  | .ok value => return value
  | .error fault => reject fault

def numberAs (expected : String) (convert : Number → Except Fault α) : Reader α := do
  let c ← valueStart
  if c = '-' ∨ c.isDigit then
    placed do
      ofExcept (convert (← number))
  else mistyped expected

def single : Reader Single := numberAs "f32" fun n => .ok n.toSingle

def natural32 : Reader UInt32 := numberAs "u32" fun
  | .natural n => if n < Nat.pow 2 32 then .ok (UInt32.ofNat n)
    else .error (.invalidValue (.integer n) "u32")
  | .negative n => .error (.invalidValue (.integer (-(n : Int))) "u32")
  | .float x => .error (.invalidType (.float x) "u32")

def integer64 : Reader Int64 := numberAs "i64" fun
  | .natural n => if n < Nat.pow 2 63 then .ok (Int64.ofNat n)
    else .error (.invalidValue (.integer n) "i64")
  | .negative n => .ok (Int64.ofInt (-(n : Int)))
  | .float x => .error (.invalidType (.float x) "i64")

def string : Reader String := do
  if (← valueStart) = '"' then
    skip
    stringRest
  else mistyped "a string"

def optional (reader : Reader α) : Reader (Option α) := do
  match ← peekSolid with
  | some 'n' =>
    skip
    word ['u', 'l', 'l']
    return none
  | _ => some <$> reader

/-- The contents of a list, unless too many brackets are open already. -/
def inList (levels : Nat) (body : Nat → Reader α) : Reader α := do
  match levels with
  | 0 => failNext .tooManyLevels
  | inner + 1 =>
    skip
    placed (closedBy closeList (body inner))

/-- The contents of an object, unless too many brackets are open already. -/
def inObject (levels : Nat) (body : Nat → Reader α) : Reader α := do
  match levels with
  | 0 => failNext .tooManyLevels
  | inner + 1 =>
    skip
    placed (closedBy closeObject (body inner))

/-- Reads a list of any length. -/
def list (levels : Nat) (element : Nat → Reader α) : Reader (List α) := do
  if (← valueStart) = '[' then inList levels fun inner => elements (element inner)
  else mistyped "a sequence"

def exactElements (expected : String) (element : Reader α) : Nat → Nat → Reader (List α)
  | _, 0 => return []
  | index, count + 1 => do
    if ← nextElement (index == 0) then
      let a ← element
      return a :: (← exactElements expected element (index + 1) count)
    else reject (.invalidLength index expected)

/-- Reads a list of exactly `count` elements. -/
def tuple (levels : Nat) (expected : String) (count : Nat) (element : Nat → Reader α) :
    Reader (List α) := do
  if (← valueStart) = '[' then
    inList levels fun inner => exactElements expected (element inner) 0 count
  else mistyped expected

def vectorType : String := "struct Vec3"

def vector (levels : Nat) : Reader (Vec3 Single) := do
  match ← tuple levels vectorType 3 fun _ => single with
  | [x, y, z] => return ⟨x, y, z⟩
  | other => reject (.invalidLength other.length vectorType)

structure Field (σ : Type) where
  name : String
  isSet : σ → Bool
  read : σ → Reader σ

def Field.of (name : String) (get : σ → Option β) (set : σ → β → σ) (reader : Reader β) :
    Field σ where
  name := name
  isSet draft := (get draft).isSome
  read draft := return set draft (← reader)

/-- A record, written as an object or as the list of its fields. -/
structure Record (σ α : Type) where
  title : String
  rejectsUnknown : Bool
  fields : List (Field σ)
  draft : σ
  /-- The record of a draft; the faults of missing fields depend on how it was written. -/
  finish : (Nat → String → Fault) → σ → Except Fault α

def require (fault : Fault) : Option α → Except Fault α
  | some value => .ok value
  | none => .error fault

namespace Record

def member (record : Record σ α) (draft : σ) (key : String) : Reader σ := do
  match record.fields.find? (·.name == key) with
  | some field =>
    if field.isSet draft then reject (.duplicateField key)
    colon
    field.read draft
  | none =>
    if record.rejectsUnknown then reject (.unknownField key (record.fields.map (·.name)))
    colon
    skipValue
    return draft

def fieldsInOrder : List (Field σ) → Bool → σ → Reader σ
  | [], _, draft => return draft
  | field :: fields, first, draft => do
    if ← nextElement first then fieldsInOrder fields false (← field.read draft)
    else return draft

def counted (count : Nat) (noun : String) : String :=
  if count = 1 then s!"1 {noun}" else s!"{count} {noun}s"

def missingElement (record : Record σ α) (index : Nat) (_ : String) : Fault :=
  .invalidLength index (record.title ++ " with " ++ counted record.fields.length "element")

def missingMember (_ : Nat) (name : String) : Fault := .missingField name

/-- Reads a record whose parts are read with the given number of levels. -/
def read (record : Nat → Record σ α) (levels : Nat) : Reader α := do
  match ← valueStart with
  | '[' => inList levels fun inner => do
    let record := record inner
    ofExcept (record.finish record.missingElement (← fieldsInOrder record.fields true record.draft))
  | '\x7b' => inObject levels fun inner => do
    let record := record inner
    ofExcept (record.finish missingMember (← members record.member record.draft))
  | _ => mistyped (record 0).title

end Record

def choice (levels : Nat) (names : List (String × α)) : Reader α := do
  let name : Reader α := placed do
    if (← valueStart) = '"' then
      skip
      let text ← stringRest
      match names.lookup text with
      | some value => return value
      | none => reject (.unknownVariant text (names.map (·.1)))
    else mistyped "variant identifier"
  match ← peekSolid with
  | some '"' => name
  | some '\x7b' =>
    match levels with
    | 0 => failNext .tooManyLevels
    | _ + 1 =>
      skip
      let value ← name
      colon
      if (← valueStart) = 'n' then
        skip
        word ['u', 'l', 'l']
      else mistyped "unit"
      match ← peekSolid with
      | some '\x7d' =>
        skip
        return value
      | some _ => failHere .expectedValue
      | none => failHere .endInObject
  | some _ => failNext .expectedValue
  | none => failNext .endInValue

/-- Reads a text that holds one value and nothing else. -/
def readText (reader : Nat → Reader α) (text : List UInt8) : Except Failure α :=
  let whole : Reader α := do
    let value ← reader maxLevels
    match ← peekSolid with
    | none => return value
    | some _ => failNext .trailingCharacters
  match whole (Cursor.start text) with
  | .ok value _ => .ok value
  | .error failure _ => .error failure

end RayScene.Json
