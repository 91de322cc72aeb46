import RayScene.Json.Fault

/-!
Reading a text byte by byte. A reader leaves its cursor where it failed, because faults that only
concern the type of a value are placed where the enclosing brackets were left.
-/

namespace RayScene.Json

structure Cursor where
  rest : List UInt8
  line : Nat
  column : Nat
  deriving DecidableEq, Repr

namespace Cursor

def start (text : List UInt8) : Cursor := ⟨text, 1, 0⟩

def position (c : Cursor) : Position := ⟨c.line, c.column⟩

/-- The character of a byte; bytes beyond ASCII give characters that mean nothing to a reader. -/
def charOf (byte : UInt8) : Char := Char.ofNat byte.toNat

/-- The place behind one more byte. -/
def step (byte : UInt8) (line column : Nat) : Nat × Nat :=
  if charOf byte = '\n' then (line + 1, 0) else (line, column + 1)

def advance (c : Cursor) : Cursor :=
  match c.rest with
  | [] => c
  | byte :: rest =>
    let (line, column) := step byte c.line c.column
    ⟨rest, line, column⟩

def isBlank (byte : UInt8) : Bool := [' ', '\n', '\t', '\r'].contains (charOf byte)

def skipBlanks (rest : List UInt8) (line column : Nat) : Cursor :=
  match rest with
  | [] => ⟨[], line, column⟩
  | byte :: tail =>
    if isBlank byte then
      let (line, column) := step byte line column
      skipBlanks tail line column
    else ⟨byte :: tail, line, column⟩

end Cursor

abbrev Reader := EStateM Failure Cursor

variable {α : Type}

def failHere (fault : Fault) : Reader α := do
  throw ⟨fault, some (← get).position⟩

def failNext (fault : Fault) : Reader α := do
  throw ⟨fault, some (← get).advance.position⟩

def reject (fault : Fault) : Reader α := throw ⟨fault, none⟩

def peek : Reader (Option Char) := do
  match (← get).rest with
  | [] => return none
  | byte :: _ => return some (Cursor.charOf byte)

def skip : Reader Unit := modify Cursor.advance

def next : Reader (Option Char) := do
  let c ← peek
  skip
  return c

def peekSolid : Reader (Option Char) := do
  let c ← get
  set (Cursor.skipBlanks c.rest c.line c.column)
  peek

def bytesLeft : Reader Nat := return (← get).rest.length

/-- Places an unplaced fault where reading stands. -/
def placed (reader : Reader α) : Reader α := fun cursor =>
  match reader cursor with
  | .error ⟨fault, none⟩ cursor => .error ⟨fault, some cursor.position⟩ cursor
  | result => result

/-- Reads the closing bracket even behind a failed body, whose failure goes first. -/
def closedBy (close : Reader Unit) (body : Reader α) : Reader α := fun cursor =>
  match body cursor with
  | .ok value cursor =>
    match close cursor with
    | .ok () cursor => .ok value cursor
    | .error failure cursor => .error failure cursor
  | .error failure cursor =>
    match close cursor with
    | .ok () cursor => .error failure cursor
    | .error _ cursor => .error failure cursor

def word : List Char → Reader Unit
  | [] => return ()
  | letter :: letters => do
    match ← next with
    | none => failHere .endInValue
    | some c => if c = letter then word letters else failHere .expectedWord

end RayScene.Json
