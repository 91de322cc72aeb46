import RayScene.SceneFile.Schema

/-!
From the text of a scene file to a scene. The text is read inside an envelope, and the places of
faults are moved back from there to where its author sees them.
-/

namespace RayScene.SceneFile

open Json

/-- Why a text is no scene, with the place if there is one. -/
structure SceneError where
  message : String
  position : Option (Int × Int)
  deriving DecidableEq, Repr

namespace SceneError

/-- The row and the column, minus one each for an error without a place. -/
def row (e : SceneError) : Int := (e.position.map (·.1)).getD (-1)

def column (e : SceneError) : Int := (e.position.map (·.2)).getD (-1)

def describe (e : SceneError) : String := s!"{e.row}:{e.column}: {e.message}"

end SceneError

def newline : UInt8 := 10

def carriageReturn : UInt8 := 13

def space : UInt8 := 32

def trimReturn (line : List UInt8) : List UInt8 :=
  if line.getLast? = some carriageReturn then line.dropLast else line

def linesFrom : List UInt8 → List UInt8 → List (List UInt8)
  | line, [] => if line = [] then [] else [line.reverse]
  | line, byte :: rest =>
    if byte = newline then trimReturn line.reverse :: linesFrom [] rest
    else linesFrom (byte :: line) rest

def lines (text : List UInt8) : List (List UInt8) := linesFrom [] text

def envelopeOffset : Nat := 2

def indentLine (line : List UInt8) : List UInt8 :=
  List.replicate envelopeOffset space ++ line ++ [newline]

def envelopeHead : List UInt8 := "\x7b\n\"scene\":\n".toUTF8.toList

def envelopeTail : List UInt8 := "\x7d\n".toUTF8.toList

def wrap (text : List UInt8) : List UInt8 :=
  envelopeHead ++ (lines text).flatMap indentLine ++ envelopeTail

/-- The error of a failure that the envelope led to. -/
def SceneError.ofFailure (failure : Failure) : SceneError where
  message := failure.fault.message
  position := failure.position.map fun p =>
    ((p.line : Int) - envelopeOffset, max ((p.column : Int) - envelopeOffset) 0)

/-- What is wrong with a shape, if anything. -/
def shapeFault? : Shape Single → Option String
  | .sphere _ radius =>
    if Scalar.isPositive radius then none
    else some ("sphere radius must be positive, got " ++ radius.plain)
  | .solid tree => tree.error?.map SdfError.message

def maxObjects : Nat := Nat.pow 2 32

def checkObject (id : Nat) (entry : ObjectEntry) : Except SceneError (SceneObject Single) :=
  if maxObjects ≤ id then .error ⟨"too many objects in objectList", none⟩
  else
    match shapeFault? entry.shape with
    | some fault => .error ⟨s!"object {id}: " ++ fault, none⟩
    | none => .ok ⟨UInt32.ofNat id, entry.shape, entry.material, entry.color⟩

def checkObjects : Nat → List ObjectEntry → Except SceneError (List (SceneObject Single))
  | _, [] => .ok []
  | id, entry :: entries => do
    return (← checkObject id entry) :: (← checkObjects (id + 1) entries)

def assemble (document : Document) : Except SceneError (Scene Single) := do
  return {
    objects := ← checkObjects 0 document.objects
    camera := document.camera
    rendererSettings := document.rendererSettings.getD .none
    exportOverrides := document.exportOverrides }

def readDocument (text : List UInt8) : Except SceneError Document :=
  match readText (Record.read envelope) (wrap text) with
  | .ok document => .ok document
  | .error failure => .error (.ofFailure failure)

def compileBytes (text : List UInt8) : Except SceneError (Scene Single) := do
  assemble (← readDocument text)

def compile (text : String) : Except SceneError (Scene Single) := compileBytes text.toUTF8.toList

end RayScene.SceneFile
