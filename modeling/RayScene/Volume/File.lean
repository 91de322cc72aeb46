import RayScene.Json.Typed
import RayScene.Volume.Export

namespace RayScene.Volume

open Json

/-- Writes a number; there is no way to write one that is not finite. -/
def writeNumber (x : Single) : String :=
  if Scalar.isFinite x then x.write .volume else "null"

def writeNumbers (xs : List Single) : String := "[" ++ ",".intercalate (xs.map writeNumber) ++ "]"

def write (volume : Volume Single) : String :=
  "\x7b\"resolution\":" ++ toString volume.resolution.toNat ++
    ",\"minCoords\":" ++ writeNumbers volume.minCoords.toList ++
    ",\"maxCoords\":" ++ writeNumbers volume.maxCoords.toList ++
    ",\"values\":" ++ writeNumbers volume.values ++ "\x7d"

structure Draft where
  resolution : Option UInt32 := none
  minCoords : Option (Vec3 Single) := none
  maxCoords : Option (Vec3 Single) := none
  values : Option (List Single) := none

def record (levels : Nat) : Record Draft (Volume Single) where
  title := "struct VolumeSamples"
  rejectsUnknown := false
  fields := [
    .of "resolution" (·.resolution) (fun d n => { d with resolution := some n }) natural32,
    .of "minCoords" (·.minCoords) (fun d v => { d with minCoords := some v }) (vector levels),
    .of "maxCoords" (·.maxCoords) (fun d v => { d with maxCoords := some v }) (vector levels),
    .of "values" (·.values) (fun d xs => { d with values := some xs })
      (list levels fun _ => single)]
  draft := {}
  finish missing draft := do
    return {
      resolution := ← require (missing 0 "resolution") draft.resolution
      minCoords := ← require (missing 1 "minCoords") draft.minCoords
      maxCoords := ← require (missing 2 "maxCoords") draft.maxCoords
      values := ← require (missing 3 "values") draft.values }

/-- Reads a volume from the text of its file. -/
def read (text : String) : Except Failure (Volume Single) :=
  readText (Record.read record) text.toUTF8.toList

end RayScene.Volume

namespace RayScene.Json

def Failure.describe (failure : Failure) : String :=
  match failure.position with
  | none => failure.fault.message
  | some p => failure.fault.message ++ s!" at line {p.line} column {p.column}"

end RayScene.Json
