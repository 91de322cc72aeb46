import RayScene.Geometry.Distance
import RayScene.Number.Notation
import RayScene.Scene.Basic

namespace RayScene

/-- A box cut into `resolution` cells along each axis. -/
structure Grid (S : Type) where
  resolution : UInt32
  low : Vec3 S
  high : Vec3 S
  deriving DecidableEq, Repr

/-- A cell, counted along each axis. -/
structure Cell where
  i : UInt32
  j : UInt32
  k : UInt32
  deriving DecidableEq, Repr

namespace Grid

variable {S : Type}

/-- How many cells the grid has. -/
def size (g : Grid S) : Nat := g.resolution.toNat * g.resolution.toNat * g.resolution.toNat

def isEmpty (g : Grid S) : Bool := g.resolution = 0

/-- The number of a cell. -/
def index (g : Grid S) (c : Cell) : Nat :=
  c.i.toNat + g.resolution.toNat * (c.j.toNat + g.resolution.toNat * c.k.toNat)

/-- The cell of a number, in a grid that has cells. -/
def cell (g : Grid S) (index : Nat) : Cell :=
  let r := g.resolution.toNat
  ⟨UInt32.ofNat (index % r), UInt32.ofNat (index / r % r), UInt32.ofNat (index / (r * r) % r)⟩

variable [Scalar S]

def cellSize (g : Grid S) : Vec3 S := (g.high - g.low) / Scalar.ofNat (S := S) g.resolution.toNat

def middle (count : UInt32) : S := Scalar.ofNat count.toNat + 0.5

def cellCenter (g : Grid S) (c : Cell) : Vec3 S :=
  g.low + Vec3.zipWith (· * ·) ⟨middle c.i, middle c.j, middle c.k⟩ g.cellSize

/-- The center of the cell of a number. -/
def centerOf (g : Grid S) (index : Nat) : Vec3 S := g.cellCenter (g.cell index)

end Grid

/-- What an export is asked to do. -/
structure ExportSettings (S : Type) where
  resolution : Int64
  minCoords : Vec3 S
  maxCoords : Vec3 S
  deriving DecidableEq, Repr

inductive SamplerError where
  | rangeOutOfBounds (start stop size : Nat)
  | backendUnavailable
  | readback (message : String)
  deriving DecidableEq, Repr

def SamplerError.message : SamplerError → String
  | rangeOutOfBounds start stop size =>
    s!"cell range {start}..{stop} is outside a grid of {size} cells"
  | backendUnavailable => "backend not available"
  | readback message => "GPU readback failed: " ++ message

inductive ExportError (S : Type) where
  | aborted
  | invalidBounds (low high : Vec3 S)
  | invalidResolution (resolution : Int64)
  | sampler (error : SamplerError)
  deriving DecidableEq, Repr

def maxExportResolution : Int64 := 512

def Vec3.plain (v : Vec3 Single) : String :=
  "[" ++ ", ".intercalate (v.toList.map Single.plain) ++ "]"

def ExportError.message : ExportError Single → String
  | aborted => "export aborted"
  | invalidBounds low high =>
    "invalid bounds: min " ++ low.plain ++ " must be component-wise less than max " ++ high.plain
  | invalidResolution resolution =>
    s!"invalid resolution {resolution.toInt}: expected 1..={maxExportResolution.toInt}"
  | sampler error => error.message

namespace ExportSettings

variable {S : Type}

def withOverrides (settings : ExportSettings S) (overrides : ExportOverrides S) :
    ExportSettings S where
  resolution := overrides.resolution.getD settings.resolution
  minCoords := overrides.minCoords.getD settings.minCoords
  maxCoords := overrides.maxCoords.getD settings.maxCoords

variable [Scalar S]

def spansBox (low high : Vec3 S) : Bool :=
  low.toList.all Scalar.isFinite && high.toList.all Scalar.isFinite &&
    decide (low.x < high.x) && decide (low.y < high.y) && decide (low.z < high.z)

def grid (settings : ExportSettings S) : Except (ExportError S) (Grid S) :=
  if settings.resolution < 1 ∨ maxExportResolution < settings.resolution then
    .error (.invalidResolution settings.resolution)
  else if !spansBox settings.minCoords settings.maxCoords then
    .error (.invalidBounds settings.minCoords settings.maxCoords)
  else
    .ok ⟨UInt32.ofNat settings.resolution.toInt.toNat, settings.minCoords, settings.maxCoords⟩

end ExportSettings

def wordBytes (word : UInt32) : List UInt8 :=
  [word.toUInt8, (word >>> 8).toUInt8, (word >>> 16).toUInt8, (word >>> 24).toUInt8]

def Single.bytes (x : Single) : List UInt8 := wordBytes x.toBits

structure ExportParams (S : Type) where
  minCoords : List S
  cellSize : List S
  resolution : UInt32
  /-- The number of the first cell. -/
  offset : UInt32
  count : UInt32
  deriving DecidableEq, Repr

namespace ExportParams

def ofGrid {S : Type} [Scalar S] (g : Grid S) (offset count : UInt32) : ExportParams S where
  minCoords := g.low.toList ++ [Scalar.zero]
  cellSize := g.cellSize.toList ++ [Scalar.zero]
  resolution := g.resolution
  offset := offset
  count := count

def byteSize : Nat := 48

def bytes (params : ExportParams Single) : List UInt8 :=
  (params.minCoords ++ params.cellSize).flatMap Single.bytes ++
    [params.resolution, params.offset, params.count, 0].flatMap wordBytes

end ExportParams

end RayScene
