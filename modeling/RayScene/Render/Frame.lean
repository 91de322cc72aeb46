import RayScene.Scene.Basic

namespace RayScene.Render

variable {S : Type} [Scalar S]

/-- The size of a surface in pixels. -/
structure Viewport where
  width : UInt32
  height : UInt32
  deriving DecidableEq, Repr

namespace Viewport

def isEmpty (v : Viewport) : Bool := v.width == 0 || v.height == 0

/-- Width over height; a height of zero counts as one. -/
def aspect (v : Viewport) : S :=
  Scalar.ofNat v.width.toNat / Scalar.ofNat (max v.height.toNat 1)

def size (v : Viewport) : S × S := (Scalar.ofNat v.width.toNat, Scalar.ofNat v.height.toNat)

end Viewport

def defaultBackground : Vec3 S × Vec3 S := (Vec3.zero, Vec3.splat (17.0 / 255.0))

structure Frame (S : Type) where
  bottom : Vec3 S
  top : Vec3 S
  resolution : S × S
  seed : S × S
  /-- What the sum of all samples is multiplied by when it is shown. -/
  scale : S
  deriving DecidableEq, Repr

namespace Frame

def ofParts (background : Vec3 S × Vec3 S) (resolution seed : S × S) : Frame S :=
  ⟨background.1, background.2, resolution, seed, 1.0⟩

def ofScene (scene : Scene S) (viewport : Viewport) (seed : S × S) : Frame S :=
  ofParts (scene.rendererSettings.background.getD defaultBackground) viewport.size seed

def withSamples (frame : Frame S) (count : UInt32) : Frame S :=
  { frame with scale := 1.0 / Scalar.ofNat (max count.toNat 1) }

def withAlpha (rgb : Vec3 S) : List S := rgb.toList ++ [1.0]

def words (frame : Frame S) : List S :=
  withAlpha frame.bottom ++ withAlpha frame.top ++
    [frame.resolution.1, frame.resolution.2, frame.seed.1, frame.seed.2, frame.scale] ++
    List.replicate 3 Scalar.zero

def byteSize : Nat := 64

end Frame
end RayScene.Render
