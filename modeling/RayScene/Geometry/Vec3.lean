import RayScene.Geometry.Scalar

namespace RayScene

structure Vec3 (S : Type) where
  x : S
  y : S
  z : S
  deriving DecidableEq, Repr, Inhabited

namespace Vec3

variable {S : Type}

def splat (c : S) : Vec3 S := ⟨c, c, c⟩

def toList (v : Vec3 S) : List S := [v.x, v.y, v.z]

def map {T : Type} (f : S → T) (v : Vec3 S) : Vec3 T := ⟨f v.x, f v.y, f v.z⟩

def zipWith (f : S → S → S) (a b : Vec3 S) : Vec3 S := ⟨f a.x b.x, f a.y b.y, f a.z b.z⟩

variable [Scalar S]

instance : Add (Vec3 S) := ⟨zipWith (· + ·)⟩
instance : Sub (Vec3 S) := ⟨zipWith (· - ·)⟩
instance : HMul S (Vec3 S) (Vec3 S) := ⟨fun c v => v.map (c * ·)⟩
instance : HMul (Vec3 S) S (Vec3 S) := ⟨fun v c => v.map (· * c)⟩
instance : HDiv (Vec3 S) S (Vec3 S) := ⟨fun v c => v.map (· / c)⟩

def zero : Vec3 S := splat Scalar.zero

def dot (a b : Vec3 S) : S := a.x * b.x + a.y * b.y + a.z * b.z

def length (v : Vec3 S) : S := Scalar.sqrt (dot v v)

def normalize (v : Vec3 S) : Vec3 S := v * (1.0 / length v)

def cross (a b : Vec3 S) : Vec3 S :=
  ⟨a.y * b.z - b.y * a.z, a.z * b.x - b.z * a.x, a.x * b.y - b.x * a.y⟩

def abs (v : Vec3 S) : Vec3 S := v.map Scalar.abs

def max (a b : Vec3 S) : Vec3 S := zipWith Scalar.max a b

def maxComponent (v : Vec3 S) : S := Scalar.max v.x (Scalar.max v.y v.z)

def isZero (v : Vec3 S) : Bool := v.toList.all (· == Scalar.zero)

end Vec3
end RayScene
