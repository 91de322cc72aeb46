import RayScene.Geometry.Vec3

namespace RayScene.Distance

open Scalar

variable {S : Type} [Scalar S]

def far : S := 100.0

def planarLength (x y : S) : S := sqrt (x * x + y * y)

def sphere (p dims : Vec3 S) : S := p.length - dims.x

def box (p dims : Vec3 S) : S :=
  let q := p.abs - dims
  (q.max Vec3.zero).length + min q.maxComponent zero

def torus (p dims : Vec3 S) : S :=
  planarLength (planarLength p.x p.z - dims.x) p.y - dims.y

def cylinder (p dims : Vec3 S) : S :=
  let across := abs (planarLength p.x p.z) - dims.x
  let along := abs p.y - dims.y
  min (max across along) zero + planarLength (max across zero) (max along zero)

/-- The lesser of two distances, blended where they differ by less than `k`. -/
def smoothUnion (a b k : S) : S :=
  if k ≤ zero then min a b
  else
    let h := clamp (0.5 + 0.5 * (b - a) / k) 0.0 1.0
    b + (a - b) * h - k * h * (1.0 - h)

/-- Moves `x` by whole periods into the period around zero; no period but a positive one acts. -/
def fold (x period : S) : S :=
  if zero < period then x - period * floor (x / period + 0.5) else x

def repeatDomain (p period : Vec3 S) : Vec3 S := Vec3.zipWith fold p period

def rotateX (p : Vec3 S) (angle : S) : Vec3 S :=
  let s := sin angle
  let c := cos angle
  ⟨p.x, c * p.y - s * p.z, s * p.y + c * p.z⟩

def rotateY (p : Vec3 S) (angle : S) : Vec3 S :=
  let s := sin angle
  let c := cos angle
  ⟨c * p.x + s * p.z, p.y, -s * p.x + c * p.z⟩

def rotateZ (p : Vec3 S) (angle : S) : Vec3 S :=
  let s := sin angle
  let c := cos angle
  ⟨c * p.x - s * p.y, s * p.x + c * p.y, p.z⟩

/-- Undoes a turn by `angles`, given in degrees and applied about x, then y, then z. -/
def inverseRotate (p angles : Vec3 S) : Vec3 S :=
  let r := angles * (degree : S)
  rotateX (rotateY (rotateZ p (-r.z)) (-r.y)) (-r.x)

end RayScene.Distance
