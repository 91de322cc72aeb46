import RayScene.Geometry.Scalar

namespace RayScene.Render

structure Random where
  state : UInt64
  deriving DecidableEq, Repr

namespace Random

def step : UInt64 := 0xA0761D6478BD642F

def mask : UInt64 := 0xE7037ED1A0B428DB

def mix (counter : UInt64) : UInt64 :=
  let product := counter.toNat * (counter ^^^ mask).toNat
  UInt64.ofNat product ^^^ UInt64.ofNat (product / Nat.pow 2 64)

def next (random : Random) : UInt64 × Random :=
  let counter := random.state + step
  (mix counter, ⟨counter⟩)

variable {S : Type} [Scalar S]

def fraction (word : UInt64) : S :=
  Scalar.ofNat (word.toNat % Nat.pow 2 32 / Nat.pow 2 9) / Scalar.ofNat (Nat.pow 2 23)

def pair (random : Random) : (S × S) × Random :=
  let (x, random) := random.next
  let (y, random) := random.next
  ((fraction x, fraction y), random)

end Random
end RayScene.Render
