import RayScene.Number.Single

namespace RayScene

/--
What geometry needs of its numbers. No law is assumed, so that rounded and exact numbers are both
instances.
-/
class Scalar (S : Type) extends
    Add S, Sub S, Mul S, Div S, Neg S, BEq S, LT S, LE S, OfScientific S where
  decidableLt : DecidableLT S
  decidableLe : DecidableLE S
  infinity : S
  degree : S
  abs : S → S
  sqrt : S → S
  floor : S → S
  sin : S → S
  cos : S → S
  tan : S → S

namespace Scalar

variable {S : Type} [Scalar S]

attribute [reducible, instance] decidableLt decidableLe

def zero : S := 0.0

def ofNat (n : Nat) : S := OfScientific.ofScientific n false 0

def min (a b : S) : S := if b < a then b else if a == a then a else b

/-- The greater of two numbers; one that is not a number loses. -/
def max (a b : S) : S := if a < b then b else if a == a then a else b

def clamp (x low high : S) : S := if x < low then low else if high < x then high else x

def isFinite (x : S) : Bool := decide (-infinity < x) && decide (x < infinity)

def isPositive (x : S) : Bool := isFinite x && decide (zero < x)

end Scalar

instance : Scalar Single where
  decidableLt := inferInstance
  decidableLe := inferInstance
  infinity := Single.ofDatum (.infinite false)
  degree := 0.017453292519943295
  abs := Float32.abs
  sqrt := Float32.sqrt
  floor := Single.floor
  sin := Float32.sin
  cos := Float32.cos
  tan := Float32.tan

end RayScene
