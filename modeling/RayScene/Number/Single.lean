import RayScene.Number.Binary

namespace RayScene

/-- Single precision numbers, the arithmetic of scenes, shaders and volumes. -/
abbrev Single := Float32

namespace Single

open BinaryFormat

def ofPattern (negative : Bool) (magnitude : Nat) : Single :=
  Float32.ofBits (UInt32.ofNat (single.withSign negative magnitude))

def decode (x : Single) : BinaryDatum := single.decode x.toBits.toNat

def ofRatio (negative : Bool) (numerator denominator : Nat) : Single :=
  ofPattern negative (single.roundRatio numerator denominator)

def ofInt (n : Int) : Single := ofRatio (decide (n < 0)) n.natAbs 1

def ofNat (n : Nat) : Single := ofRatio false n 1

def ofDatum : BinaryDatum → Single
  | .nan => Float32.ofBits 0x7FC00000
  | .infinite negative => ofPattern negative single.infinityBits
  | .finite negative significand exponent =>
    let (n, d) := rescale significand 1 (-exponent)
    ofRatio negative n d

def ofDouble (x : Float) : Single := ofDatum (double.decode x.toBits.toNat)

def floor (x : Single) : Single :=
  match decode x with
  | .finite negative significand exponent =>
    if 0 ≤ exponent then x
    else
      let unit := Nat.pow 2 (-exponent).toNat
      let whole := significand / unit
      ofRatio negative (if negative ∧ significand % unit ≠ 0 then whole + 1 else whole) 1
  | _ => x

end Single
end RayScene
