namespace RayScene

/-- A binary floating-point format, given by the widths of its significand and of its exponent. -/
structure BinaryFormat where
  significandBits : Nat
  exponentBits : Nat
  deriving DecidableEq, Repr

/-- What a bit pattern stands for; a finite datum is `significand * 2 ^ exponent`. -/
inductive BinaryDatum where
  | nan
  | infinite (negative : Bool)
  | finite (negative : Bool) (significand : Nat) (exponent : Int)
  deriving DecidableEq, Repr

namespace BinaryFormat

def single : BinaryFormat := ⟨24, 8⟩

def double : BinaryFormat := ⟨53, 11⟩

def hiddenBit (f : BinaryFormat) : Nat := Nat.pow 2 (f.significandBits - 1)

def leastExponent (f : BinaryFormat) : Int :=
  3 - Nat.pow 2 (f.exponentBits - 1) - f.significandBits

def infinityBits (f : BinaryFormat) : Nat := (Nat.pow 2 f.exponentBits - 1) * f.hiddenBit

def signBit (f : BinaryFormat) : Nat := Nat.pow 2 f.exponentBits * f.hiddenBit

def decode (f : BinaryFormat) (bits : Nat) : BinaryDatum :=
  let negative := decide (f.signBit ≤ bits)
  let magnitude := bits % f.signBit
  if f.infinityBits < magnitude then .nan
  else if magnitude = f.infinityBits then .infinite negative
  else if magnitude < f.hiddenBit then .finite negative magnitude f.leastExponent
  else
    .finite negative (f.hiddenBit + magnitude % f.hiddenBit)
      (f.leastExponent + (magnitude / f.hiddenBit : Nat) - 1)

/-- The quotient rounded to the nearest natural number, a half going to the even neighbour. -/
def divRound (numerator denominator : Nat) : Nat :=
  let quotient := numerator / denominator
  let twice := 2 * (numerator % denominator)
  if denominator < twice ∨ (twice = denominator ∧ quotient % 2 = 1) then quotient + 1 else quotient

def rescale (numerator denominator : Nat) (exponent : Int) : Nat × Nat :=
  if 0 ≤ exponent then (numerator, denominator * Nat.pow 2 exponent.toNat)
  else (numerator * Nat.pow 2 (-exponent).toNat, denominator)

def exponentFor (f : BinaryFormat) (numerator denominator : Nat) : Int :=
  let guess : Int := (numerator.log2 : Int) - denominator.log2 - f.significandBits
  let (n, d) := rescale numerator denominator guess
  if numerator = 0 then f.leastExponent
  else max f.leastExponent (if n / d < 2 * f.hiddenBit then guess else guess + 1)

/--
The bit pattern of the number nearest to `numerator / denominator`, ties going to the even
significand. The patterns of a format are ordered like its magnitudes, so a significand that
rounds up to the next power of two needs no special treatment.
-/
def roundRatio (f : BinaryFormat) (numerator denominator : Nat) : Nat :=
  let exponent := f.exponentFor numerator denominator
  let (n, d) := rescale numerator denominator exponent
  min f.infinityBits ((exponent - f.leastExponent).toNat * f.hiddenBit + divRound n d)

def withSign (f : BinaryFormat) (negative : Bool) (magnitude : Nat) : Nat :=
  if negative then f.signBit + magnitude else magnitude

end BinaryFormat
end RayScene
