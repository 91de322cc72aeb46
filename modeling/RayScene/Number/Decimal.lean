import RayScene.Number.Binary

namespace RayScene

structure Decimal where
  negative : Bool
  digits : Nat
  exponent : Int
  deriving DecidableEq, Repr

namespace Decimal

/-- How many digits the decimal writing of `n` has; zero has one. -/
def digitCount (n : Nat) : Nat := (Nat.toDigits 10 n).length

def exponentBound : Nat := 400

/--
The magnitude as a quotient. An exponent far outside every format is cut off first: the result
still overflows or vanishes, and the quotient stays of a size that goes with the digits.
-/
def ratio (d : Decimal) : Nat × Nat :=
  if d.digits = 0 then (0, 1)
  else if 0 ≤ d.exponent then (d.digits * Nat.pow 10 (min d.exponent.toNat exponentBound), 1)
  else (d.digits, Nat.pow 10 (min (-d.exponent).toNat (exponentBound + digitCount d.digits)))

def round (f : BinaryFormat) (d : Decimal) : Nat :=
  let (numerator, denominator) := d.ratio
  f.withSign d.negative (f.roundRatio numerator denominator)

def ofDigits (digits : List Char) : Nat :=
  digits.foldl (fun n c => 10 * n + (c.toNat - '0'.toNat)) 0

def splitSign : List Char → Bool × List Char
  | '+' :: rest => (false, rest)
  | '-' :: rest => (true, rest)
  | rest => (false, rest)

def readExponent? : List Char → Option Int
  | [] => some 0
  | mark :: rest =>
    let (negative, digits) := splitSign rest
    if (mark = 'e' ∨ mark = 'E') ∧ digits ≠ [] ∧ digits.all Char.isDigit then
      some (if negative then -(ofDigits digits : Int) else ofDigits digits)
    else none

def ofChars? (text : List Char) : Option Decimal :=
  let (negative, rest) := splitSign text
  let whole := rest.takeWhile Char.isDigit
  let rest := rest.dropWhile Char.isDigit
  let (fraction, rest) := match rest with
    | '.' :: rest => (rest.takeWhile Char.isDigit, rest.dropWhile Char.isDigit)
    | rest => ([], rest)
  if whole = [] ∧ fraction = [] then none
  else
    (readExponent? rest).map fun exponent =>
      ⟨negative, ofDigits (whole ++ fraction), exponent - fraction.length⟩

end Decimal
end RayScene
