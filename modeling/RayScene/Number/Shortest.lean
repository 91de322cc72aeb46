import RayScene.Number.Decimal

namespace RayScene.Shortest

/--
The numbers that a format reads back as `significand * 2 ^ exponent`, in units of a quarter of the
last place: everything from `low` to `high`, the ends too if the significand is even.
-/
structure Interval where
  low : Nat
  value : Nat
  high : Nat
  closed : Bool
  deriving DecidableEq, Repr

def interval (f : BinaryFormat) (significand : Nat) (exponent : Int) : Interval :=
  let narrow := significand = f.hiddenBit ∧ f.leastExponent < exponent
  ⟨4 * significand - (if narrow then 1 else 2), 4 * significand, 4 * significand + 2,
    significand % 2 = 0⟩

/--
The decimal grid of spacing `10 ^ place` laid over an interval whose unit is `2 ^ exponent`: a
grid point `n` stands at `n * step`, a point `x` of the interval at `x * unit`.
-/
structure Grid where
  step : Nat
  unit : Nat
  deriving DecidableEq, Repr

def grid (exponent place : Int) : Grid :=
  ⟨Nat.pow 10 place.toNat * Nat.pow 2 (-exponent).toNat,
    Nat.pow 10 (-place).toNat * Nat.pow 2 exponent.toNat⟩

def Interval.contains (i : Interval) (g : Grid) (n : Nat) : Bool :=
  let x := n * g.step
  if i.closed then decide (i.low * g.unit ≤ x ∧ x ≤ i.high * g.unit)
  else decide (i.low * g.unit < x ∧ x < i.high * g.unit)

/-- Of the two grid points around the value the nearer one that reads back; on a tie the upper. -/
def candidate? (i : Interval) (g : Grid) : Option Nat :=
  let below := i.value * g.unit / g.step
  let above := below + 1
  match i.contains g below, i.contains g above with
  | false, false => none
  | true, false => some below
  | false, true => some above
  | true, true =>
    if i.value * g.unit - below * g.step < above * g.step - i.value * g.unit then some below
    else some above

def search (i : Interval) (exponent : Int) : Nat → Int → Option (Nat × Int)
  | 0, _ => none
  | count + 1, place =>
    match candidate? i (grid exponent place) with
    | some n => some (n, place)
    | none => search i exponent count (place - 1)

def leadingPlace (numerator denominator : Nat) : Int :=
  (Decimal.digitCount numerator : Int) - Decimal.digitCount denominator

def stripZeros : Nat → Nat → Int → Nat × Int
  | 0, digits, place => (digits, place)
  | count + 1, digits, place =>
    if digits % 10 = 0 ∧ digits ≠ 0 then stripZeros count (digits / 10) (place + 1)
    else (digits, place)

def digits (f : BinaryFormat) (significand : Nat) (exponent : Int) : Nat × Int :=
  if significand = 0 then (0, 0)
  else
    let i := interval f significand exponent
    let unit := exponent - 2
    let (numerator, denominator) := BinaryFormat.rescale significand 1 (-exponent)
    match search i unit 20 (leadingPlace numerator denominator + 1) with
    | some (n, place) => stripZeros 20 n place
    | none => (significand, exponent)

end RayScene.Shortest
