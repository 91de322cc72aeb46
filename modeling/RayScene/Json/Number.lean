import RayScene.Json.Reader

namespace RayScene.Json

inductive Number where
  | natural (magnitude : Nat)
  | negative (magnitude : Nat)
  | float (value : Float)
  deriving Repr

namespace Number

def found : Number → Found
  | natural magnitude => .integer magnitude
  | negative magnitude => .integer (-(magnitude : Int))
  | float value => .float value

def toSingle : Number → Single
  | natural magnitude => Single.ofNat magnitude
  | negative magnitude => Single.ofInt (-(magnitude : Int))
  | float value => Single.ofDouble value

end Number

def greatestPower : Nat := 308

def powerOfTen (n : Nat) : Float := Double.ofDecimal ⟨false, 1, n⟩

/-- Divides by `10 ^ n`, in several steps if need be. -/
def divideByPower (x : Float) (n : Nat) : Float :=
  if n ≤ greatestPower then x / powerOfTen n
  else if x == 0 then x
  else divideByPower (x / powerOfTen greatestPower) (n - greatestPower)
termination_by n
decreasing_by simp_all [greatestPower]; omega

/-- The double of a significand and a power of ten, unless it overflows. -/
def scale (significand : Nat) (exponent : Int) : Option Float :=
  let x := Double.ofDecimal ⟨false, significand, 0⟩
  if exponent < 0 then some (divideByPower x (-exponent).toNat)
  else if exponent.toNat ≤ greatestPower then
    let y := x * powerOfTen exponent.toNat
    if y.isInf then none else some y
  else if x == 0 then some x
  else none

def signed (negative : Bool) (x : Float) : Float := if negative then -x else x

def float (negative : Bool) (significand : Nat) (exponent : Int) : Reader Number :=
  match scale significand exponent with
  | some x => return .float (signed negative x)
  | none => failHere .numberOutOfRange

def appendDigit? (bound n digit : Nat) : Option Nat :=
  if 10 * n + digit < bound then some (10 * n + digit) else none

def digitOf? (byte : UInt8) : Option Nat :=
  let c := Cursor.charOf byte
  if c.isDigit then some (c.toNat - '0'.toNat) else none

/-- Appends digits while the result stays below a bound; the count is of the bytes taken. -/
def appendDigits (bound : Nat) : Nat → Nat → List UInt8 → Nat × Nat × List UInt8
  | n, count, [] => (n, count, [])
  | n, count, byte :: rest =>
    match (digitOf? byte).bind (appendDigit? bound n) with
    | some n => appendDigits bound n (count + 1) rest
    | none => (n, count, byte :: rest)

def takeDigits (bound n : Nat) : Reader (Nat × Nat) := do
  let c ← get
  let (n, count, rest) := appendDigits bound n 0 c.rest
  set { c with rest, column := c.column + count }
  return (n, count)

/-- Takes the digits ahead, whatever they are, and counts them. -/
def countDigits : Reader Nat := do
  let c ← get
  let digits := c.rest.takeWhile fun byte => (digitOf? byte).isSome
  set { c with rest := c.rest.drop digits.length, column := c.column + digits.length }
  return digits.length

def significandBound : Nat := Nat.pow 2 64

def exponentBound : Nat := Nat.pow 2 31

def exponent (negative : Bool) (significand : Nat) (place : Int) : Reader Number := do
  skip
  let below ← match ← peek with
    | some '+' => skip; pure false
    | some '-' => skip; pure true
    | _ => pure false
  match ← peek with
  | none => failHere .endInValue
  | some c =>
    unless c.isDigit do
      skip
      failHere .invalidNumber
  let (n, _) ← takeDigits exponentBound 0
  match ← peek with
  | some c =>
    if c.isDigit then
      skip
      if significand ≠ 0 ∧ !below then failHere .numberOutOfRange
      let _ ← countDigits
      return .float (signed negative 0)
  | none => pure ()
  float negative significand (if below then place - n else place + n)

def fractionAndExponent (negative : Bool) (significand : Nat) (place : Int) : Reader Number := do
  match ← peek with
  | some '.' =>
    skip
    let (significand, count) ← takeDigits significandBound significand
    let dropped ← countDigits
    if count + dropped = 0 then
      match ← peek with
      | some _ => failNext .invalidNumber
      | none => failNext .endInValue
    match ← peek with
    | some 'e' | some 'E' => exponent negative significand (place - count)
    | _ => float negative significand (place - count)
  | some 'e' | some 'E' => exponent negative significand place
  | _ => float negative significand place

def endsWhole : Option Char → Bool
  | some c => !(['.', 'e', 'E'].contains c)
  | none => true

def unsignedNumber (negative : Bool) : Reader Number := do
  match ← peek with
  | none => failHere .endInValue
  | some c =>
    unless c.isDigit do
      skip
      failHere .invalidNumber
    let significand ← if c = '0' then do
        skip
        match ← peek with
        | some c => if c.isDigit then failNext .invalidNumber else pure 0
        | none => pure 0
      else Prod.fst <$> takeDigits significandBound 0
    let dropped ← countDigits
    if dropped = 0 ∧ endsWhole (← peek) then
      if !negative then return .natural significand
      else if 1 ≤ significand ∧ significand ≤ Nat.pow 2 63 then return .negative significand
      else return .float (signed true (Double.ofDecimal ⟨false, significand, 0⟩))
    else fractionAndExponent negative significand dropped

/-- Reads a number whose first byte, a digit or a minus sign, is ahead. -/
def number : Reader Number := do
  match ← peek with
  | some '-' =>
    skip
    unsignedNumber true
  | _ => unsignedNumber false

end RayScene.Json
