import RayScene.Number.Shortest
import RayScene.Number.Single

namespace RayScene

/--
How a number is written. Digits are placed around a point when the power of ten of the leading
digit lies from `least` up to but not including `bound`, and in front of an exponent otherwise.
-/
structure NumberStyle where
  least : Int
  bound : Int
  wholePoint : Bool
  exponentPlus : Bool
  deriving DecidableEq, Repr

namespace NumberStyle

def zeros (count : Nat) : String := "".pushn '0' count

def positional (wholePoint : Bool) (digits : String) (place : Int) : String :=
  if 0 ≤ place then digits ++ zeros place.toNat ++ (if wholePoint then ".0" else "")
  else
    let places := (-place).toNat
    if digits.length ≤ places then "0." ++ zeros (places - digits.length) ++ digits
    else
      String.ofList (digits.toList.take (digits.length - places)) ++ "." ++
        String.ofList (digits.toList.drop (digits.length - places))

def scientific (exponentPlus : Bool) (digits : String) (power : Int) : String :=
  let mantissa := match digits.toList with
    | first :: second :: rest => String.ofList (first :: '.' :: second :: rest)
    | _ => digits
  mantissa ++ "e" ++ (if exponentPlus ∧ 0 ≤ power then "+" else "") ++ toString power

def magnitude (style : NumberStyle) (digits : Nat) (place : Int) : String :=
  let text := toString digits
  let power := place + text.length - 1
  if digits = 0 then positional style.wholePoint text 0
  else if style.least ≤ power ∧ power < style.bound then positional style.wholePoint text place
  else scientific style.exponentPlus text power

/-- The shortest text that reads back; signs, `inf` and `NaN` are the same in all styles. -/
def write (style : NumberStyle) (f : BinaryFormat) : BinaryDatum → String
  | .nan => "NaN"
  | .infinite negative => if negative then "-inf" else "inf"
  | .finite negative significand exponent =>
    let (digits, place) := Shortest.digits f significand exponent
    (if negative then "-" else "") ++ style.magnitude digits place

/-- Always with a point or an exponent. -/
def literal : NumberStyle := ⟨-4, 16, true, false⟩

/-- Always positional, and a whole number has no point; the bounds lie outside every format. -/
def plain : NumberStyle := ⟨-2000, 2000, false, false⟩

/-- The numbers of a volume file. -/
def volume : NumberStyle := ⟨-6, 13, true, true⟩

def quoted : NumberStyle := ⟨-5, 16, true, true⟩

end NumberStyle

namespace Single

def write (style : NumberStyle) (x : Single) : String := style.write .single (decode x)

def literal (x : Single) : String := x.write .literal

def plain (x : Single) : String := x.write .plain

def ofDecimal (d : Decimal) : Single :=
  Float32.ofBits (UInt32.ofNat (d.round .single))

def ofChars? (text : List Char) : Option Single :=
  match Decimal.ofChars? text with
  | some d => some (ofDecimal d)
  | none =>
    let (negative, word) := Decimal.splitSign text
    match String.ofList (word.map Char.toLower) with
    | "inf" | "infinity" => some (ofDatum (.infinite negative))
    | "nan" => some (ofDatum .nan)
    | _ => none

end Single

def Double.ofDecimal (d : Decimal) : Float :=
  Float.ofBits (UInt64.ofNat (d.round .double))

def Double.quoted (x : Float) : String :=
  NumberStyle.quoted.write .double (BinaryFormat.double.decode x.toBits.toNat)

end RayScene
