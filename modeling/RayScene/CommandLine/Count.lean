namespace RayScene.CommandLine

inductive CountFault where
  | noText
  | notDigit
  | tooLarge
  | tooSmall
  | outOfRange (n : Int)
  deriving DecidableEq, Repr

def greatestCount : Nat := Nat.pow 2 32 - 1

def CountFault.message : CountFault → String
  | noText => "cannot parse integer from empty string"
  | notDigit => "invalid digit found in string"
  | tooLarge => "number too large to fit in target type"
  | tooSmall => "number too small to fit in target type"
  | outOfRange n => s!"{n} is not in 0..={greatestCount}"

/-- Reads digits up to the first character that is none, or that makes the number too large. -/
def readDigits (limit : Nat) (overflow : CountFault) : Nat → List Char → Except CountFault Nat
  | n, [] => .ok n
  | n, c :: rest =>
    if c.isDigit then
      let n := 10 * n + (c.toNat - '0'.toNat)
      if limit < n then .error overflow else readDigits limit overflow n rest
    else .error .notDigit

def readInteger : List Char → Except CountFault Int
  | [] => .error .noText
  | ['-'] | ['+'] => .error .notDigit
  | '-' :: digits => return -(← readDigits (Nat.pow 2 63) .tooSmall 0 digits)
  | '+' :: digits => return (← readDigits (Nat.pow 2 63 - 1) .tooLarge 0 digits)
  | digits => return (← readDigits (Nat.pow 2 63 - 1) .tooLarge 0 digits)

def readCount (text : String) : Except CountFault UInt32 := do
  let n ← readInteger text.toList
  if 0 ≤ n ∧ n ≤ greatestCount then return UInt32.ofNat n.toNat else throw (.outOfRange n)

end RayScene.CommandLine
