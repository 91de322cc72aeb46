import RayScene.Color.Error

namespace RayScene.Color

/-- The characters with the Unicode property `White_Space`. -/
def isBlank (c : Char) : Bool :=
  let n := c.toNat
  (9 ≤ n && n ≤ 13) || n == 0x20 || n == 0x85 || n == 0xA0 || n == 0x1680 ||
    (0x2000 ≤ n && n ≤ 0x200A) || n == 0x2028 || n == 0x2029 || n == 0x202F || n == 0x205F ||
    n == 0x3000

def isNameStart (c : Char) : Bool := c.isAlpha || c == '_'

def isNameRest (c : Char) : Bool := c.isAlphanum || c == '_'

def symbols : List Char := ['+', '-', '*', '/', '(', ')', ',', '.']

namespace TokenKind

def endsOperand : TokenKind → Bool
  | number _ | name _ => true
  | symbol sign => sign == ')'

end TokenKind

/-- The length of an exponent at the front of a text; a mark without digits is none. -/
def exponentLength : List Char → Nat
  | mark :: rest =>
    if mark = 'e' ∨ mark = 'E' then
      let sign := match rest with
        | '+' :: _ | '-' :: _ => 1
        | _ => 0
      let digits := ((rest.drop sign).takeWhile Char.isDigit).length
      if digits = 0 then 0 else 1 + sign + digits
    else 0
  | [] => 0

def numberLength (text : List Char) : Nat :=
  let run := (text.takeWhile fun c => c.isDigit || c == '.').length
  run + exponentLength (text.drop run)

def startsNumber (afterOperand : Bool) : List Char → Bool
  | '.' :: c :: _ => !afterOperand && c.isDigit
  | c :: _ => c.isDigit
  | [] => false

def readNumber (column : Nat) (text : List Char) : Except ExprError TokenKind :=
  match Decimal.ofChars? text with
  | none => .error ⟨column, .malformedNumber (String.ofList text)⟩
  | some d =>
    let value := Single.ofDecimal d
    if Scalar.isFinite value then .ok (.number value)
    else .error ⟨column, .numberOutOfRange (String.ofList text)⟩

def firstToken (column : Nat) (afterOperand : Bool) (text : List Char) :
    Except ExprError (TokenKind × Nat) := do
  if startsNumber afterOperand text then
    let length := numberLength text
    return (← readNumber column (text.take length), length)
  match text with
  | c :: _ =>
    if isNameStart c then
      let name := text.takeWhile isNameRest
      return (.name (String.ofList name), name.length)
    else if symbols.contains c then return (.symbol c, 1)
    else throw ⟨column, .unexpectedCharacter c⟩
  | [] => throw ⟨column, .unexpectedEnd⟩

def tokensFrom : Nat → Nat → Bool → List Char → Except ExprError (List Token)
  | 0, _, _, _ => .ok []
  | _, _, _, [] => .ok []
  | count + 1, column, afterOperand, c :: rest =>
    if isBlank c then tokensFrom count (column + 1) afterOperand rest
    else do
      let (kind, length) ← firstToken column afterOperand (c :: rest)
      let tokens ← tokensFrom count (column + length) kind.endsOperand ((c :: rest).drop length)
      return ⟨kind, column⟩ :: tokens

/-- The tokens of a text; every one of them and every blank takes at least one character. -/
def tokenize (text : List Char) : Except ExprError (List Token) :=
  tokensFrom text.length 1 false text

end RayScene.Color
