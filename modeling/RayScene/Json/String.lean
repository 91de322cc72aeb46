import RayScene.Json.Reader

namespace RayScene.Json

def hexValue? (byte : UInt8) : Option Nat :=
  let c := Cursor.charOf byte
  if c.isDigit then some (c.toNat - '0'.toNat)
  else if 'a' ≤ c ∧ c ≤ 'f' then some (c.toNat - 'a'.toNat + 10)
  else if 'A' ≤ c ∧ c ≤ 'F' then some (c.toNat - 'A'.toNat + 10)
  else none

def hexNumber? (bytes : List UInt8) : Option Nat :=
  bytes.foldlM (fun n byte => (hexValue? byte).map (16 * n + ·)) 0

/-- Takes four hexadecimal digits; if fewer bytes are left it takes those and fails. -/
def hexEscape : Reader Nat := do
  let c ← get
  let digits := c.rest.take 4
  if digits.length < 4 then
    for _ in digits do skip
    failHere .endInString
  for _ in digits do skip
  match hexNumber? digits with
  | some n => return n
  | none => failHere .invalidEscape

def peekInString : Reader Char := do
  match ← peek with
  | some c => return c
  | none => failHere .endInString

def nextInString : Reader Char := do
  let c ← peekInString
  skip
  return c

def utf8 (code : Nat) : List UInt8 := String.utf8EncodeChar (Char.ofNat code)

def isLeading (code : Nat) : Bool := 0xD800 ≤ code && code ≤ 0xDBFF

def isTrailing (code : Nat) : Bool := 0xDC00 ≤ code && code ≤ 0xDFFF

def expectInPair (expected : Char) : Reader Unit := do
  let c ← peekInString
  skip
  if c ≠ expected then failHere .unfinishedSurrogates

/-- Reads a code point behind `\u`; two escapes can make up one. -/
def codePoint : Reader (List UInt8) := do
  let code ← hexEscape
  if isTrailing code then failHere .loneSurrogate
  if isLeading code then
    expectInPair '\\'
    expectInPair 'u'
    let low ← hexEscape
    if !isTrailing low then failHere .loneSurrogate
    return utf8 (0x10000 + 1024 * (code - 0xD800) + (low - 0xDC00))
  return utf8 code

def simpleEscapes : List (Char × Nat) :=
  [('"', 0x22), ('\\', 0x5C), ('/', 0x2F), ('b', 8), ('f', 12), ('n', 10), ('r', 13), ('t', 9)]

def escape : Reader (List UInt8) := do
  let c ← nextInString
  if c = 'u' then codePoint
  else
    match simpleEscapes.lookup c with
    | some code => return utf8 code
    | none => failHere .invalidEscape

/-- Reads the bytes up to the closing quote, in at most `count` steps. -/
def stringBytes : Nat → Reader (List UInt8)
  | 0 => failHere .endInString
  | count + 1 => do
    match (← get).rest with
    | [] => failHere .endInString
    | byte :: _ =>
      skip
      let c := Cursor.charOf byte
      if c = '"' then return []
      else if c = '\\' then
        let bytes ← escape
        return bytes ++ (← stringBytes count)
      else if byte < 0x20 then failHere .controlCharacter
      else return byte :: (← stringBytes count)

def stringRest : Reader String := do
  let bytes ← stringBytes ((← bytesLeft) + 1)
  return (String.fromUTF8? ⟨bytes.toArray⟩).getD ""

def skipEscape : Reader Unit := do
  let c ← nextInString
  if c = 'u' then
    let _ ← hexEscape
  else if (simpleEscapes.lookup c).isNone then failHere .invalidEscape

/-- Skips the rest of a string whose value does not matter, in at most `count` steps. -/
def skipString : Nat → Reader Unit
  | 0 => failHere .endInString
  | count + 1 => do
    match (← get).rest with
    | [] => failHere .endInString
    | byte :: _ =>
      let c := Cursor.charOf byte
      if byte < 0x20 then failHere .controlCharacter
      skip
      if c = '"' then return ()
      if c = '\\' then skipEscape
      skipString count

end RayScene.Json
