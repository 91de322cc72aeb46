import RayScene.Proofs.Shader.Names

/-!
What a shader declares, binds and uses as far as its text alone tells. The text is cut into words
and symbols, and a reader goes over them once with the local names of the blocks that are open.
-/

namespace RayScene.Wgsl

inductive Token where
  | word (text : String)
  | symbol (character : Char)
  deriving DecidableEq, Repr

def isWordChar (c : Char) : Bool := c.isAlphanum || c == '_'

inductive Cutting where
  /-- A word, the last letter first. -/
  | word (letters : List Char)
  | slash
  | comment
  deriving DecidableEq, Repr

namespace Cutting

def ended : List Char → List Token
  | [] => []
  | letters => [.word (String.ofList letters.reverse)]

def behindWord (letters : List Char) (c : Char) : Cutting × List Token :=
  if isWordChar c then (.word (c :: letters), [])
  else if c = '/' then (.slash, ended letters)
  else (.word [], ended letters ++ if c.isWhitespace then [] else [.symbol c])

/-- Takes one more character, and gives the tokens that it completes. -/
def step : Cutting → Char → Cutting × List Token
  | word letters, c => behindWord letters c
  | slash, c =>
    if c = '/' then (comment, [])
    else ((behindWord [] c).1, .symbol '/' :: (behindWord [] c).2)
  | comment, c => (if c = '\n' then word [] else comment, [])

def finish : Cutting → List Token
  | word letters => ended letters
  | slash => [.symbol '/']
  | comment => []

def run (cutting : Cutting) : List Char → List Token
  | [] => cutting.finish
  | c :: rest => (cutting.step c).2 ++ (cutting.step c).1.run rest

end Cutting

/-- The words and symbols of a text, without its comments. -/
def tokens (text : List Char) : List Token := (Cutting.word []).run text

inductive Role where
  | plain
  /-- As plain, unless an arrow comes up. -/
  | minus
  | member
  | type
  | function
  | struct
  | constant
  | variable
  | label
  | cast
  | attributeName (outer : Role)
  | arguments (name : String) (outer : Role)
  deriving DecidableEq, Repr

inductive Event where
  | declares (mention : Mention)
  | uses (mention : Mention)
  | binding (number : Nat)
  | label (number : Nat)
  deriving DecidableEq, Repr

structure Reader where
  role : Role
  /-- The names that the head of a function or of a loop gives to its body. -/
  header : Option (List String)
  /-- The names of the open blocks, the innermost block first. -/
  blocks : List (List String)
  pending : Option String
  deriving DecidableEq, Repr

def keywords : List (String × Role) :=
  [("fn", .function), ("struct", .struct), ("const", .constant), ("let", .variable),
    ("var", .variable), ("case", .label), ("bitcast", .cast)] ++
  ["for", "if", "else", "switch", "default", "return", "break", "true", "false"].map (·, .plain)

def keyword? (word : String) : Option Role := keywords.lookup word

def typeWords : List String := [
  "f32", "u32", "bool", "vec2f", "vec3f", "vec4f", "vec2u", "vec2i", "vec3u", "texture_2d", "array"]

/-- A float that is not finite is a word, which is no name of any shader. -/
def isNumber (word : String) : Bool :=
  word.toList.head?.any Char.isDigit || word = "inf" || word = "NaN"

def wholeNumber (word : String) : Nat :=
  Nat.ofDigitChars 10 (word.toList.takeWhile Char.isDigit) 0

namespace Reader

def start : Reader := ⟨.plain, none, [], none⟩

def inRole (r : Reader) (role : Role) : Reader := { r with role := role }

def scope (r : Reader) : List String := r.header.getD [] ++ r.blocks.flatten

def bind (r : Reader) (name : String) : Reader :=
  match r.header, r.blocks with
  | some names, _ => { r with header := some (names ++ [name]) }
  | none, names :: outer => { r with blocks := (name :: names) :: outer }
  | none, [] => r

def plainWord (r : Reader) (word : String) (next : Option Char) : Reader × List Event :=
  match keyword? word with
  | some role =>
    ({ r with role := role, header := if word = "for" then some [] else r.header }, [])
  | none =>
    if isNumber word then (r.inRole .plain, [])
    else if next = '(' then (r.inRole .plain, [.uses (callee r.scope word)])
    -- Only parameters and members have a colon behind them here.
    else if next = ':' then ((r.inRole .plain).bind word, [])
    else if typeWords.contains word then (r.inRole .plain, [])
    else (r.inRole .plain, (variableMentions r.scope word).map .uses)

def word (r : Reader) (word : String) (next : Option Char) : Reader × List Event :=
  match r.role with
  | .plain | .minus => r.plainWord word next
  | .member => (r.inRole .plain, [])
  | .type => (r.inRole .plain, if typeWords.contains word then [] else [.uses (.struct word)])
  | .function => ({ r with role := .plain, header := some [] }, [.declares (.function word)])
  | .struct => (r.inRole .plain, [.declares (.struct word)])
  | .constant => (r.inRole .plain, [.declares (.value word)])
  | .variable =>
    -- The words in front of the name are about its address space.
    if next = ':' ∨ next = '=' then
      if r.header = none ∧ r.blocks = [] then (r.inRole .plain, [.declares (.value word)])
      else ({ r with role := .plain, pending := some word }, [])
    else (r, [])
  | .label => (r.inRole .plain, [.label (wholeNumber word)])
  | .cast => (r.inRole .plain, [.uses (callee r.scope s!"bitcast<{word}>")])
  | .attributeName outer => (r.inRole (if next = '(' then .arguments word outer else outer), [])
  | .arguments name _ => (r, if name = "binding" then [.binding (wholeNumber word)] else [])

def symbol (r : Reader) (c : Char) : Reader :=
  match r.role, c with
  | .arguments _ outer, ')' => r.inRole outer
  | .arguments .., _ => r
  | role, '@' => r.inRole (.attributeName role)
  | _, '.' => r.inRole .member
  | _, ':' => r.inRole .type
  | _, '-' => r.inRole .minus
  | .minus, '>' => r.inRole .type
  | _, '\x7b' => { r with role := .plain, header := none, blocks := r.header.getD [] :: r.blocks }
  | _, '\x7d' => { r with role := .plain, blocks := r.blocks.tail }
  | _, ';' =>
    match r.pending with
    | some name => { r with pending := none }.bind name
    | none => r
  | _, _ => r

def nextSymbol : List Token → Option Char
  | .symbol c :: _ => some c
  | _ => none

def read (r : Reader) : List Token → List Event
  | [] => []
  | .word text :: rest =>
    (r.word text (nextSymbol rest)).2 ++ (r.word text (nextSymbol rest)).1.read rest
  | .symbol c :: rest => (r.symbol c).read rest

end Reader

def reading (r : Reader) (text : List Char) : List Event := r.read (tokens text)

def events (text : String) : List Event := reading .start text.toList

def Event.use? : Event → Option Mention
  | uses mention => some mention
  | _ => none

def Event.declared? : Event → Option Mention
  | declares mention => some mention
  | _ => none

def Event.binding? : Event → Option Nat
  | binding number => some number
  | _ => none

def Event.isLabel : Event → Bool
  | label _ => true
  | _ => false

def used (text : String) : List Mention := (events text).filterMap Event.use?

def declarations (text : String) : List Mention := (events text).filterMap Event.declared?

def declared (text : String) : List Mention := (declarations text).flatMap Mention.offers

def bindingNumbers (text : String) : List Nat := (events text).filterMap Event.binding?

/-- Whatever a text uses is declared in it exactly once, unless the language has it and the text
does not declare it again. -/
def Closed (text : String) : Prop :=
  ∀ mention ∈ used text, (declared text).count mention = if mention ∈ builtins then 0 else 1

/-- What stands behind the name of a function, up to the next declaration. -/
def functionEvents (name text : String) : List Event :=
  ((events text).dropWhile (· ≠ .declares (.function name))).tail.takeWhile (·.declared?.isNone)

/-- The labels of cases, each with what is used up to the next label. -/
def labelled : List Event → List (Nat × List Mention)
  | [] => []
  | .label number :: rest =>
    (number, (rest.takeWhile fun e => !e.isLabel).filterMap Event.use?) :: labelled rest
  | _ :: rest => labelled rest

end RayScene.Wgsl
