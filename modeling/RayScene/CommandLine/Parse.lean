import RayScene.CommandLine.Fault
import RayScene.CommandLine.Similarity

/-!
Reading a command line from left to right. A value in a word of its own is checked when the next
argument begins, so a word that is no argument comes before what is wrong with the value in front of
it.
-/

namespace RayScene.CommandLine

structure Arguments where
  scene : String
  samples : Option UInt32
  realTime : Bool
  debug : Bool
  headless : Bool
  output : Option String
  width : UInt32
  height : UInt32
  exportPath : Option String
  deriving DecidableEq, Repr

structure ParseState where
  /-- The arguments that have been checked, with their values; flags have an empty one. -/
  given : List (Argument × String)
  /-- An argument that has not been checked, with its value if that has been read. -/
  pending : Option (Argument × Option String)
  verbatim : Bool
  deriving DecidableEq, Repr

namespace ParseState

def initial : ParseState := ⟨[], none, false⟩

def has (s : ParseState) (a : Argument) : Bool := s.given.any (·.1 = a)

def used (s : ParseState) : List Argument := (s.given.map (·.1)).filter (· ≠ .scene)

def valueFault? (a : Argument) (value : String) : Option ArgumentFault :=
  match a.value? with
  | some (.path, _) => if value = "" then some (.missingValue a) else none
  | some (.count, _) =>
    match readCount value with
    | .error fault => some (.invalidCount value a fault)
    | .ok _ => none
  | none => none

def accept (s : ParseState) (a : Argument) (value : String) : Except ParseStop ParseState :=
  if a = .help then .error .help
  else if a = .version then .error .version
  else if s.has a then .error (.fault (.repeated a))
  else
    match valueFault? a value with
    | some fault => .error (.fault fault)
    | none => .ok { s with given := s.given ++ [(a, value)] }

def settle (s : ParseState) : Except ParseStop ParseState :=
  match s.pending with
  | none => .ok s
  | some (a, none) => .error (.fault (.missingValue a))
  | some (a, some value) => { s with pending := none }.accept a value

def settleThen (s : ParseState) (a : Argument) (value : String) : Except ParseStop ParseState := do
  (← s.settle).accept a value

def await (s : ParseState) (a : Argument) : Except ParseStop ParseState := do
  return { ← s.settle with pending := some (a, none) }

/-- The pending argument, if its value has still to be read. -/
def awaiting? (s : ParseState) : Option Argument :=
  match s.pending with
  | some (a, none) => some a
  | _ => none

def hasScene (s : ParseState) : Bool := s.has .scene || s.pending.any (·.1 = .scene)

/-- The arguments in use, those included whose check is still to come and will not fail. -/
def settledUsed (s : ParseState) : List Argument :=
  match s.settle with
  | .ok s => s.used
  | .error _ => s.used

def long (s : ParseState) (name : String) (attached : Option String) :
    Except ParseStop ParseState :=
  match Argument.ofName? name with
  | none =>
    let advice := match mostSimilar? name (Argument.named.map fun a => (a.name, a)) with
      | some meant => .similar meant s.settledUsed
      | none => .escape
    .error (.fault (.unexpected ("--" ++ name) (some advice)))
  | some a =>
    match a.value?, attached with
    | none, none => s.settleThen a ""
    | none, some value => .error (.fault (.needlessValue value a s.used))
    | some _, some value => s.settleThen a value
    | some _, none => s.await a

/-- Reads letters behind one hyphen; what follows a letter that takes a value is the value. -/
def short (s : ParseState) : List Char → Except ParseStop ParseState
  | [] => .ok s
  | letter :: rest =>
    match Argument.ofLetter? letter with
    | none => .error (.fault (.unexpected ("-" ++ letter.toString) (some .escape)))
    | some a =>
      match a.value?, rest with
      | none, _ => do short (← s.settleThen a "") rest
      | some _, [] => s.await a
      | some _, '=' :: value | some _, value => s.settleThen a (String.ofList value)

def plain (s : ParseState) (word : String) : Except ParseStop ParseState :=
  match s.verbatim, s.awaiting? with
  | false, some a => .ok { s with pending := some (a, some word) }
  | _, _ =>
    if s.hasScene then .error (.fault (.unexpected word none))
    else do return { ← s.settle with pending := some (.scene, some word) }

def splitValue (cs : List Char) : String × Option String :=
  match cs.dropWhile (· ≠ '=') with
  | [] => (String.ofList cs, none)
  | _ :: value => (String.ofList (cs.takeWhile (· ≠ '=')), some (String.ofList value))

def step (s : ParseState) (word : String) : Except ParseStop ParseState :=
  if s.verbatim then s.plain word
  else
    match word.toList with
    | ['-', '-'] => .ok { s with verbatim := true }
    | '-' :: '-' :: cs =>
      let (name, attached) := splitValue cs
      s.long name attached
    | '-' :: c :: cs => s.short (c :: cs)
    | _ => s.plain word

end ParseState

def Arguments.ofGiven (given : List (Argument × String)) (scene : String) : Arguments :=
  let count (a : Argument) : Option UInt32 := (given.lookup a).bind fun v => (readCount v).toOption
  let flag (a : Argument) : Bool := given.any (·.1 = a)
  { scene
    samples := count .samples
    realTime := flag .realTime
    debug := flag .debug
    headless := flag .headless
    output := given.lookup .output
    width := (count .width).getD 960
    height := (count .height).getD 540
    exportPath := given.lookup .exportPath }

/-- Reads the words of a command line. -/
def parse (words : List String) : Except ParseStop Arguments := do
  let s ← (← words.foldlM ParseState.step .initial).settle
  match s.given.lookup .scene with
  | some scene => return .ofGiven s.given scene
  | none => throw (.fault (.missingScene s.used))

end RayScene.CommandLine
