import RayScene.CommandLine.Count

namespace RayScene.CommandLine

inductive Argument where
  | scene
  | samples
  | realTime
  | debug
  | headless
  | output
  | width
  | height
  | exportPath
  | help
  | version
  deriving DecidableEq, Repr

inductive ValueKind where
  | path
  | count
  deriving DecidableEq, Repr

namespace Argument

def named : List Argument :=
  [samples, realTime, debug, headless, output, width, height, exportPath, help, version]

/-- The name behind two hyphens; the scene file is known by its place. -/
def name : Argument → String
  | scene => ""
  | samples => "samples"
  | realTime => "realtime"
  | debug => "debug"
  | headless => "headless"
  | output => "output"
  | width => "width"
  | height => "height"
  | exportPath => "export"
  | help => "help"
  | version => "version"

def letter? : Argument → Option Char
  | output => some 'o'
  | help => some 'h'
  | version => some 'V'
  | _ => none

def ofName? (name : String) : Option Argument := named.find? (·.name = name)

def ofLetter? (letter : Char) : Option Argument := named.find? (·.letter? = some letter)

/-- The value of an argument that takes one, with the word that stands for it in messages. -/
def value? : Argument → Option (ValueKind × String)
  | scene => some (.path, "SCENE")
  | samples => some (.count, "SAMPLES")
  | output => some (.path, "OUTPUT")
  | width => some (.count, "WIDTH")
  | height => some (.count, "HEIGHT")
  | exportPath => some (.path, "PATH")
  | realTime | debug | headless | help | version => none

def shown (a : Argument) : String :=
  match a, a.value? with
  | scene, some (_, word) => s!"<{word}>"
  | _, some (_, word) => s!"--{a.name} <{word}>"
  | _, none => "--" ++ a.name

end Argument
end RayScene.CommandLine
