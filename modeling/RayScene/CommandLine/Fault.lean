import RayScene.CommandLine.Argument

namespace RayScene.CommandLine

inductive Advice where
  | escape
  /-- Write a similar argument, which would be used next to the others. -/
  | similar (meant : Argument) (used : List Argument)
  deriving DecidableEq, Repr

inductive ArgumentFault where
  | unexpected (word : String) (advice : Option Advice)
  | missingValue (argument : Argument)
  | invalidCount (value : String) (argument : Argument) (fault : CountFault)
  | repeated (argument : Argument)
  /-- A value for an argument that takes none, which is the last of the arguments in use. -/
  | needlessValue (value : String) (argument : Argument) (used : List Argument)
  | missingScene (used : List Argument)
  deriving DecidableEq, Repr

def programName : String := "rtr"

def generalUsage : String := s!"{programName} [OPTIONS] {Argument.scene.shown}"

def usageOf (used : List Argument) : String :=
  " ".intercalate (programName :: (used.eraseDups ++ [Argument.scene]).map Argument.shown)

namespace ArgumentFault

def summary : ArgumentFault → String
  | unexpected word _ => s!"unexpected argument '{word}' found"
  | missingValue a => s!"a value is required for '{a.shown}' but none was supplied"
  | invalidCount value a fault => s!"invalid value '{value}' for '{a.shown}': " ++ fault.message
  | repeated a => s!"the argument '{a.shown}' cannot be used multiple times"
  | needlessValue value a _ =>
    s!"unexpected value '{value}' for '{a.shown}' found; no more were expected"
  | missingScene _ =>
    s!"the following required arguments were not provided:\n  {Argument.scene.shown}"

def tip? : ArgumentFault → Option String
  | unexpected word (some .escape) => some s!"to pass '{word}' as a value, use '-- {word}'"
  | unexpected _ (some (.similar meant _)) => some s!"a similar argument exists: '--{meant.name}'"
  | _ => none

def usage? : ArgumentFault → Option String
  | unexpected _ (some (.similar meant used)) => some (usageOf (used ++ [meant]))
  | unexpected .. | repeated _ => some generalUsage
  | needlessValue _ a used => some (usageOf (used ++ [a]))
  | missingScene used => some (usageOf used)
  | missingValue _ | invalidCount .. => none

def message (fault : ArgumentFault) : String :=
  "\n\n".intercalate
    (["error: " ++ fault.summary] ++
      (fault.tip?.map ("  tip: " ++ ·)).toList ++
      (fault.usage?.map ("Usage: " ++ ·)).toList ++
      ["For more information, try '--help'.\n"])

end ArgumentFault

def versionText : String := s!"{programName} 0.1.0\n"

def helpText : String :=
  "Progressive ray tracer and SDF ray marcher driven by declarative scene files.\n\n" ++
  s!"Usage: {generalUsage}\n\n" ++
  "Arguments:\n" ++
  "  <SCENE>  Scene file to render\n\n" ++
  "Options:\n" ++
  "      --samples <SAMPLES>  Samples accumulated by an offline render\n" ++
  "      --realtime           Redraw continuously instead of accumulating\n" ++
  "      --debug              Verbose logging\n" ++
  "      --headless           Render offscreen and save a PNG\n" ++
  "  -o, --output <OUTPUT>    PNG file or directory for headless renders\n" ++
  "      --width <WIDTH>      [default: 960]\n" ++
  "      --height <HEIGHT>    [default: 540]\n" ++
  "      --export <PATH>      Write the scene's distance field to this JSON file and exit\n" ++
  "  -h, --help               Print help\n" ++
  "  -V, --version            Print version\n"

inductive ParseStop where
  | help
  | version
  | fault (fault : ArgumentFault)
  deriving DecidableEq, Repr

end RayScene.CommandLine
