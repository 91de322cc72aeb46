import RayScene.CommandLine.Parse
import RayScene.Files.Tree
import RayScene.Viewer.Action
import RayScene.Volume.File

/-!
What the program does for a command line: it reads a scene, and exports its distance field or draws
it. Drawing needs a display, which only the surroundings of the program can have.
-/

namespace RayScene.CommandLine

open Files
open Render

structure Job where
  scenePath : String
  samples : Option UInt32 := none
  realTime : Bool := false
  headless : Bool := false
  output : Option String := none
  viewport : Viewport
  exportPath : Option String := none
  deriving DecidableEq, Repr

/-- The job of a command line, in a viewport of at least one pixel. -/
def Arguments.job (a : Arguments) : Job where
  scenePath := a.scene
  samples := a.samples
  realTime := a.realTime
  headless := a.headless
  output := a.output
  viewport := ⟨max a.width 1, max a.height 1⟩
  exportPath := a.exportPath

inductive JobFault where
  | unreadable (path : String) (fault : FileFault)
  | viewer (error : ViewerError)
  | nothingToExport
  | sampling (error : ExportError Single)
  | uncreatable (path : String) (fault : FileFault)
  | emptyViewport (viewport : Viewport)
  | noDisplay

namespace JobFault

def message : JobFault → String
  | unreadable path _ => s!"could not read scene `{path}`"
  | viewer error => error.message
  | nothingToExport => "nothing to export"
  | sampling error => error.message
  | uncreatable path _ => s!"cannot create `{path}`"
  | emptyViewport v =>
    "headless viewport must not be empty, got Viewport \x7b " ++
      s!"width: {v.width}, height: {v.height} \x7d"
  | noDisplay => "no display is available"

/-- The reason behind the message, if it is not the message itself. -/
def cause? : JobFault → Option FileFault
  | unreadable _ fault | uncreatable _ fault => some fault
  | _ => none

def report (fault : JobFault) : String :=
  match fault.cause? with
  | none => s!"Error: {fault.message}\n"
  | some cause => s!"Error: {fault.message}\n\nCaused by:\n    {cause.message}\n"

end JobFault

inductive Task where
  | writeFile (path : String) (text : String)
  | draw (viewer : Viewer)

namespace Job

def viewer (job : Job) (source : String) : Viewer :=
  let compiled := (((Viewer.new job.viewport).apply (.sourceLoaded source)).1.apply .compile).1
  match job.samples with
  | some count => (compiled.apply (.setMaxSamples count)).1
  | none => compiled

def exportText (v : Viewer) : Except JobFault String :=
  match (v.apply .exportVolume).2 with
  | .startExport scene settings :: _ =>
    match (exportVolume (Sampler.ofScene scene) settings fun _ => false).2 with
    | .ok volume => .ok volume.write
    | .error error => .error (.sampling error)
  | _ => .error .nothingToExport

/-- The task of a job whose scene has this text; only a windowed job goes on without a scene. -/
def task (job : Job) (source : String) : Except JobFault Task :=
  let v := job.viewer source
  match job.exportPath, v.error with
  | some _, some error => .error (.viewer error)
  | some path, none => (exportText v).map (.writeFile path)
  | none, error? =>
    if job.headless then
      match error? with
      | some error => .error (.viewer error)
      | none => if job.viewport.isEmpty then .error (.emptyViewport job.viewport) else .ok (.draw v)
    else .ok (.draw v)

def readSource (job : Job) (t : Tree) : Except JobFault String :=
  match t.read job.scenePath >>= textOfBytes with
  | .ok source => .ok source
  | .error fault => .error (.unreadable job.scenePath fault)

/-- Runs the job on files alone. -/
def run (job : Job) (t : Tree) : Except JobFault Tree := do
  match ← job.task (← job.readSource t) with
  | .draw _ => throw .noDisplay
  | .writeFile path text =>
    match t.write path text.toUTF8.toList with
    | .ok (t, _) => return t
    | .error fault => throw (.uncreatable path fault)

end Job

structure Exit where
  code : UInt8
  stdout : String
  stderr : String
  deriving DecidableEq, Repr

namespace Exit

def success : Exit := ⟨0, "", ""⟩

def ofStop : ParseStop → Exit
  | .help => ⟨0, helpText, ""⟩
  | .version => ⟨0, versionText, ""⟩
  | .fault fault => ⟨2, "", fault.message⟩

def ofFault (fault : JobFault) : Exit := ⟨1, "", fault.report⟩

end Exit

/-- Runs a command line on files alone. -/
def run (words : List String) (t : Tree) : Exit × Tree :=
  match parse words with
  | .error stop => (.ofStop stop, t)
  | .ok arguments =>
    match arguments.job.run t with
    | .ok t => (.success, t)
    | .error fault => (.ofFault fault, t)

end RayScene.CommandLine
