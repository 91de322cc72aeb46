import RayScene.CommandLine.Job

namespace RayScene.CommandLine

open Files

def faultOfError (error : IO.Error) : FileFault :=
  match error with
  | .noFileOrDirectory .. => .notFound
  | .alreadyExists .. => .taken
  | .inappropriateType _ code _ =>
    if code = 20 then .notDirectory else .isDirectory
  | _ => .other (toString error)

def readFile (path : String) : IO (Except FileFault String) := do
  try
    let bytes ← IO.FS.readBinFile path
    return textOfBytes bytes.toList
  catch error => return .error (faultOfError error)

def writeFile (path text : String) : IO (Except FileFault Unit) := do
  try
    IO.FS.writeFile path text
    return .ok ()
  catch error => return .error (faultOfError error)

def perform (job : Job) : IO Exit := do
  match ← readFile job.scenePath with
  | .error fault => return .ofFault (.unreadable job.scenePath fault)
  | .ok source =>
    match job.task source with
    | .error fault => return .ofFault fault
    | .ok (.draw _) => return .ofFault .noDisplay
    | .ok (.writeFile path text) =>
      match ← writeFile path text with
      | .ok () => return .success
      | .error fault => return .ofFault (.uncreatable path fault)

def runProgram (words : List String) : IO UInt32 := do
  let exit ← match parse words with
    | .error stop => pure (.ofStop stop)
    | .ok arguments => perform arguments.job
  (← IO.getStdout).putStr exit.stdout
  (← IO.getStderr).putStr exit.stderr
  return exit.code.toUInt32

end RayScene.CommandLine

def main (words : List String) : IO UInt32 := RayScene.CommandLine.runProgram words
