namespace RayScene.Files

inductive FileFault where
  | notFound
  | isDirectory
  | notDirectory
  | taken
  | notEmpty
  | inside
  | notText
  | other (reason : String)
  deriving DecidableEq, Repr

def FileFault.message : FileFault → String
  | notFound => "No such file or directory (os error 2)"
  | taken => "File exists (os error 17)"
  | notDirectory => "Not a directory (os error 20)"
  | isDirectory => "Is a directory (os error 21)"
  | inside => "Invalid argument (os error 22)"
  | notEmpty => "Directory not empty (os error 39)"
  | notText => "stream did not contain valid UTF-8"
  | other reason => reason

def textOfBytes (bytes : List UInt8) : Except FileFault String :=
  match String.fromUTF8? ⟨bytes.toArray⟩ with
  | some text => .ok text
  | none => .error .notText

abbrev Path := List String

inductive Entry where
  | file (bytes : List UInt8)
  | directory
  deriving DecidableEq, Repr

structure Tree where
  entries : List (Path × Entry)
  workingDirectory : Path
  deriving Repr

inductive Change where
  | created (path : Path)
  | written (path : Path)
  | removed (path : Path)
  | renamed (source target : Path)
  deriving DecidableEq, Repr

namespace Tree

def entry? (t : Tree) (path : Path) : Option Entry :=
  if path = [] then some .directory else t.entries.lookup path

def put (t : Tree) (path : Path) (entry : Entry) : Tree :=
  { t with entries := (path, entry) :: t.entries.filter (·.1 ≠ path) }

/-- Puts an entry together with the directories that it lies in. -/
def place (t : Tree) (path : Path) (entry : Entry) : Tree :=
  let parents := (List.range path.length).map path.take
  let missing := parents.filter fun parent => (t.entry? parent).isNone
  (missing.foldl (fun t parent => t.put parent .directory) t).put path entry

def erase (t : Tree) (path : Path) : Tree :=
  { t with entries := t.entries.filter (·.1 ≠ path) }

/-- Follows names from a path on. All of them but the last one have to be directories. -/
def follow (t : Tree) : Path → List String → Except FileFault Path
  | here, [] => .ok here
  | here, name :: names =>
    match t.entry? here with
    | none => .error .notFound
    | some (.file _) => .error .notDirectory
    | some .directory =>
      if name = "" ∨ name = "." then follow t here names
      else if name = ".." then follow t here.dropLast names
      else follow t (here ++ [name]) names

def locate (t : Tree) (text : String) : Except FileFault Path :=
  if text = "" then .error .notFound
  else t.follow (if text.startsWith "/" then [] else t.workingDirectory) (text.splitOn "/")

def find (t : Tree) (text : String) : Except FileFault (Path × Entry) := do
  let path ← t.locate text
  match t.entry? path with
  | some entry => return (path, entry)
  | none => throw .notFound

def read (t : Tree) (text : String) : Except FileFault (List UInt8) := do
  match ← t.find text with
  | (_, .file bytes) => return bytes
  | (_, .directory) => throw .isDirectory

/-- Creates a file or replaces its contents. -/
def write (t : Tree) (text : String) (bytes : List UInt8) :
    Except FileFault (Tree × List Change) := do
  let path ← t.locate text
  match t.entry? path with
  | none => return (t.put path (.file bytes), [.created path])
  | some (.file _) => return (t.put path (.file bytes), [.written path])
  | some .directory => throw .isDirectory

def makeDirectory (t : Tree) (text : String) : Except FileFault (Tree × List Change) := do
  let path ← t.locate text
  match t.entry? path with
  | none => return (t.put path .directory, [.created path])
  | some _ => throw .taken

def remove (t : Tree) (text : String) : Except FileFault (Tree × List Change) := do
  match ← t.find text with
  | (path, .file _) => return (t.erase path, [.removed path])
  | (_, .directory) => throw .isDirectory

/-- Whether something lies in a directory, at any depth. -/
def hasEntriesBelow (t : Tree) (path : Path) : Bool :=
  t.entries.any fun (other, _) => path.length < other.length && path.isPrefixOf other

def move (t : Tree) (source target : Path) : Tree :=
  { t with entries := (t.entries.filter (·.1 ≠ target)).map fun (path, entry) =>
      if source.isPrefixOf path then (target ++ path.drop source.length, entry)
      else (path, entry) }

def replaceFault? (t : Tree) (target : Path) : Entry → Option Entry → Option FileFault
  | _, none => none
  | .file _, some (.file _) => none
  | .file _, some .directory => some .isDirectory
  | .directory, some (.file _) => some .notDirectory
  | .directory, some .directory => if t.hasEntriesBelow target then some .notEmpty else none

/-- Renames a file or a directory; nothing changes if it has the name already. -/
def rename (t : Tree) (source target : String) : Except FileFault (Tree × List Change) := do
  let (sourcePath, entry) ← t.find source
  let targetPath ← t.locate target
  if sourcePath = targetPath then return (t, [])
  if sourcePath.isPrefixOf targetPath then throw .inside
  match t.replaceFault? targetPath entry (t.entry? targetPath) with
  | some fault => throw fault
  | none => return (t.move sourcePath targetPath, [.renamed sourcePath targetPath])

end Tree
end RayScene.Files
