import RayScene.Files.Tree

namespace RayScene.Files

inductive WatchError where
  | unresolved (path : String) (fault : FileFault)
  | noParent
  deriving DecidableEq, Repr

def WatchError.message : WatchError → String
  | unresolved path _ => s!"cannot resolve scene path `{path}`"
  | noParent => "scene path has no parent directory"

structure Watch where
  path : Path
  deriving DecidableEq, Repr

namespace Watch

/-- Watches the path of something that exists. -/
def start (t : Tree) (text : String) : Except WatchError Watch :=
  match t.find text with
  | .error fault => .error (.unresolved text fault)
  | .ok ([], _) => .error .noParent
  | .ok (path, _) => .ok ⟨path⟩

def notices (w : Watch) : Change → Bool
  | .created path | .written path => path = w.path
  | .renamed source target => source = w.path || target = w.path
  | .removed _ => false

end Watch
end RayScene.Files
