import ReleasePipeline.Disk.Walk
import ReleasePipeline.Failure

/-!
# ReleasePipeline.Workspace

The pipeline's own idea of where it is: the root of the project and the current folder. The folder
of the process itself never changes; relative paths and tool calls are seen from the current folder
instead. Entering a folder gives a guard that remembers the folder it left, and going back through
the guard makes that folder current again.
-/

namespace ReleasePipeline

/-- The root of the project and the current folder. -/
structure Workspace where
  root : Path
  cwd : Path
  deriving DecidableEq, Repr

/-- The folder that was current before a folder was entered. -/
structure Guard where
  previous : Path
  deriving DecidableEq, Repr

namespace Workspace

/-- A workspace at a root given as text, seen from the folder of the process. -/
def open? (processFolder : Path) (root : Path) : Except Failure Workspace :=
  match processFolder.absolute? root with
  | some root => .ok ⟨root, root⟩
  | none => .error (.diskFailed "resolve" root .emptyPath)

/-- A path seen from the current folder. -/
def path (workspace : Workspace) (p : Path) : Path :=
  workspace.cwd / p

/-- Makes a folder current, if it is one. Nothing is created. -/
def enter (workspace : Workspace) (disk : Node) (folder : Path) :
    Except Failure (Guard × Workspace) :=
  let target := workspace.path folder
  if Disk.isFolder disk target then .ok (⟨workspace.cwd⟩, { workspace with cwd := target })
  else .error (.diskFailed "enter" target .notFound)

/-- Goes back through a guard. -/
def leave (workspace : Workspace) (guard : Guard) : Workspace :=
  { workspace with cwd := guard.previous }

/-- Going back undoes entering. -/
theorem leave_of_enter {workspace entered : Workspace} {disk : Node} {folder : Path}
    {guard : Guard} (h : workspace.enter disk folder = .ok (guard, entered)) :
    entered.leave guard = workspace := by
  dsimp only [enter] at h
  split at h
  · cases h; rfl
  · cases h

end Workspace

end ReleasePipeline
