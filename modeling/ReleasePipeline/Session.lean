import ReleasePipeline.Disk.Operations
import ReleasePipeline.Log.Event
import ReleasePipeline.ToolCall
import ReleasePipeline.Workspace

/-!
# ReleasePipeline.Session

The state that a stage works on, and the few things a stage can do to it. A stage ends with a value
or a failure, and either way with the state it reached: nothing that happened before a failure is
undone, except that `within` always goes back to the folder it came from.

External tools are behind a `Runner`: any function that takes a call and may change the disk, report
events and remember things of its own. It cannot touch the workspace.
-/

namespace ReleasePipeline

/-! ### State -/

/-- What a tool call can change: the disk, the events so far, oldest first, and whatever the runner
itself remembers. -/
structure Bench (σ : Type) where
  disk : Node
  events : List Event
  memory : σ

/-- What a stage works on. -/
structure Session (σ : Type) where
  workspace : Workspace
  bench : Bench σ

/-- A part of a stage. -/
abbrev Stage (σ α : Type) := EStateM Failure (Session σ) α

/-- Whatever runs tools to completion. A tool that ends badly is a failure of its call. -/
abbrev Runner (σ : Type) := ToolCall → EStateM Failure (Bench σ) Unit

/-- The bench with an event reported. -/
def Bench.report (bench : Bench σ) (event : Event) : Bench σ :=
  { bench with events := bench.events ++ [event] }

/-- The facts about the machine that the pipeline runs on: the folder of the process, the user's
home folder and how the disk orders listings. -/
structure Host where
  folder : Path
  home : Option String
  listing : Disk.ListingOrder

namespace Stage

/-! ### Steps -/

/-- Reports an event. -/
def report (event : Event) : Stage σ Unit :=
  modify fun s => { s with bench := s.bench.report event }

/-- The disk as it is now. -/
def disk : Stage σ Node := do
  return (← get).bench.disk

/-- A path seen from the current folder. -/
def path (p : Path) : Stage σ Path := do
  return (← get).workspace.path p

/-- The current folder. -/
def cwd : Stage σ Path := do
  return (← get).workspace.cwd

/-- Does something to the disk and gives its outcome as a value. -/
def onDisk (op : DiskM α) : Stage σ (Except Fault α) := fun s =>
  match op s.bench.disk with
  | .ok a disk => .ok (.ok a) { s with bench := { s.bench with disk } }
  | .error fault disk => .ok (.error fault) { s with bench := { s.bench with disk } }

/-- Does something to the disk; a fault is a failure of that action on that path. -/
def attempt (action : String) (p : EntryPath) (op : DiskM α) : Stage σ α := do
  match ← onDisk op with
  | .ok a => return a
  | .error fault => throw (.diskFailed action p fault)

/-- Has a tool called. -/
def call (runner : Runner σ) (call : ToolCall) : Stage σ Unit := fun s =>
  match runner call s.bench with
  | .ok () bench => .ok () { s with bench }
  | .error failure bench => .error failure { s with bench }

/-! ### Folders -/

/-- Makes a folder current and gives the guard to go back with. -/
def enter (folder : Path) : Stage σ Guard := do
  let s ← get
  match s.workspace.enter s.bench.disk folder with
  | .ok (guard, workspace) =>
    set { s with workspace }
    report (.entered workspace.cwd)
    return guard
  | .error failure => throw failure

/-- Goes back through a guard. -/
def leave (guard : Guard) : Stage σ Unit := do
  report (.returned guard.previous)
  modify fun s => { s with workspace := s.workspace.leave guard }

/-- Does something inside a folder and goes back, also after a failure. -/
def within (folder : Path) (body : Stage σ α) : Stage σ α := do
  let guard ← enter folder
  fun s =>
    match body s with
    | .ok a s =>
      match leave guard s with
      | .ok () s => .ok a s
      | .error failure s => .error failure s
    | .error failure s =>
      match leave guard s with
      | .ok () s => .error failure s
      | .error failure s => .error failure s

end Stage

end ReleasePipeline
