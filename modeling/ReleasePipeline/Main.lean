import ReleasePipeline.CommandLine.Run
import ReleasePipeline.Log.Line

/-!
# ReleasePipeline.Main

The program. It hands its arguments, its variables and its folder to `CommandLine.run`, and prints
what comes back. This outer layer neither starts processes nor reads folders: the run sees a disk
that holds the program's own folder and nothing else, so whatever a stage needs there is reported as
missing.
-/

namespace ReleasePipeline

/-- The variables that a run looks at. -/
def Setting.all : List String :=
  Setting.matrix ++ ["PATH", "HOME", "CI_LOG_FORMAT", "RUST_LOG"]

/-- Those of the variables that are set. -/
def readEnvironment : List String → IO Child.Environment
  | [] => return []
  | key :: rest => do
    let others ← readEnvironment rest
    match ← IO.getEnv key with
    | some value => return (key, Utf8.encode value) :: others
    | none => return others

/-- A disk that holds one folder. -/
def diskOf (folder : Path) : Node :=
  folder.segments.foldr (fun name inner => .folder [(.text name, inner)]) (.folder [])

end ReleasePipeline

open ReleasePipeline in
/-- Runs the program with its arguments. -/
def main (arguments : List String) : IO UInt32 := do
  let env ← readEnvironment Setting.all
  let folder : Path := ⟨toString (← IO.currentDir)⟩
  let context : CommandLine.Context := { env, folder, system := "linux", listing := .byName }
  let outcome := CommandLine.run context arguments (diskOf folder)
  for event in outcome.log do
    IO.eprintln (Log.line context.logsJson event)
  IO.print outcome.output
  IO.eprint outcome.errors
  return UInt32.ofNat outcome.status
