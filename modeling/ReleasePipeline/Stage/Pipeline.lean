import ReleasePipeline.Job.Settings
import ReleasePipeline.Session
import ReleasePipeline.Toolchain

/-!
# ReleasePipeline.Stage.Pipeline

What the stages of one run share: the job, the machine, the search path for compilers and the runner
that carries out tool calls. The stages themselves work on a `Session`.
-/

namespace ReleasePipeline

/-- What the stages of one run share. -/
structure Pipeline (σ : Type) where
  job : Job
  host : Host
  searchPath : Option SearchPath
  runner : Runner σ

namespace Pipeline

/-- The job's build folder as a path, seen from the current folder. -/
def buildFolder (pipeline : Pipeline σ) : Stage σ Path :=
  Stage.path ⟨pipeline.job.buildFolder⟩

/-- The job's build folder, which has to exist. -/
def existingBuildFolder (pipeline : Pipeline σ) : Stage σ Path := do
  let folder ← pipeline.buildFolder
  if Disk.isFolder (← Stage.disk) folder then return folder
  else throw (.buildFolderMissing folder)

end Pipeline

end ReleasePipeline
