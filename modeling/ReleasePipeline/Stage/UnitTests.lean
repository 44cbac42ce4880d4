import ReleasePipeline.Stage.Pipeline

/-!
# ReleasePipeline.Stage.UnitTests

The test stage: run the unit test program that the build left in the job's build folder, in that
folder. The stage itself changes nothing.

A tool call names its program by a text. The path of the test program is one already and stands in
the call as it is, without replacement characters (see `Path`).
-/

namespace ReleasePipeline.Pipeline

/-- The name of the unit test program. -/
def testProgram : String := "exotracker-tests"

/-- The call that runs the unit tests. -/
def testCall (program folder : Path) : ToolCall :=
  { program := program.text, folder }

/-- The test stage. -/
def test (pipeline : Pipeline σ) : Stage σ Unit := do
  let folder ← pipeline.existingBuildFolder
  Stage.within folder do
    let program := folder / testProgram
    Stage.report (.runningTests program)
    Stage.call pipeline.runner (testCall program (← Stage.cwd))

end ReleasePipeline.Pipeline
