import ReleasePipeline.Stage.Pipeline

/-!
# ReleasePipeline.Stage.Build

The build stage: configure the project in the job's build folder and compile it there. Both tools
get the compilers as absolute choices through their environment. With precompiled headers switched
off, a directive is appended to the hook file that the project includes first; the file is never
overwritten, so what a user keeps in it stays.
-/

namespace ReleasePipeline.Pipeline

/-- The file that the project's build description includes before its own settings. -/
def hookFile : String := "cmake_user_begin.cmake"

/-- The line that switches precompiled headers off. -/
def headersDirective : String := "set(USE_PCH FALSE)\n"

/-- The program that a compiler selector names, as of now. -/
def resolveCompiler (pipeline : Pipeline σ) (setting : String) (selector : Option String) :
    Stage σ Path := do
  let disk ← Stage.disk
  let cwd ← Stage.cwd
  let host := pipeline.host
  match Toolchain.resolve disk host.folder host.home pipeline.searchPath cwd setting selector with
  | .ok (program, path) =>
    Stage.report (.compilerResolved setting program path)
    return path
  | .error failure => throw failure

/-- The job's compilers. The C compiler is resolved before the other is looked at. -/
def resolveCompilers (pipeline : Pipeline σ) : Stage σ Toolchain.Compilers := do
  let cc ← pipeline.resolveCompiler Setting.cc pipeline.job.compilers.c
  let cxx ← pipeline.resolveCompiler Setting.cxx pipeline.job.compilers.cxx
  return { cc, cxx }

/-- Appends the directive to the hook file. -/
def disableHeaders : Stage σ Unit := do
  let hook ← Stage.path ⟨hookFile⟩
  Stage.report (.disablingHeaders hook)
  let file ← Stage.attempt "open" hook (Disk.openForWriting hook false)
  Stage.attempt "write" hook (Disk.appendAt file (Utf8.encode headersDirective))

/-- The call that configures the project. -/
def configureCall (job : Job) (compilers : Toolchain.Compilers) (folder : Path) : ToolCall :=
  { program := "cmake"
    args := ["..", "-DCMAKE_BUILD_TYPE=" ++ job.configuration, "-G", "Ninja"]
    folder
    env := compilers.env }

/-- The call that compiles the project. -/
def compileCall (compilers : Toolchain.Compilers) (folder : Path) : ToolCall :=
  { program := "ninja", folder, env := compilers.env }

/-- The build stage. -/
def build (pipeline : Pipeline σ) : Stage σ Unit := do
  let compilers ← pipeline.resolveCompilers
  if pipeline.job.withoutPch then disableHeaders
  let folder ← pipeline.buildFolder
  Stage.attempt "create" folder (Disk.makeFolders folder)
  Stage.report (.configuring folder pipeline.job.configuration)
  Stage.within folder do
    let cwd ← Stage.cwd
    Stage.call pipeline.runner (configureCall pipeline.job compilers cwd)
    Stage.report .compiling
    Stage.call pipeline.runner (compileCall compilers cwd)
    Stage.report .buildFinished

end ReleasePipeline.Pipeline
