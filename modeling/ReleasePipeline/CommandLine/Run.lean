import ReleasePipeline.CommandLine.Arguments
import ReleasePipeline.Job.Record
import ReleasePipeline.Log.Filter
import ReleasePipeline.Stage.Build
import ReleasePipeline.Stage.Release
import ReleasePipeline.Stage.UnitTests
import ReleasePipeline.Tools.Child

/-!
# ReleasePipeline.CommandLine.Run

A whole run of the program: one stage for one job, with everything that varies between jobs taken
from the variables of the process. The run ends with an exit status, and a failure of any kind is
reported on the error stream and never as success. A failure to read the job is reported with a
sentence around it; every other failure stands alone, with the fault behind it as its cause.
-/

namespace ReleasePipeline.CommandLine

/-! ### Failures of a run -/

/-- A failure, and whether the job could not be read. -/
structure RunFailure where
  failure : Failure
  readingJob : Bool
  deriving DecidableEq, Repr

namespace RunFailure

/-- The messages of a failure, from the outermost inwards. -/
def messages (f : RunFailure) : List String :=
  (if f.readingJob then ["Invalid CI matrix configuration"] else []) ++
    f.failure.message :: f.failure.causeText.toList

/-- The causes of a report on lines of their own, numbered if there are several. -/
def causeLines (causes : List String) : List String :=
  match causes with
  | [cause] => ["    " ++ cause]
  | _ => (causes.zipIdx).map fun (cause, n) => "    " ++ toString n ++ ": " ++ cause

/-- What the error stream shows of a failure. -/
def report (f : RunFailure) : String :=
  match f.messages with
  | [] => "Error: \n"
  | [message] => "Error: " ++ message ++ "\n"
  | message :: causes =>
    "Error: " ++ message ++ "\n\nCaused by:\n" ++ "\n".intercalate (causeLines causes) ++ "\n"

end RunFailure

/-! ### Running a stage -/

/-- What a stage printed on the output stream: the paths of a release, one on a line. -/
def releaseText (release : Release) : String :=
  release.application.path.text ++ "\n" ++
    match release.symbols with
    | some symbols => symbols.path.text ++ "\n"
    | none => ""

/-- Runs a stage for a job on a system, and gives what it prints. -/
def runStage (pipeline : Pipeline σ) (system : String) : StageName → Stage σ String
  | .build => do
    pipeline.build
    return ""
  | .test => do
    pipeline.test
    return ""
  | .archive => do
    match Packaging.ofSystem system with
    | .ok packaging => return releaseText (← pipeline.archive packaging)
    | .error failure => throw failure

/-- The process that the program runs in: its variables, its folder, the system and how the disk
orders listings. -/
structure Context where
  env : Child.Environment
  folder : Path
  system : String
  listing : Disk.ListingOrder

namespace Context

/-- A variable that holds a text. One whose bytes spell none counts as not set. -/
def text? (context : Context) (key : String) : Option String :=
  (context.env.lookup key).bind Utf8.decode?

/-- The facts about the machine. -/
def host (context : Context) : Host :=
  ⟨context.folder, context.text? "HOME", context.listing⟩

/-- Where compilers are looked for. -/
def searchPath (context : Context) : Option SearchPath :=
  (context.env.lookup "PATH").map SearchPath.ofBytes

/-- Whether log lines are JSON. -/
def logsJson (context : Context) : Bool :=
  Log.wantsJson (context.text? "CI_LOG_FORMAT")

/-- Which events are logged. -/
def logFilter (context : Context) : Log.Filter :=
  .ofSetting (context.text? "RUST_LOG") .info

end Context

/-- How the dispatch of a stage ended: what it prints or why it failed, and the bench it left. -/
structure Dispatched (σ : Type) where
  result : Except RunFailure String
  bench : Bench σ

/-- Reads the job, opens the workspace at the process's folder and runs a stage. -/
def dispatch (context : Context) (lookup : String → Option Bytes) (runner : Runner σ)
    (stage : StageName) (bench : Bench σ) : Dispatched σ :=
  match Job.ofRawVariables lookup with
  | .error failure => ⟨.error ⟨failure, true⟩, bench⟩
  | .ok job =>
    let bench := bench.report (.jobRead job.toText job.buildFolder job.archiveName)
    match Workspace.open? context.folder context.folder with
    | .error failure => ⟨.error ⟨failure, false⟩, bench⟩
    | .ok workspace =>
      let pipeline : Pipeline σ :=
        { job, host := context.host, searchPath := context.searchPath, runner }
      match runStage pipeline context.system stage ⟨workspace, bench⟩ with
      | .ok output s => ⟨.ok output, s.bench⟩
      | .error failure s => ⟨.error ⟨failure, false⟩, s.bench⟩

/-! ### The program -/

/-- What a run of the program leaves: its exit status, the text on the two streams, the events that
its log shows and the disk. -/
structure Outcome where
  status : Nat
  output : String
  errors : String
  log : List Event
  disk : Node

/-- The exit status of a stage's result. -/
def exitStatus : Except RunFailure String → Nat
  | .ok _ => 0
  | .error f => f.failure.exitStatus

/-- The exit status for arguments that make no sense. -/
def usageStatus : Nat := 2

/-- Runs the program with some arguments. -/
def run (context : Context) (arguments : List String) (disk : Node) : Outcome :=
  match Request.ofArguments arguments with
  | .usageError => ⟨usageStatus, "", usageText, [], disk⟩
  | .help topic => ⟨0, topic.text, "", [], disk⟩
  | .run stage =>
    let runner : Runner Unit := Child.runner context.folder context.env
    let ended := dispatch context (fun key => context.env.lookup key) runner stage ⟨disk, [], ()⟩
    let status := exitStatus ended.result
    let log := ended.bench.events.filter context.logFilter.shows
    match ended.result with
    | .ok output => ⟨status, output, "", log, ended.bench.disk⟩
    | .error f => ⟨status, "", f.report, log, ended.bench.disk⟩

end ReleasePipeline.CommandLine
