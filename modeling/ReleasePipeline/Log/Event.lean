import ReleasePipeline.Disk.Name
import ReleasePipeline.Job.Basic

/-!
# ReleasePipeline.Log.Event

What the pipeline reports while it runs. An event says what happened; the level, the part of the
program it comes from and the named texts that a log line shows are functions of it.
-/

namespace ReleasePipeline

/-- How much an event matters. -/
inductive Level where
  | info
  | debug
  deriving DecidableEq, Repr

/-- The name of a level in a log line. -/
def Level.name : Level → String
  | .info => "INFO"
  | .debug => "DEBUG"

/-- How a child process ended: with a code, or by a signal. -/
inductive Status where
  | code (n : Nat)
  | signal (n : Nat)
  deriving DecidableEq, Repr

/-- The wait status that the system reports: a code in the high byte, a signal in the low one. -/
def Status.raw : Status → Nat
  | .code n => n * 256
  | .signal n => n

/-- A status as it stands in a log line. -/
def Status.text (status : Status) : String :=
  "ExitStatus(unix_wait_status(" ++ toString status.raw ++ "))"

/-- What happened. -/
inductive Event where
  /-- The job was read from its variables. -/
  | jobRead (record buildFolder archive : String)
  /-- A compiler selector was resolved. -/
  | compilerResolved (setting program : String) (path : Path)
  /-- Precompiled headers are switched off in the hook file. -/
  | disablingHeaders (hook : Path)
  | configuring (folder : Path) (configuration : String)
  | compiling
  | buildFinished
  | runningTests (program : Path)
  | assembling (packaging : String) (archive : Path) (policy : ArchivePolicy)
  /-- What an earlier run had staged is gone. -/
  | stagingRemoved (folder : Path)
  | stagingExecutable (source target : Path) (transfer : ExecutableTransfer)
  | deployingRuntime
  /-- The deployment tool brought no image format plugins. -/
  | noPlugins (folder : Path)
  | removingPlugin (plugin : EntryPath)
  | archiveReady (path : Path) (sha256 : String)
  | symbolsReady (path : Path) (sha256 : String)
  /-- A folder became the current one. -/
  | entered (folder : Path)
  /-- The folder is current again. -/
  | returned (folder : Path)
  | childStarted (folder : Path) (commandLine : String)
  | childEnded (program : String) (status : Status)
  deriving DecidableEq, Repr

namespace Event

/-- The packaging choices as they stand in a log line. -/
def policyText (policy : ArchivePolicy) : String :=
  let executable := match policy.executable with
    | .copy => "Copy"
    | .move => "Move"
  let imageFormats := match policy.imageFormats with
    | .keepSvg => "KeepSvg"
    | .removeAll => "RemoveAll"
  let debugSymbols := match policy.debugSymbols with
    | .compress => "Compress"
    | .rename => "Rename"
  "ArchivePolicy \x7b executable: " ++ executable ++ ", image_formats: " ++ imageFormats ++
    ", debug_symbols: " ++ debugSymbols ++ " \x7d"

/-- The level of an event. -/
def level : Event → Level
  | .jobRead .. | .compilerResolved .. | .stagingRemoved .. | .stagingExecutable ..
  | .noPlugins .. | .removingPlugin .. | .entered .. | .returned .. | .childEnded .. => .debug
  | _ => .info

/-- The part of the program that an event comes from, as log filters name it. -/
def origin : Event → String
  | .jobRead .. => "exotracker_ci"
  | .compilerResolved .. => "exotracker_ci::compilers"
  | .entered .. | .returned .. => "exotracker_ci::workspace"
  | .childStarted .. | .childEnded .. => "exotracker_ci::process"
  | _ => "exotracker_ci::orchestrator"

/-- The sentence of an event. -/
def message : Event → String
  | .jobRead .. => "Resolved build matrix"
  | .compilerResolved .. => "Resolved compiler"
  | .disablingHeaders _ => "Disabling precompiled headers"
  | .configuring .. => "Configuring"
  | .compiling => "Compiling"
  | .buildFinished => "Build finished"
  | .runningTests _ => "Running tests"
  | .assembling .. => "Assembling release"
  | .stagingRemoved _ => "Removed previous staging directory"
  | .stagingExecutable .. => "Staging executable"
  | .deployingRuntime => "Deploying Qt runtime"
  | .noPlugins _ => "No image format plugins deployed"
  | .removingPlugin _ => "Removing image format plugin"
  | .archiveReady .. => "Application archive ready"
  | .symbolsReady .. => "Debug symbols ready"
  | .entered _ => "pushd"
  | .returned _ => "popd"
  | .childStarted _ commandLine => "$ " ++ commandLine
  | .childEnded .. => "Process exited"

/-- The named texts of an event beside its sentence. -/
def details : Event → List (String × String)
  | .jobRead record buildFolder archive =>
    [("matrix", record), ("build_dir", buildFolder), ("archive", archive)]
  | .compilerResolved setting program path =>
    [("var", setting), ("program", program), ("path", path.text)]
  | .disablingHeaders hook => [("path", hook.text)]
  | .configuring folder configuration =>
    [("stage", "build"), ("build_dir", folder.text), ("configuration", configuration)]
  | .compiling => [("stage", "build")]
  | .buildFinished => [("stage", "build")]
  | .runningTests program => [("stage", "test"), ("exe", program.text)]
  | .assembling packaging archive policy =>
    [("stage", "archive"), ("platform", packaging), ("archive", archive.text),
     ("policy", policyText policy)]
  | .stagingRemoved folder => [("dir", folder.text)]
  | .stagingExecutable source target transfer =>
    [("from", source.text), ("to", target.text), ("mode", Choice.name transfer)]
  | .deployingRuntime => [("stage", "archive")]
  | .noPlugins folder => [("dir", folder.text)]
  | .removingPlugin plugin => [("plugin", plugin.shown)]
  | .archiveReady path sha256 => [("stage", "archive"), ("path", path.text), ("sha256", sha256)]
  | .symbolsReady path sha256 => [("stage", "archive"), ("path", path.text), ("sha256", sha256)]
  | .entered folder => [("dir", folder.text)]
  | .returned folder => [("dir", folder.text)]
  | .childStarted folder _ => [("cwd", folder.text)]
  | .childEnded program status => [("program", program), ("status", status.text)]

/-- The named texts of a log line. -/
def fields (event : Event) : List (String × String) :=
  ("message", event.message) :: event.details

end Event

end ReleasePipeline
