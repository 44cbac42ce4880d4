/-!
# ReleasePipeline.CommandLine.Arguments

What the arguments of the program ask for: a stage, a help text, or nothing that makes sense. The
first argument that is a command hands the rest over to it. A stage takes no arguments of its own
but a request for help; `help` takes the name of a command. A double dash ends the options, and
nothing may follow it.
-/

namespace ReleasePipeline.CommandLine

/-- The stages that a command starts. -/
inductive StageName where
  | build
  | test
  | archive
  deriving DecidableEq, Repr

/-- What a help text is about. -/
inductive Topic where
  | program
  | stage (name : StageName)
  | help
  deriving DecidableEq, Repr

/-- What the arguments ask for. -/
inductive Request where
  | run (stage : StageName)
  | help (topic : Topic)
  | usageError
  deriving DecidableEq, Repr

/-- The word of a stage. -/
def StageName.word : StageName → String
  | .build => "build"
  | .test => "test"
  | .archive => "archive"

/-- The stage of a word. -/
def StageName.ofWord? (word : String) : Option StageName :=
  [StageName.build, .test, .archive].find? (·.word = word)

/-- Whether an argument asks for help. A short option takes effect whatever follows it in the same
argument. -/
def asksForHelp (arg : String) : Bool :=
  arg == "--help" || "-h".toList.isPrefixOf arg.toList

/-- What the arguments of a stage ask for. -/
def requestOfStage (stage : StageName) : List String → Request
  | [] => .run stage
  | ["--"] => .run stage
  | arg :: _ => if asksForHelp arg then .help (.stage stage) else .usageError

/-- What the arguments of `help` ask for. -/
def requestOfHelp : List String → Request
  | [] => .help .program
  | [word] =>
    match StageName.ofWord? word with
    | some stage => .help (.stage stage)
    | none => if word = "help" then .help .help else .usageError
  | _ => .usageError

/-- What the arguments of the program ask for. -/
def Request.ofArguments : List String → Request
  | [] => .usageError
  | arg :: rest =>
    match StageName.ofWord? arg with
    | some stage => requestOfStage stage rest
    | none =>
      if arg = "help" then requestOfHelp rest
      else if asksForHelp arg then .help .program
      else .usageError

/-! ### Help texts -/

/-- What a stage does, in a sentence. -/
def StageName.about : StageName → String
  | .build => "Configure and build in the per-job build directory"
  | .test => "Run exotracker-tests from an existing build directory"
  | .archive => "Stage the executable with its Qt runtime and create release archives"

/-- What `help` does, in a sentence. -/
def aboutHelp : String := "Print this message or the help of the given subcommand(s)"

/-- The part of a help text that lists the options. -/
def optionsText : String := "Options:\n  -h, --help  Print help\n"

/-- The help text on a topic. -/
def Topic.text : Topic → String
  | .program =>
    "Build, test and package exotracker on CI\n\nUsage: exotracker-ci <COMMAND>\n\nCommands:\n"
      ++ "  build    " ++ StageName.build.about ++ "\n"
      ++ "  test     " ++ StageName.test.about ++ "\n"
      ++ "  archive  " ++ StageName.archive.about ++ "\n"
      ++ "  help     " ++ aboutHelp ++ "\n\n" ++ optionsText
  | .stage name =>
    name.about ++ "\n\nUsage: exotracker-ci " ++ name.word ++ "\n\n" ++ optionsText
  | .help =>
    aboutHelp ++ "\n\nUsage: exotracker-ci help [COMMAND]...\n\nArguments:\n"
      ++ "  [COMMAND]...  Print help for the subcommand(s)\n"

/-- The text for arguments that make no sense. -/
def usageText : String :=
  "error: a command is required: build, test or archive\n\nUsage: exotracker-ci <COMMAND>\n\n"
    ++ "For more information, try '--help'.\n"

end ReleasePipeline.CommandLine
