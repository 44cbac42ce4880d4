import ReleasePipeline.Failure
import ReleasePipeline.Job.Basic
import ReleasePipeline.Text.Utf8

/-!
# ReleasePipeline.Job.Settings

A job from the variables of the build matrix. Each field has one variable of its own. A variable
that is not set gives the default; a set one is taken as it is, except that an empty flag or
packaging choice counts as not set. Malformed values are refused here, before any stage starts, and
the first in a fixed order is reported.

Variables come as texts (`ofVariables`) or as raw bytes (`ofRawVariables`). Bytes that spell no text
are refused too, in the order of `matrix` and before any value is looked at, so that a damaged
value is never mistaken for an unset one.
-/

namespace ReleasePipeline

namespace Setting

def jobName : String := "APPVEYOR_JOB_NAME"
def configuration : String := "CONFIGURATION"
def withoutPch : String := "DISABLE_PCH"
def version : String := "APPVEYOR_BUILD_VERSION"
def executable : String := "ARCHIVE_EXE_TRANSFER"
def imageFormats : String := "ARCHIVE_IMAGEFORMATS"
def debugSymbols : String := "ARCHIVE_DEBUG_SYMBOLS"
def cc : String := "CC"
def cxx : String := "CXX"

/-- The variables of the matrix, in the order in which they are decoded. -/
def matrix : List String :=
  [jobName, configuration, withoutPch, version, executable, imageFormats, debugSymbols, cc, cxx]

/-- The flag that a text spells: empty or `0` for no, `1` for yes. -/
def flag? (text : String) : Option Bool :=
  if text = "" ∨ text = "0" then some false else if text = "1" then some true else none

end Setting

namespace Job

/-! ### From texts -/

/-- The flag of a variable. -/
def readFlag (lookup : String → Option String) (setting : String) : Except Failure Bool :=
  let text := (lookup setting).getD "0"
  match Setting.flag? text with
  | some flag => .ok flag
  | none => .error (.invalidSetting setting text "must be 0 or 1 if present")

/-- The choice of a variable. -/
def readChoice (α : Type) [Choice α] (lookup : String → Option String) (setting : String) :
    Except Failure α :=
  match lookup setting with
  | none => .ok Choice.default
  | some text =>
    if text = "" then .ok Choice.default
    else
      match Choice.ofName? text with
      | some choice => .ok choice
      | none => .error (.invalidSetting setting text (Choice.complaint α))

/-- A job from variables that hold texts. -/
def ofVariables (lookup : String → Option String) : Except Failure Job := do
  let withoutPch ← readFlag lookup Setting.withoutPch
  let executable ← readChoice ExecutableTransfer lookup Setting.executable
  let imageFormats ← readChoice ImageFormats lookup Setting.imageFormats
  let debugSymbols ← readChoice DebugSymbols lookup Setting.debugSymbols
  return {
    name := (lookup Setting.jobName).getD Setting.jobName
    configuration := (lookup Setting.configuration).getD releaseConfiguration
    version := (lookup Setting.version).getD "UnknownVer"
    withoutPch
    policy := { executable, imageFormats, debugSymbols }
    compilers := { c := lookup Setting.cc, cxx := lookup Setting.cxx } }

/-! ### From raw bytes -/

/-- The text of a variable, if it is set. -/
def decodeVariable (lookup : String → Option Bytes) (setting : String) :
    Except Failure (Option String) :=
  match lookup setting with
  | none => .ok none
  | some raw =>
    match Utf8.decode? raw with
    | some text => .ok (some text)
    | none => .error (.invalidSetting setting (Utf8.decodeLossy raw) "not valid UTF-8")

/-- The texts of those variables that are set, by name. -/
def decodeVariables (lookup : String → Option Bytes) :
    List String → Except Failure (List (String × String))
  | [] => .ok []
  | setting :: rest => do
    let text ← decodeVariable lookup setting
    let others ← decodeVariables lookup rest
    return match text with
      | some text => (setting, text) :: others
      | none => others

/-- A job from variables that hold raw bytes. -/
def ofRawVariables (lookup : String → Option Bytes) : Except Failure Job := do
  let texts ← decodeVariables lookup Setting.matrix
  ofVariables fun setting => texts.lookup setting

end Job

end ReleasePipeline
