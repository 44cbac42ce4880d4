import ReleasePipeline.Disk.Fault
import ReleasePipeline.Disk.Name
import ReleasePipeline.Text.Quoted

/-!
# ReleasePipeline.Failure

Why a stage ended early. A failure names its cause; its one-line message and the exit status of the
process that meets it are functions of the cause. A value that a user supplied is quoted in the
message, so that it cannot break the line.
-/

namespace ReleasePipeline

/-- Why a program was not found. -/
inductive LookupFault where
  /-- No candidate is an executable file. -/
  | nowhere
  /-- There is no search path to try a bare name on. -/
  | noSearchPath
  /-- A path cannot be brought into canonical form. -/
  | notCanonical
  deriving DecidableEq, Repr

/-- The text of a lookup fault. -/
def LookupFault.message : LookupFault → String
  | .nowhere => "cannot find binary path"
  | .noSearchPath => "no path to search and provided name is not an absolute path"
  | .notCanonical => "cannot canonicalize path"

/-- Why a stage ended early. -/
inductive Failure where
  /-- A variable holds a value with no meaning. -/
  | invalidSetting (setting value reason : String)
  /-- A variable that is needed is not set. -/
  | missingVariable (setting : String)
  /-- A compiler selector names no program. -/
  | compilerNotFound (setting program : String) (cause : LookupFault)
  /-- There is no build folder yet. -/
  | buildFolderMissing (folder : Path)
  /-- A tool could not be started. -/
  | spawnFailed (program : String) (cause : Fault)
  /-- A tool ended with a code other than zero, or, without a code, by a signal. -/
  | toolFailed (program : String) (code : Option Int)
  /-- An operation on a known path failed. -/
  | diskFailed (action : String) (path : EntryPath) (cause : Fault)
  /-- Releases cannot be packaged on this system. -/
  | unsupportedSystem (system : String)
  deriving DecidableEq, Repr

namespace Failure

/-- How a tool that failed ended. -/
def exitText : Option Int → String
  | some code => "exit code " ++ toString code
  | none => "no exit code (terminated by signal)"

/-- The message of a failure, on one line. -/
def message : Failure → String
  | .invalidSetting setting value reason =>
    setting ++ " environment value " ++ Text.quote value ++ " is invalid: " ++ reason
  | .missingVariable setting => "required environment variable " ++ setting ++ " is not set"
  | .compilerNotFound setting program cause =>
    setting ++ "=" ++ program ++ " not found on PATH: " ++ cause.message
  | .buildFolderMissing folder =>
    "build directory not found: " ++ folder.text ++ " (run `build` first)"
  | .spawnFailed program cause => "failed to spawn " ++ program ++ ": " ++ cause.message
  | .toolFailed program code => program ++ " failed with " ++ exitText code
  | .diskFailed action path cause => action ++ " " ++ path.shown ++ ": " ++ cause.message
  | .unsupportedSystem system => "archiving is not supported on " ++ system

/-- The text of the fault behind a failure, if there is one. -/
def causeText : Failure → Option String
  | .compilerNotFound _ _ cause => some cause.message
  | .spawnFailed _ cause => some cause.message
  | .diskFailed _ _ cause => some cause.message
  | _ => none

/-- The exit status to report: a tool's own code if a status can carry it and it is not zero, and
one for everything else. -/
def exitStatus : Failure → Nat
  | .toolFailed _ (some code) => if 1 ≤ code ∧ code ≤ 255 then code.toNat else 1
  | _ => 1

/-- No failure is reported as success. -/
theorem exitStatus_pos (failure : Failure) : 0 < failure.exitStatus := by
  unfold exitStatus
  split
  · split <;> omega
  · exact Nat.one_pos

end Failure

end ReleasePipeline
