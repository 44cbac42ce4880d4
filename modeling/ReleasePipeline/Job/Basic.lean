import ReleasePipeline.Text.SafeName

/-!
# ReleasePipeline.Job.Basic

The job that a run of the pipeline works on: one entry of the build matrix. It fixes what is built,
how the release is packaged, and the two names that everything else is derived from:

* `buildFolder`, the folder the job is built in, one for each job name and configuration;
* `archiveName`, the release's file name without extension.

A packaging choice is one of a closed list of names, the first of which is the default.
-/

namespace ReleasePipeline

/-! ### Packaging choices -/

/-- A setting with a closed list of names. The first option is the default. -/
class Choice (α : Type) where
  options : List (String × α)
  name : α → String
  default : α

namespace Choice

/-- The option of a name. -/
def ofName? [Choice α] (name : String) : Option α :=
  (options (α := α)).lookup name

/-- What is said of a name that is no option. -/
def complaint (α : Type) [Choice α] : String :=
  "expected one of: " ++ ", ".intercalate ((options (α := α)).map Prod.fst)

end Choice

/-- How the built executable gets into the staging folder. -/
inductive ExecutableTransfer where
  /-- The build output stays, so a release can be made again. -/
  | copy
  | move
  deriving DecidableEq, Repr

/-- What happens to the image format plugins that the deployment tool brings along. -/
inductive ImageFormats where
  /-- Every plugin but the one for SVG goes. -/
  | keepSvg
  /-- SVG is not deployed, and the whole folder goes. -/
  | removeAll
  deriving DecidableEq, Repr

/-- How debug symbols are published beside the release. -/
inductive DebugSymbols where
  /-- Compressed, under their own name, so that a debugger still accepts them. -/
  | compress
  /-- As a plain copy under the release's name. -/
  | rename
  deriving DecidableEq, Repr

instance : Choice ExecutableTransfer where
  options := [("copy", .copy), ("move", .move)]
  name
    | .copy => "copy"
    | .move => "move"
  default := .copy

instance : Choice ImageFormats where
  options := [("keep-svg", .keepSvg), ("remove-all", .removeAll)]
  name
    | .keepSvg => "keep-svg"
    | .removeAll => "remove-all"
  default := .keepSvg

instance : Choice DebugSymbols where
  options := [("compress", .compress), ("rename", .rename)]
  name
    | .compress => "compress"
    | .rename => "rename"
  default := .compress

/-- The packaging choices of a job. -/
structure ArchivePolicy where
  executable : ExecutableTransfer
  imageFormats : ImageFormats
  debugSymbols : DebugSymbols
  deriving DecidableEq, Repr

/-- The programs that a job names as its compilers, as they were given. -/
structure CompilerChoice where
  c : Option String
  cxx : Option String
  deriving DecidableEq, Repr

/-! ### The job -/

/-- One job of the build matrix. -/
structure Job where
  name : String
  configuration : String
  version : String
  withoutPch : Bool
  policy : ArchivePolicy
  compilers : CompilerChoice
  deriving DecidableEq, Repr

namespace Job

/-- The configuration that archive names do not mention. -/
def releaseConfiguration : String := "Release"

/-- The name of the job's build folder. Characters that are not safe in a name are replaced, so the
name is a single path component, and jobs whose names differ only in such characters share a
folder. -/
def buildFolder (job : Job) : String :=
  Text.sanitize ("build-" ++ job.name ++ "-" ++ job.configuration)

/-- What the archive name says about the configuration. -/
def configurationSuffix (job : Job) : String :=
  if job.configuration = releaseConfiguration then "" else "-" ++ job.configuration

/-- The name of the release without extension. -/
def archiveName (job : Job) : String :=
  "exotracker-v" ++ job.version ++ job.configurationSuffix ++ "-dev"

end Job

end ReleasePipeline
