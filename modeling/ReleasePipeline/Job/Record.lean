import ReleasePipeline.Job.Basic
import ReleasePipeline.Json.Printer
import ReleasePipeline.Json.Reader

/-!
# ReleasePipeline.Job.Record

A job as a JSON record, for logs and for handing it on. A record is written as an object with its
members in a fixed order. It is read from such an object, with unknown members ignored and known
ones given once each, or from an array of exactly its members in order. A choice is written as its
name and read from the name or from an object that gives the name the value null. Only the two
compilers may be absent.
-/

namespace ReleasePipeline

namespace Json

/-! ### Fields -/

/-- A text. -/
def asText? : Value → Option String
  | .string text => text
  | _ => none

/-- A truth value. -/
def asBool? : Value → Option Bool
  | .bool b => some b
  | _ => none

/-- A text, or null for none. -/
def asOptionalText? : Value → Option (Option String)
  | .null => some none
  | value => (asText? value).map some

/-- One of the options of a choice. -/
def asChoice? [Choice α] : Value → Option α
  | .string (some name) => Choice.ofName? name
  | .object [(some name, .null)] => Choice.ofName? name
  | _ => none

/-! ### Records -/

/-- Whether every member name is a text, and no known one is repeated. -/
def wellNamed (known : List String) (members : List (Option String × Value)) : Bool :=
  members.all (·.1.isSome) && known.all fun name => members.countP (·.1 == some name) ≤ 1

/-- The values of a record's members in the order of their names: from an object, `none` for each
that is absent, or from an array that holds all of them. -/
def recordFields? (names : List String) : Value → Option (List (Option Value))
  | .object members =>
    if wellNamed names members then some (names.map fun name => members.lookup (some name))
  else none
  | .array items => if items.length = names.length then some (items.map some) else none
  | _ => none

end Json

open Json

/-! ### Writing -/

/-- The record of the packaging choices. -/
def ArchivePolicy.toJson (policy : ArchivePolicy) : Value :=
  .record [
    ("executable", .text (Choice.name policy.executable)),
    ("image_formats", .text (Choice.name policy.imageFormats)),
    ("debug_symbols", .text (Choice.name policy.debugSymbols))]

/-- The record of the compilers. -/
def CompilerChoice.toJson (compilers : CompilerChoice) : Value :=
  .record [("cc", .optionalText compilers.c), ("cxx", .optionalText compilers.cxx)]

/-- The record of a job. -/
def Job.toJson (job : Job) : Value :=
  .record [
    ("job_name", .text job.name),
    ("configuration", .text job.configuration),
    ("version", .text job.version),
    ("disable_pch", .bool job.withoutPch),
    ("archive", job.policy.toJson),
    ("compilers", job.compilers.toJson)]

/-- The record of a job as compact text. -/
def Job.toText (job : Job) : String :=
  job.toJson.compact

/-! ### Reading -/

/-- The packaging choices that a record gives. -/
def ArchivePolicy.ofJson? (value : Value) : Option ArchivePolicy := do
  let [executable, imageFormats, debugSymbols] ←
    recordFields? ["executable", "image_formats", "debug_symbols"] value | none
  return {
    executable := ← asChoice? (← executable)
    imageFormats := ← asChoice? (← imageFormats)
    debugSymbols := ← asChoice? (← debugSymbols) }

/-- The compilers that a record gives. -/
def CompilerChoice.ofJson? (value : Value) : Option CompilerChoice := do
  let [cc, cxx] ← recordFields? ["cc", "cxx"] value | none
  return { c := ← asOptionalText? (cc.getD .null), cxx := ← asOptionalText? (cxx.getD .null) }

/-- The job that a record gives. -/
def Job.ofJson? (value : Value) : Option Job := do
  let [name, configuration, version, withoutPch, policy, compilers] ←
    recordFields? ["job_name", "configuration", "version", "disable_pch", "archive", "compilers"]
      value | none
  return {
    name := ← asText? (← name)
    configuration := ← asText? (← configuration)
    version := ← asText? (← version)
    withoutPch := ← asBool? (← withoutPch)
    policy := ← ArchivePolicy.ofJson? (← policy)
    compilers := ← CompilerChoice.ofJson? (← compilers) }

/-- The job that a JSON text gives. -/
def Job.ofText? (text : String) : Option Job :=
  (Value.ofText? text).bind Job.ofJson?

end ReleasePipeline
