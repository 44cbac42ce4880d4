import ReleasePipeline.Path
import ReleasePipeline.Text.Blank
import ReleasePipeline.Text.Quoted

/-!
# ReleasePipeline.ToolCall

One call of an external tool: a program, its arguments as they are, the folder it runs in, and
variables that it sees on top of the inherited ones. A call prints as a command line in which an
argument that is empty or has white space in it is quoted.
-/

namespace ReleasePipeline

/-- A call of an external tool. -/
structure ToolCall where
  program : String
  args : List String := []
  folder : Path
  env : List (String × String) := []
  deriving DecidableEq, Repr

namespace ToolCall

/-- The call with an argument added. -/
def arg (call : ToolCall) (arg : String) : ToolCall :=
  { call with args := call.args ++ [arg] }

/-- The call with arguments added. -/
def addArgs (call : ToolCall) (args : List String) : ToolCall :=
  { call with args := call.args ++ args }

/-- The call with variables added. -/
def addEnv (call : ToolCall) (env : List (String × String)) : ToolCall :=
  { call with env := call.env ++ env }

/-! ### The command line -/

/-- Whether an argument cannot stand on a command line as it is. -/
def needsQuotes (arg : String) : Bool :=
  arg.toList.isEmpty || arg.toList.any Text.isBlank

/-- An argument as it stands on a command line. -/
def argText (arg : String) : String :=
  if needsQuotes arg then Text.quote arg else arg

/-- The command line: the program and the arguments with single spaces between them. -/
def commandLine (call : ToolCall) : String :=
  call.args.foldl (fun line arg => line ++ " " ++ argText arg) call.program

/-- Whether two calls are the same, where folders compare by their components. -/
def same (a b : ToolCall) : Bool :=
  a.program == b.program && a.args == b.args && a.folder.same b.folder && a.env == b.env

end ToolCall

end ReleasePipeline
