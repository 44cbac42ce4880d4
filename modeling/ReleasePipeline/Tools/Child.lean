import ReleasePipeline.SearchPath
import ReleasePipeline.Session

/-!
# ReleasePipeline.Tools.Child

A runner that starts child processes on the modelled disk. A program is found the way the system
finds one: a name with a slash in it is a path from the child's folder, any other is tried in the
folders of the search path. What a child does is known only of stand-in tools (`Script`): each
appends one line to its record, with its name, arguments, folder and compilers, and ends. A file
that may be executed but is no such tool is refused as being in no executable format.

A child that ends with code zero has succeeded. Any other code, and a signal, is a failure.
-/

namespace ReleasePipeline.Child

/-- The variables of a process, as raw bytes. -/
abbrev Environment := List (String × Bytes)

/-! ### Finding the program -/

/-- Where programs are looked for if no search path is set. -/
def defaultSearchPath : SearchPath := [⟨"/bin"⟩, ⟨"/usr/bin"⟩]

/-- The script that executing a path runs, seen from a folder. -/
def scriptAt (disk : Node) (folder p : Path) : Except Fault Script :=
  match Disk.locateFrom disk folder p with
  | .error fault => .error fault
  | .ok location =>
    match disk.get? location with
    | some (.file f) =>
      if f.executable then
        match f.script with
        | some script => .ok script
        | none => .error .execFormat
      else .error .noAccess
    | some (.folder _) => .error .noAccess
    | none => .error .noEntry

/-- A search path as the system goes through it. A part that is too long for a path counts as the
empty one, and not at all if it is the last. -/
def shorten : SearchPath → SearchPath
  | [] => []
  | [p] => if Disk.isTooLongPath p then [] else [p]
  | p :: next :: rest =>
    (if Disk.isTooLongPath p then ⟨""⟩ else p) :: shorten (next :: rest)

/-- Whether the search goes on after a fault. -/
def isSkipped (fault : Fault) : Bool :=
  fault == .noEntry || fault == .notFolder || fault == .noAccess

/-- The first candidate that can be executed from a folder, by its path and script. A candidate
without permission is passed over, but reported if nothing else is found. -/
def search (disk : Node) (folder : Path) (last : Fault) :
    List Path → Except Fault (Path × Script)
  | [] => .error last
  | p :: rest =>
    match scriptAt disk folder p with
    | .ok script => .ok (p, script)
    | .error fault =>
      if isSkipped fault then search disk folder (if last = .noAccess then last else fault) rest
      else .error fault

/-- The program that a child in a folder runs. -/
def find (disk : Node) (searchPath : SearchPath) (folder : Path) (program : String) :
    Except Fault (Path × Script) :=
  if program.toList.isEmpty then .error .noEntry
  else if program.toList.contains '/' then
    (scriptAt disk folder ⟨program⟩).map fun script => (⟨program⟩, script)
  else if Disk.isTooLong program then .error .nameTooLong
  else search disk folder .noEntry ((shorten searchPath).map (· / program))

/-- Whether a search came to a program that may be executed, be it in no executable format. What a
child is given is looked at between the two. -/
def isReached : Except Fault α → Bool
  | .ok _ => true
  | .error fault => fault == .execFormat

/-! ### Variables -/

/-- The variables that a call sets, each with the value that counts, which is the last. -/
def settings (call : ToolCall) : List (String × String) :=
  ((call.env.map Prod.fst).eraseDups).filterMap fun key =>
    (call.env.reverse.lookup key).map fun value => (key, value)

/-- Whether a call holds a NUL character where none can be passed on. A value that a later one
replaces is not passed on. -/
def hasNul (call : ToolCall) : Bool :=
  let texts := [call.program, call.folder.text] ++ call.args ++
    (settings call).flatMap fun (key, value) => [key, value]
  texts.any fun text => text.toList.contains '\x00'

/-- The variables of a child: those of the call, and the inherited ones that it leaves alone. -/
def environment (env : Environment) (call : ToolCall) : Environment :=
  let own := (settings call).map fun (key, value) => (key, Utf8.encode value)
  own ++ env.filter fun (key, _) => !own.any (·.1 == key)

/-- The bytes of an argument or variable that a child can be given, with the NUL that ends it. -/
def textLimit : Nat := 131072

/-- Whether an argument or a variable of a child is too long. -/
def isOversized (env : Environment) (call : ToolCall) : Bool :=
  call.args.any (fun arg => textLimit ≤ arg.utf8ByteSize) ||
    (environment env call).any fun (key, value) =>
      textLimit ≤ key.utf8ByteSize + 1 + value.length

/-- What a child reads in a variable, empty if it is not set. A variable is passed on as one text
with an equals sign between key and value, in the order of keys, and read up to the first such sign;
so what stands behind one in a key counts as part of the value, and of two the later counts. -/
def value (env : Environment) (call : ToolCall) (name : String) : Bytes :=
  let readings := (environment env call).filterMap fun (key, value) =>
    let found := key.toList.takeWhile (· ≠ '=')
    let behind := key.toList.dropWhile (· ≠ '=')
    if found = name.toList then
      some (key, match behind with
        | [] => value
        | _ :: start => Utf8.encode (String.ofList start) ++ Utf8.encode "=" ++ value)
    else none
  match (readings.mergeSort fun a b => decide (a.1 ≤ b.1)).getLast? with
  | some (_, value) => value
  | none => []

/-! ### Running it -/

/-- The line that a stand-in tool adds to its record. -/
def recordLine (env : Environment) (call : ToolCall) (program : Path) (folder : Location) : Bytes :=
  let name := program.name?.getD program.text
  let folderBytes := (Utf8.encode "/").intercalate (folder.map EntryName.bytes)
  Utf8.encode (name ++ "|" ++ " ".intercalate call.args ++ "|/") ++ folderBytes
    ++ Utf8.encode "|CC=" ++ value env call "CC" ++ Utf8.encode "|CXX=" ++ value env call "CXX"
    ++ Utf8.encode "\n"

/-- Adds a line to a record. A record that cannot be written is passed over. -/
def appendRecord (disk : Node) (record : Path) (line : Bytes) : Node :=
  let append := do Disk.appendAt (← Disk.openForWriting record false) line
  match append disk with
  | .ok () disk => disk
  | .error _ disk => disk

/-- How a child that ended this way is reported. -/
def statusOf : Ending → Status
  | .exit code => .code (code % 256)
  | .signal number => .signal number

/-- Starts the child of a call and gives the tool it runs and its folder, or the fault that kept it
from starting. -/
def start (disk : Node) (processFolder : Path) (env : Environment) (call : ToolCall) :
    Except Fault (Path × Script × Location) := do
  if hasNul call then throw .nulInCommand
  let location ← Disk.locateFrom disk processFolder call.folder
  if !disk.isFolderAt location then throw .notFolder
  let searchPath := match (environment env call).lookup "PATH" with
    | some bytes => SearchPath.ofBytes bytes
    | none => defaultSearchPath
  let found := find disk searchPath (processFolder / call.folder) call.program
  if isReached found && isOversized env call then throw .listTooLong
  let (program, script) ← found
  return (program, script, location)

/-- The runner that starts children with the variables of a process. -/
def runner (processFolder : Path) (env : Environment) : Runner σ := fun call => do
  modify (·.report (.childStarted call.folder call.commandLine))
  match start (← get).disk processFolder env call with
  | .error cause => throw (.spawnFailed call.program cause)
  | .ok (program, script, folder) =>
    modify fun bench =>
      { bench with
        disk := appendRecord bench.disk script.record (recordLine env call program folder) }
    let status := statusOf script.ending
    modify (·.report (.childEnded call.program status))
    match status with
    | .code 0 => pure ()
    | .code code => throw (.toolFailed call.program (some code))
    | .signal _ => throw (.toolFailed call.program none)

end ReleasePipeline.Child
