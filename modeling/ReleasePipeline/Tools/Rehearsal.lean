import ReleasePipeline.Packaging
import ReleasePipeline.Tools.Recorder

/-!
# ReleasePipeline.Tools.Rehearsal

Rehearsed tools: stand-ins that do to the disk what a tool is told to do. A rehearsed tool is a list
of effects that happen in order, each at every call of the tool or only at one of them; the first
that fails ends the call. Paths in effects are seen from the folder of the call, and `$ARGn` in them
stands for its argument `n`, counted from zero.

Also here: laying out a disk to rehearse on, and a packaging whose names are all parameters.
-/

namespace ReleasePipeline.Rehearsal

/-! ### Effects -/

/-- One thing that a rehearsed tool does. -/
inductive Effect where
  | write (file : String) (content : Bytes)
  /-- Makes a folder and those above it. -/
  | makeFolder (folder : String)
  /-- Removes a file, or a folder with all that is below it. -/
  | remove (path : String)
  /-- Writes a list of the call's inputs, its arguments from the third on, with their sizes. -/
  | manifest (file : String)
  /-- Ends with a code, or by a signal. -/
  | exit (code : Option Int)
  /-- Cannot be started. -/
  | spawnFault (cause : Fault)
  deriving DecidableEq, Repr

/-- An effect and, if it happens only once, the number of the call, counted from one. -/
structure Cue where
  onCall : Option Nat
  effect : Effect
  deriving DecidableEq, Repr

/-- What rehearsed tools remember: the program of each call so far. -/
abbrev Memory := List String

/-- The argument that decimal digits count to. -/
def argument? (args : List String) (digits : List Char) : Option String :=
  if digits.isEmpty then none
  else args[digits.foldl (fun n c => n * 10 + (c.toNat - '0'.toNat)) 0]?

/-- A text with `$ARGn` replaced by argument `n`. What an argument brings in is left as it is, and
so is a number without an argument. -/
def fillChars (args : List String) : List Char → List Char
  | '$' :: 'A' :: 'R' :: 'G' :: rest =>
    match argument? args (rest.takeWhile Char.isDigit) with
    | some arg => arg.toList ++ fillChars args (rest.dropWhile Char.isDigit)
    | none => "$ARG".toList ++ fillChars args rest
  | c :: rest => c :: fillChars args rest
  | [] => []
termination_by text => text.length
decreasing_by
  all_goals
    have := (List.dropWhile_suffix (l := rest) Char.isDigit).length_le
    grind

/-- A text with the arguments of a call filled in. -/
def fillIn (args : List String) (text : String) : String :=
  String.ofList (fillChars args text.toList)

/-- Does something to the disk; a fault is a failure of the tool on that path. -/
def attempt (p : Path) (op : DiskM α) : EStateM Failure (Bench σ) α := fun bench =>
  match op bench.disk with
  | .ok a disk => .ok a { bench with disk }
  | .error fault disk => .error (.diskFailed "tool" p fault) { bench with disk }

/-! ### Manifests -/

/-- Locations are written out by the names as they are shown. -/
instance : CoeOut (List EntryName) (List String) := ⟨List.map EntryName.shown⟩

/-- A name and a size on a line of their own. -/
def manifestLine (name : String) (f : File) : String :=
  name ++ " " ++ toString f.content.length ++ "\n"

/-- The files below a node, by the text of their relative path, in the order of its bytes. -/
def filesBelow (node : Node) : List (String × File) :=
  let files := node.contents.filterMap fun (location, entry) =>
    match entry with
    | .file f => some ("/".intercalate location, f)
    | .folder => none
  files.mergeSort fun a b => decide (a.1 ≤ b.1)

/-- What a manifest says of one input. -/
def manifestOf (input : String) (p : Path) : EStateM Failure (Bench σ) String := do
  let location ← attempt p (Disk.openForReading p)
  match (← get).disk.get? location with
  | some (.file f) => return manifestLine ((Path.mk input).name?.getD input) f
  | some node => return String.join ((filesBelow node).map fun (name, f) => manifestLine name f)
  | none => throw (.diskFailed "tool" p .noEntry)

/-! ### Running -/

/-- Does one effect. -/
def perform (call : ToolCall) : Effect → EStateM Failure (Bench σ) Unit
  | .write file content => do
    let p := call.folder / fillIn call.args file
    attempt p (Disk.writeFile p content)
  | .makeFolder folder => do
    let p := call.folder / fillIn call.args folder
    attempt p (Disk.makeFolders p)
  | .remove path => do
    let p := call.folder / fillIn call.args path
    attempt p (Disk.removeAny p)
  | .manifest file => do
    let p := call.folder / fillIn call.args file
    let parts ← (call.args.drop 3).mapM fun input => manifestOf input (call.folder / input)
    attempt p (Disk.writeFile p (Utf8.encode (String.join parts)))
  | .exit code => throw (.toolFailed call.program code)
  | .spawnFault cause => throw (.spawnFailed call.program cause)

/-- A tool that does the effects whose cue has come. -/
def tool (cues : List Cue) : Runner Memory := fun call => do
  modify fun bench => { bench with memory := bench.memory ++ [call.program] }
  let number := (← get).memory.count call.program
  for cue in cues do
    if cue.onCall.all (· = number) then perform call cue.effect

/-- A tool that notes its command line under a tag and, if it is given an ending, fails with it. -/
def noting (tag : String) (ending : Option (Option Int)) : Runner (List String) := fun call => do
  modify fun bench => { bench with memory := bench.memory ++ [tag ++ ": " ++ call.commandLine] }
  match ending with
  | some code => throw (.toolFailed tag code)
  | none => pure ()

/-! ### Laying out a disk -/

/-- One thing to put on a disk, with the folders above it. -/
inductive Item where
  | folder (path : Path)
  | file (path : Path) (f : File)
  deriving DecidableEq, Repr

/-- Removes whatever file or empty folder stands in the way, and puts a file there. -/
def placeFile (p : Path) (f : File) : DiskM Unit := do
  let parent := (p.segments.filter (· ≠ ".")).reverse.drop 1
  Disk.makeFoldersUp parent
  let location ← Disk.openForWriting p f.executable
  Disk.changeFile location fun _ => f

/-- Puts one thing on a disk. What cannot be put there is left out. -/
def place (disk : Node) : Item → Node
  | .folder p =>
    match Disk.makeFolders p disk with
    | .ok () disk => disk
    | .error _ disk => disk
  | .file p f =>
    match placeFile p f disk with
    | .ok () disk => disk
    | .error _ disk => disk

/-- Puts things on a disk, in order. -/
def layOut (disk : Node) (items : List Item) : Node :=
  items.foldl place disk

/-! ### Packaging with all names given -/

/-- A packaging whose names are given, with the programs `deploy` and `pack` as its tools. -/
def packaging (executableSuffix : String) (symbolsSuffix : Option String) (extension : String)
    (plugins svgStem : String) : Packaging where
  name := "custom"
  executable stem := stem ++ executableSuffix
  symbols stem := symbolsSuffix.map (stem ++ ·)
  extension := extension
  deploy executable imageFormats folder :=
    { program := "deploy", args := [executable, Choice.name imageFormats], folder }
  plugins := ⟨plugins⟩
  svgStem := svgStem
  compress archive inputs folder :=
    { program := "pack", args := ["c", "-", archive.text] ++ inputs, folder }

end ReleasePipeline.Rehearsal
