import ReleasePipeline.Disk.Walk
import ReleasePipeline.Failure
import ReleasePipeline.Job.Settings
import ReleasePipeline.SearchPath

/-!
# ReleasePipeline.Toolchain

From compiler selectors to programs. A selector of several path components is tried as a path from
the current folder and nowhere else; any other is tried in each folder of the search path, in order.
The first candidate that is an executable regular file is taken, and its path is given as it was put
together. So `candidates` says all there is to a selector, and the disk only picks from it.
-/

namespace ReleasePipeline.Toolchain

/-- The programs that a job's compilers are. -/
structure Compilers where
  cc : Path
  cxx : Path
  deriving DecidableEq, Repr

/-- The variables that tell a build tool which compilers to use. -/
def Compilers.env (compilers : Compilers) : List (String × String) :=
  [(Setting.cc, compilers.cc.text), (Setting.cxx, compilers.cxx.text)]

/-! ### Candidates -/

/-- A folder with a leading `~` replaced by the home folder, if there is one. -/
def expandHome (home : Option String) (folder : Path) : Path :=
  match folder.components, home with
  | .name "~" :: rest, some home =>
    if home.toList = [] then folder else Path.extend ⟨home⟩ rest
  | _, _ => folder

/-- Whether a selector has several path components. -/
def isPathLike (selector : String) : Bool :=
  1 < (Path.mk selector).components.length

/-- A selector as a path from a folder. -/
def fromFolder (folder : Path) (selector : String) : Path :=
  let p : Path := ⟨selector⟩
  if p.isAbsolute then p
  else folder.extend (p.components.dropWhile (· = .here))

/-- The paths that a selector may stand for, in the order in which they are tried. -/
def candidates (home : Option String) (searchPath : Option SearchPath) (cwd : Path)
    (selector : String) : Except LookupFault (List Path) :=
  if isPathLike selector then .ok [fromFolder cwd selector]
  else
    match searchPath with
    | none => .error .noSearchPath
    | some folders => .ok (folders.map fun folder => expandHome home folder / selector)

/-! ### Resolving -/

/-- The program that a selector names. A candidate that is a relative path is seen from the folder
of the process. -/
def find (disk : Node) (processFolder : Path) (home : Option String)
    (searchPath : Option SearchPath) (cwd : Path) (selector : String) :
    Except LookupFault Path := do
  let tried ← candidates home searchPath cwd selector
  match tried.find? (Disk.isExecutable disk processFolder) with
  | some p => .ok p
  | none => .error .nowhere

/-- The program that a compiler selector names. -/
def resolve (disk : Node) (processFolder : Path) (home : Option String)
    (searchPath : Option SearchPath) (cwd : Path) (setting : String) (selector : Option String) :
    Except Failure (String × Path) :=
  match selector with
  | none => .error (.missingVariable setting)
  | some program =>
    match find disk processFolder home searchPath cwd program with
    | .ok p => .ok (program, p)
    | .error cause => .error (.compilerNotFound setting program cause)

end ReleasePipeline.Toolchain
