import ReleasePipeline.Disk.Fault
import ReleasePipeline.Disk.Node

/-!
# ReleasePipeline.Disk.Walk

Finding the location that a path names. The walk starts at the root and takes one segment at a time:
`.` stays, `..` goes one up (the root is its own parent), and a name goes down if the folder has
such an entry. Every step but the last has to end at a folder, and so has the last if the path ends
in a slash.

A text is taken as a path at all only if it has no NUL character, is not empty and is not too long.

Operations that add, remove or rename an entry do not look up the last segment; they use `place`,
which walks to the folder around it.
-/

namespace ReleasePipeline.Disk

/-- Whether a name is longer than the 255 bytes that a folder entry can have. -/
def isTooLong (name : EntryName) : Bool :=
  name.size > 255

/-- Whether a path holds a NUL character. -/
def hasNul (p : Path) : Bool :=
  p.text.toList.contains '\x00'

/-- The number of bytes that a path cannot reach. -/
def pathLimit : Nat := 4096

/-- Whether a path is longer than the system takes. -/
def isTooLongPath (p : EntryPath) : Bool :=
  pathLimit ≤ p.size

/-- Refuses texts that the system takes for no path. -/
def accept (p : Path) : Except Fault Unit :=
  if hasNul p then .error .nulInPath
  else if p.text.toList = [] then .error .noEntry
  else if isTooLongPath p then .error .nameTooLong
  else .ok ()

/-! ### Whole paths -/

/-- One step of a walk. -/
def step (root : Node) (here : Location) (segment : String) : Except Fault Location :=
  match root.get? here with
  | some (.folder entries) =>
    if segment = "." then .ok here
    else if segment = ".." then .ok here.dropLast
    else if isTooLong segment then .error .nameTooLong
    else if (entries.lookup (.text segment)).isSome then .ok (here ++ [.text segment])
    else .error .noEntry
  | some (.file _) => .error .notFolder
  | none => .error .noEntry

/-- The location that segments lead to. -/
def walk (root : Node) : Location → List String → Except Fault Location
  | here, [] => .ok here
  | here, segment :: rest =>
    match step root here segment with
    | .ok next => walk root next rest
    | .error fault => .error fault

/-- The location that the segments of a path lead to from the root. -/
def follow (root : Node) (p : Path) : Except Fault Location :=
  match walk root [] p.segments with
  | .ok location =>
    if p.endsInSlash && !root.isFolderAt location then .error .notFolder else .ok location
  | .error fault => .error fault

/-- The location that a path names, seen from a folder. The system is given the path alone, so it is
the path itself that must not be too long. -/
def locateFrom (root : Node) (folder p : Path) : Except Fault Location :=
  match accept p with
  | .ok () => follow root (folder / p)
  | .error fault => .error fault

/-- The location that a path names. A relative path is seen from the root. -/
def locate (root : Node) (p : Path) : Except Fault Location :=
  match accept p with
  | .ok () => follow root p
  | .error fault => .error fault

/-- Whether a path names a folder. -/
def isFolder (root : Node) (p : Path) : Bool :=
  match locate root p with
  | .ok location => root.isFolderAt location
  | .error _ => false

/-- Whether a path, seen from a folder, names a regular file that may be executed. -/
def isExecutable (root : Node) (folder p : Path) : Bool :=
  match locateFrom root folder p with
  | .ok location =>
    match root.get? location with
    | some (.file f) => f.executable
    | _ => false
  | .error _ => false

/-! ### The last segment -/

/-- What the last segment of a path is. -/
inductive Last where
  | root
  | here
  | up
  | name (text : String)
  deriving DecidableEq, Repr

/-- The folder around the last segment of a path, that segment, and whether a slash follows it. -/
structure Place where
  folder : Location
  last : Last
  slash : Bool
  deriving DecidableEq, Repr

/-- The kind of a last segment. -/
def Last.ofSegment (segment : String) : Last :=
  if segment = "." then .here else if segment = ".." then .up else .name segment

/-- The folder that segments lead to. -/
def walkToFolder (root : Node) (segments : List String) : Except Fault Location :=
  match walk root [] segments with
  | .ok folder => if root.isFolderAt folder then .ok folder else .error .notFolder
  | .error fault => .error fault

/-- The place of the last of some segments. -/
def placeOf (root : Node) (segments : List String) (slash : Bool) : Except Fault Place :=
  match segments.getLast? with
  | none => .ok ⟨[], .root, slash⟩
  | some segment =>
    match walkToFolder root segments.dropLast with
    | .ok folder => .ok ⟨folder, .ofSegment segment, slash⟩
    | .error fault => .error fault

/-- The place of the last segment of a path. -/
def place (root : Node) (p : Path) : Except Fault Place :=
  match accept p with
  | .ok () => placeOf root p.segments p.endsInSlash
  | .error fault => .error fault

/-! ### Entries without a text -/

/-- Refuses what the system takes for no path, also where the last name is no text. -/
def acceptEntry : EntryPath → Except Fault Unit
  | .text p => accept p
  | .raw folder name =>
    if hasNul folder then .error .nulInPath
    else if isTooLongPath (.raw folder name) then .error .nameTooLong
    else .ok ()

/-- The folder around an entry whose name is no text. -/
def folderAround (root : Node) (folder : Path) (name : RawName) : Except Fault Location :=
  match acceptEntry (.raw folder name) with
  | .ok () => walkToFolder root folder.segments
  | .error fault => .error fault

end ReleasePipeline.Disk
