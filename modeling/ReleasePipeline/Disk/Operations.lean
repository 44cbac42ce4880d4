import ReleasePipeline.Disk.Walk

/-!
# ReleasePipeline.Disk.Operations

What a program can do to a disk. An operation runs on the tree and ends with a value or a fault; a
fault leaves the tree as far as the operation got, which matters for the two that do more than one
thing: removing a tree and creating a folder with its ancestors.

A file that is open is known by its location. Opening and reading are two operations, because a
folder can be opened but not read.
-/

namespace ReleasePipeline

/-- An operation on the disk. -/
abbrev DiskM := EStateM Fault Node

namespace Disk

/-- Runs a check that changes nothing. -/
def check (test : Node → Except Fault α) : DiskM α := fun root =>
  match test root with
  | .ok a => .ok a root
  | .error fault => .error fault root

/-- The outcome of an operation, as a value. The tree stays as the operation left it. -/
def outcome (op : DiskM α) : DiskM (Except Fault α) := fun root =>
  match op root with
  | .ok a root => .ok (.ok a) root
  | .error fault root => .ok (.error fault) root

/-! ### Folders -/

/-- Creates a folder at a place. -/
def makeFolderAt (place : Place) : DiskM Unit := fun root =>
  match place.last with
  | .name name =>
    if isTooLong name then .error .nameTooLong root
    else if (root.get? (place.folder ++ [.text name])).isSome then .error .occupied root
    else .ok () (root.put (place.folder ++ [.text name]) (.folder []))
  | _ => .error .occupied root

/-- Creates a folder. Its parent has to exist. -/
def makeFolder (p : Path) : DiskM Unit := do
  makeFolderAt (← check (place · p))

/-- Creates the folder that some segments lead to. If something on the way is missing, `above` has
to create it. A folder that is there already is fine. -/
def makeFolderOr (above : DiskM Unit) (segments : List String) : DiskM Unit := do
  let make := do makeFolderAt (← check (placeOf · segments false))
  let orExisting (fault : Fault) : DiskM Unit := fun root =>
    match walk root [] segments with
    | .ok location => if root.isFolderAt location then .ok () root else .error fault root
    | .error _ => .error fault root
  match ← outcome make with
  | .ok () => pure ()
  | .error fault =>
    if fault.saysMissing then do
      above
      match ← outcome make with
      | .ok () => pure ()
      | .error fault => orExisting fault
    else orExisting fault

/-- Creates a folder and the folders above it that are missing. The segments are given from the last
to the first. -/
def makeFoldersUp : List String → DiskM Unit
  | [] => pure ()
  | last :: above => makeFolderOr (makeFoldersUp above) (last :: above).reverse

/-- Creates a folder and the folders above it that are missing. A final `.` is no name, so it asks
for a folder that is there already. -/
def makeFolders (p : Path) : DiskM Unit :=
  if hasNul p then throw .nulInPath
  else if isTooLongPath p then throw .nameTooLong
  else makeFolderOr (makeFoldersUp (p.segments.filter (· ≠ ".")).dropLast.reverse) p.segments

/-- How the disk orders the entries of a folder when it lists them. -/
structure ListingOrder where
  arrange : List EntryName → List EntryName
  perm : ∀ names, (arrange names).Perm names

/-- The order of names. -/
def ListingOrder.byName : ListingOrder := ⟨id, fun _ => .refl _⟩

/-- The names in a folder, in the disk's order. -/
def list (order : ListingOrder) (p : Path) : DiskM (List EntryName) := fun root =>
  match locate root p with
  | .ok location =>
    match root.get? location with
    | some (.folder entries) => .ok (order.arrange (Node.folder entries).names) root
    | _ => .error .notFolder root
  | .error fault => .error fault root

/-! ### Files -/

/-- Opens a file or folder for reading. -/
def openForReading (p : Path) : DiskM Location :=
  check (locate · p)

/-- The bytes of an open file. A folder cannot be read. -/
def readAt (location : Location) : DiskM Bytes := fun root =>
  match root.get? location with
  | some (.file f) => .ok f.content root
  | some (.folder _) => .error .isFolder root
  | none => .error .noEntry root

/-- Opens a file for writing, and creates it empty if it is missing. -/
def openForWriting (p : Path) (executable : Bool) : DiskM Location := do
  let place ← check (place · p)
  match place.last with
  | .name name =>
    if place.slash then throw .isFolder
    else if isTooLong name then throw .nameTooLong
    else
      let location := place.folder ++ [.text name]
      fun root =>
        match root.get? location with
        | some (.folder _) => .error .isFolder root
        | some (.file _) => .ok location root
        | none => .ok location (root.put location (.file { content := [], executable }))
  | _ => throw .isFolder

/-- Changes the file at a location, if there is one. -/
def changeFile (location : Location) (change : File → File) : DiskM Unit := fun root =>
  match root.get? location with
  | some (.file f) => .ok () (root.put location (.file (change f)))
  | _ => .ok () root

/-- Appends to an open file. A file that is written to is no stand-in tool any more. -/
def appendAt (location : Location) (content : Bytes) : DiskM Unit :=
  changeFile location fun f => { f with content := f.content ++ content, script := none }

/-- Writes a file with exactly these bytes. A file that is there keeps its permissions. -/
def writeFile (p : Path) (content : Bytes) : DiskM Unit := do
  let location ← openForWriting p false
  changeFile location fun f => { f with content, script := none }

/-- Copies a regular file with its permissions over whatever file the target names. The target is
emptied before the source is read, so a file copied onto itself ends up empty. -/
def copyFile (source target : Path) : DiskM Unit := do
  let sourceAt ← openForReading source
  let copied ← check fun root =>
    match root.get? sourceAt with
    | some (.file f) => .ok f
    | _ => .error .notRegular
  let targetAt ← openForWriting target copied.executable
  changeFile targetAt fun _ =>
    if sourceAt = targetAt then { content := [], executable := copied.executable } else copied

/-- Removes the file at a location. A slash behind its name asks for a folder. -/
def removeFileAt (location : Location) (slash : Bool) : DiskM Unit := fun root =>
  match root.get? location with
  | some (.folder _) => .error .isFolder root
  | some (.file _) => if slash then .error .notFolder root else .ok () (root.remove location)
  | none => .error .noEntry root

/-- Removes a file. -/
def removeFile (p : Path) : DiskM Unit := do
  let place ← check (place · p)
  match place.last with
  | .name name =>
    if isTooLong name then throw .nameTooLong
    else removeFileAt (place.folder ++ [.text name]) place.slash
  | _ => throw .isFolder

/-- Removes a file that the listing of a folder has named. -/
def removeListed : EntryPath → DiskM Unit
  | .text p => removeFile p
  | .raw folder name => do
    let around ← check (folderAround · folder name)
    if isTooLong (.raw name) then throw .nameTooLong
    else removeFileAt (around ++ [.raw name]) false

/-! ### Trees -/

/-- Removes an empty folder. -/
def removeFolder (p : Path) : DiskM Unit := do
  let place ← check (place · p)
  match place.last with
  | .root => throw .busy
  | .here => throw .invalidArgument
  | .up => throw .notEmpty
  | .name name =>
    if isTooLong name then throw .nameTooLong
    else
      let location := place.folder ++ [.text name]
      fun root =>
        match root.get? location with
        | some (.folder []) => .ok () (root.remove location)
        | some (.folder (_ :: _)) => .error .notEmpty root
        | some (.file _) => .error .notFolder root
        | none => .error .noEntry root

/-- Removes a folder with all that is below it. The folder is emptied first; if its own name is gone
by then, because the path led through what was emptied, nothing is left to do. -/
def removeTree (p : Path) : DiskM Unit := do
  let location ← check (locate · p)
  let isFolder ← check fun root => .ok (root.isFolderAt location)
  if isFolder then
    modify (·.put location (.folder []))
    match ← outcome (removeFolder p) with
    | .ok () => pure ()
    | .error fault => if fault.saysMissing then pure () else throw fault
  else throw .notFolder

/-- Removes a file, or a folder with all that is below it. -/
def removeAny (p : Path) : DiskM Unit := do
  if ← check fun root => .ok (isFolder root p) then removeTree p else removeFile p

/-! ### Renaming -/

/-- Whether a node may take the place of what stands at a location: a file that of a file, a folder
that of an empty folder. -/
def mayReplace (moved : Node) : Option Node → Except Fault Unit
  | none => .ok ()
  | some (.file _) => if moved.isFolder then .error .notFolder else .ok ()
  | some (.folder entries) =>
    if !moved.isFolder then .error .isFolder
    else if entries.isEmpty then .ok ()
    else .error .notEmpty

/-- Moves an entry, whether file or folder, to another name. -/
def rename (source target : Path) : DiskM Unit := do
  if hasNul source || hasNul target then throw .nulInPath
  let origin ← check (place · source)
  let goal ← check (place · target)
  match origin.last, goal.last with
  | .name oldName, .name newName =>
    let old := origin.folder ++ [.text oldName]
    let new := goal.folder ++ [.text newName]
    if isTooLong oldName then throw .nameTooLong
    fun root =>
      match root.get? old with
      | none => .error .noEntry root
      | some moved =>
        if isTooLong newName then .error .nameTooLong root
        else if !moved.isFolder && (origin.slash || goal.slash) then .error .notFolder root
        else if old = new then .ok () root
        else if old.isPrefixOf new then .error .invalidArgument root
        else if new.isPrefixOf old then .error .notEmpty root
        else
          match mayReplace moved (root.get? new) with
          | .ok () => .ok () ((root.remove old).put new moved)
          | .error fault => .error fault root
  | _, _ => throw .busy

end Disk

end ReleasePipeline
