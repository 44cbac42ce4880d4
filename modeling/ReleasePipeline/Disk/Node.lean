import ReleasePipeline.Disk.Name

/-!
# ReleasePipeline.Disk.Node

What a disk holds, as a tree of files and folders. A location is the list of names from the root
down. Three operations work on locations, and everything else is built from them: `get?` looks up,
`put` places a whole subtree, `remove` takes one away.

The tree is all there is to a disk here. Left out are links, special files, access rights (but for
the permission to execute a file), mounts, quotas and the limit on open files: whatever a program
may find in the tree it may also read, change and remove.

`entryAt?` is the view to reason with: what stands at one location by itself, without what lies
below. A change at a location leaves every entry that is neither there nor below as it was.
-/

namespace ReleasePipeline

/-- How a run of a stand-in tool ends. -/
inductive Ending where
  | exit (code : Nat)
  | signal (number : Nat)
  deriving DecidableEq, Repr

/-- What a stand-in tool does when it is run: it appends a line to a record and ends. -/
structure Script where
  record : Path
  ending : Ending
  deriving DecidableEq, Repr

/-- A regular file: its bytes, whether it may be executed, and what running it does if it is a
stand-in tool. -/
structure File where
  content : Bytes
  executable : Bool := false
  script : Option Script := none
  deriving DecidableEq, Repr

/-- A file, or a folder with its entries by name. -/
inductive Node where
  | file (f : File)
  | folder (entries : List (EntryName × Node))
  deriving Inhabited

/-- The names on the way from the root. -/
abbrev Location := List EntryName

/-- What stands at one location by itself. -/
inductive Entry where
  | file (f : File)
  | folder
  deriving DecidableEq, Repr

namespace Node

/-! ### Looking up -/

/-- A node by itself. -/
def entry : Node → Entry
  | .file f => .file f
  | .folder _ => .folder

/-- Whether a node is a folder. -/
def isFolder : Node → Bool
  | .file _ => false
  | .folder _ => true

/-- The entries of a folder; a file has none. -/
def entries : Node → List (EntryName × Node)
  | .file _ => []
  | .folder entries => entries

/-- The node at a location. -/
def get? (node : Node) : Location → Option Node
  | [] => some node
  | name :: rest =>
    match node.entries.lookup name with
    | some child => child.get? rest
    | none => none

/-- What stands at a location by itself. -/
def entryAt? (node : Node) (location : Location) : Option Entry :=
  (node.get? location).map entry

/-- Whether a location holds a folder. -/
def isFolderAt (node : Node) (location : Location) : Bool :=
  (node.get? location).any isFolder

/-! ### Changing -/

/-- Entries with one name taken out. -/
def dropEntry (entries : List (EntryName × Node)) (name : EntryName) : List (EntryName × Node) :=
  entries.filter (·.1 ≠ name)

/-- Entries with one name bound to a node. -/
def bindEntry (entries : List (EntryName × Node)) (name : EntryName) (node : Node) :
    List (EntryName × Node) :=
  (name, node) :: dropEntry entries name

/-- The tree with a node in place of whatever stood at a location. A location without an enclosing
folder takes nothing. -/
def put (node : Node) (location : Location) (new : Node) : Node :=
  match location with
  | [] => new
  | [name] =>
    match node with
    | .folder entries => .folder (bindEntry entries name new)
    | .file f => .file f
  | name :: rest =>
    match node with
    | .folder entries =>
      match entries.lookup name with
      | some child => .folder (bindEntry entries name (child.put rest new))
      | none => .folder entries
    | .file f => .file f

/-- The tree without what stood at a location and below. The root stays. -/
def remove (node : Node) (location : Location) : Node :=
  match location with
  | [] => node
  | [name] =>
    match node with
    | .folder entries => .folder (dropEntry entries name)
    | .file f => .file f
  | name :: rest =>
    match node with
    | .folder entries =>
      match entries.lookup name with
      | some child => .folder (bindEntry entries name (child.remove rest))
      | none => .folder entries
    | .file f => .file f

/-! ### Listing -/

/-- The names in a folder, each once, in ascending order of their bytes. -/
def names (node : Node) : List EntryName :=
  ((node.entries.map Prod.fst).eraseDups).mergeSort (fun a b => decide (a.bytes ≤ b.bytes))

mutual
/-- Every location below a node, with what stands there, a folder before its entries. -/
def contents : Node → List (Location × Entry)
  | .file _ => []
  | .folder entries => contentsOf entries

/-- The contents of a list of entries. -/
def contentsOf : List (EntryName × Node) → List (Location × Entry)
  | [] => []
  | (name, node) :: rest =>
    ([name], node.entry) ::
      (node.contents.map fun (location, entry) => (name :: location, entry)) ++ contentsOf rest
end

end Node

end ReleasePipeline
