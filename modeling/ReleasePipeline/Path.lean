
/-!
# ReleasePipeline.Path

Paths as text. A path is kept as it was written: joining appends and never normalises, so what is
logged, handed to a tool or named in a failure is the text itself. Paths whose bytes spell no text
are left out, and with them the replacement characters that such bytes become where a path is made
into a text: on a path that is a text this changes nothing. Three views read the text:

* `segments`, the non-empty parts between slashes, for walking the disk;
* `components`, for comparing and re-joining: repeated slashes, a final slash and every `.` but a
  leading one do not count;
* `absolute`, the normal form of a workspace's root.
-/

namespace ReleasePipeline

/-- A path, as text. -/
structure Path where
  text : String
  deriving DecidableEq, Repr, Inhabited

namespace Path

/-! ### Shape -/

/-- Whether a path starts at the root. -/
def isAbsolute (p : Path) : Bool :=
  p.text.toList.head? == some '/'

/-- Whether a path ends in a slash. -/
def endsInSlash (p : Path) : Bool :=
  p.text.toList.getLast? == some '/'

/-- Whether a path starts with exactly two slashes. -/
def hasDoubleRoot (p : Path) : Bool :=
  match p.text.toList with
  | '/' :: '/' :: '/' :: _ => false
  | '/' :: '/' :: _ => true
  | _ => false

/-! ### Joining -/

/-- A path seen from a directory: an absolute path replaces the directory, any other is appended
after one slash. Nothing is normalised; joining the empty path adds a final slash. -/
def join (folder p : Path) : Path :=
  if p.isAbsolute then p
  else if folder.text.toList = [] ∨ folder.endsInSlash then ⟨folder.text ++ p.text⟩
  else ⟨folder.text ++ "/" ++ p.text⟩

instance : Div Path := ⟨join⟩

instance : HDiv Path String Path := ⟨fun folder name => folder.join ⟨name⟩⟩

/-- A path with a point and an extension appended, whatever points its name already has. -/
def addExtension (p : Path) (extension : String) : Path :=
  ⟨p.text ++ "." ++ extension⟩

/-! ### Parts -/

/-- The non-empty parts between slashes, in order. -/
def segments (p : Path) : List String :=
  ((p.text.toList.splitOn '/').filter (· ≠ [])).map String.ofList

/-- One component of a path. `here` stands only at the front of a relative path. -/
inductive Component where
  | root
  | here
  | up
  | name (text : String)
  deriving DecidableEq, Repr

/-- The component that a segment is. -/
def Component.ofSegment (segment : String) : Component :=
  if segment = "." then .here else if segment = ".." then .up else .name segment

/-- A component as path text. -/
def Component.toPath : Component → Path
  | .root => ⟨"/"⟩
  | .here => ⟨"."⟩
  | .up => ⟨".."⟩
  | .name text => ⟨text⟩

/-- The components of a path. -/
def components (p : Path) : List Component :=
  let parts := p.segments.map Component.ofSegment
  let rest := parts.filter (· ≠ .here)
  if p.isAbsolute then .root :: rest
  else if parts.head? = some .here then .here :: rest
  else rest

/-- Whether two paths have the same components. -/
def same (p q : Path) : Bool :=
  p.components == q.components

/-- A path with components joined on, one after another. -/
def extend (p : Path) (parts : List Component) : Path :=
  parts.foldl (fun p part => p / part.toPath) p

/-- The last component, if it is a name. -/
def name? (p : Path) : Option String :=
  match p.components.getLast? with
  | some (.name text) => some text
  | _ => none

/-! ### Absolute paths -/

/-- The components of a path without a leading `.`. -/
def componentsFromHere (p : Path) : List Component :=
  p.components.filter (· ≠ .here)

/-- The normal form of a path seen from a directory: `.` and repeated slashes vanish, `..` and a
final slash stay, and exactly two leading slashes stay two. The empty path has none. -/
def absolute? (folder p : Path) : Option Path :=
  if p.text.toList = [] then none
  else
    let parts := p.componentsFromHere
    let joined :=
      if p.isAbsolute then
        if p.hasDoubleRoot then extend ⟨"//"⟩ (parts.drop 1) else extend ⟨""⟩ parts
      else extend folder parts
    some (if p.endsInSlash then joined / (⟨""⟩ : Path) else joined)

end Path

end ReleasePipeline
