import ReleasePipeline.Path
import ReleasePipeline.Text.Utf8

/-!
# ReleasePipeline.Disk.Name

What the entries of a folder are called. A name is a string of bytes without NUL and without slash,
and nothing says that the bytes spell a text. `EntryName` keeps the two cases apart: a name that is a
text is given by that text, any other by its bytes.

Paths that the program is given or makes up itself are texts (`Path`), so none of them has a name on
it that spells no text. The program meets such a name only when it lists a folder, and the path of
the entry it then has (`EntryPath`) is the text of the folder with the bytes of the name behind it.
-/

namespace ReleasePipeline

/-- A name whose bytes spell no text. -/
structure RawName where
  bytes : Bytes
  no_text : Utf8.decode? bytes = none
  no_nul : 0x00 ∉ bytes
  no_slash : 0x2F ∉ bytes
  deriving DecidableEq, Repr

/-- The name of an entry. -/
inductive EntryName where
  | text (s : String)
  | raw (name : RawName)
  deriving DecidableEq, Repr

namespace EntryName

instance : Coe String EntryName := ⟨.text⟩

/-- The bytes of a name. -/
def bytes : EntryName → Bytes
  | .text s => Utf8.encode s
  | .raw name => name.bytes

/-- The number of bytes of a name. -/
def size : EntryName → Nat
  | .text s => s.utf8ByteSize
  | .raw name => name.bytes.length

/-- The text that a name is, if it is one. -/
def text? : EntryName → Option String
  | .text s => some s
  | .raw _ => none

/-- A name as it is shown, with U+FFFD for what is no text. -/
def shown : EntryName → String
  | .text s => s
  | .raw name => Utf8.decodeLossy name.bytes

end EntryName

/-- The path of an entry: a text, or that of the folder if the name of the entry is no text. -/
inductive EntryPath where
  | text (p : Path)
  | raw (folder : Path) (name : RawName)
  deriving DecidableEq, Repr

namespace EntryPath

instance : Coe Path EntryPath := ⟨.text⟩

/-- The path of an entry of a folder. -/
def ofName (folder : Path) : EntryName → EntryPath
  | .text s => .text (folder / s)
  | .raw name => .raw folder name

instance : HDiv Path EntryName EntryPath := ⟨ofName⟩

/-- The number of bytes of a path. -/
def size : EntryPath → Nat
  | .text p => p.text.utf8ByteSize
  | .raw folder name => (folder / "").text.utf8ByteSize + name.bytes.length

/-- A path as it is shown, with U+FFFD for what is no text. -/
def shown : EntryPath → String
  | .text p => p.text
  | .raw folder name => (folder / "").text ++ Utf8.decodeLossy name.bytes

end EntryPath

end ReleasePipeline
