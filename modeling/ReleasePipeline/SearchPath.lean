import ReleasePipeline.Path
import ReleasePipeline.Text.Utf8

/-!
# ReleasePipeline.SearchPath

Where programs are looked for: folders in order, written with colons between them. An empty part is
the empty path, which stands for the folder that relative paths are seen from. Folders are texts
here. A part whose bytes spell none is left out: it could only lead through an entry whose name is no
text either.
-/

namespace ReleasePipeline

/-- The folders in which programs are looked for, in order. -/
abbrev SearchPath := List Path

namespace SearchPath

/-- The search path that a text spells. -/
def ofText (text : String) : SearchPath :=
  (text.toList.splitOn ':').map fun part => ⟨String.ofList part⟩

/-- The search path that bytes spell. -/
def ofBytes (bytes : Bytes) : SearchPath :=
  ((bytes.splitOn (UInt8.ofNat ':'.toNat)).filterMap Utf8.decode?).map Path.mk

end SearchPath

end ReleasePipeline
