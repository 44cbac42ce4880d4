import ReleasePipeline.Failure
import ReleasePipeline.Job.Basic
import ReleasePipeline.ToolCall

/-!
# ReleasePipeline.Packaging

What a release looks like on one system. Making a release is the same everywhere but for file names
and the two tools that bring in the GUI runtime and compress the result; those are the fields of
`Packaging`, and a further system is a further value of it.

The tools are handed paths as arguments, and arguments are texts. A path is one already, so it is
handed on as it is and no replacement characters come in (see `Path`).
-/

namespace ReleasePipeline

/-- How releases are packaged on one system. -/
structure Packaging where
  /-- A short name for logs. -/
  name : String
  /-- The file name of an executable, from its stem. -/
  executable : String → String
  /-- The file name of the debug symbols beside an executable, if they are a file of their own. -/
  symbols : String → Option String
  /-- The extension of compressed files, without the point. -/
  extension : String
  /-- The call that brings the GUI runtime into a folder, next to an executable there. -/
  deploy : String → ImageFormats → Path → ToolCall
  /-- Where image format plugins are, seen from the executable. -/
  plugins : Path
  /-- How the name of the SVG plugin starts. -/
  svgStem : String
  /-- The call that compresses inputs, seen from a folder, into an archive. -/
  compress : Path → List String → Path → ToolCall

namespace Packaging

/-- The compression level. Speed matters more than size. -/
def compressionLevel : Nat := 3

/-- Packaging on Windows. -/
def windows : Packaging where
  name := "windows"
  executable stem := stem ++ ".exe"
  symbols stem := some (stem ++ ".pdb")
  extension := "7z"
  deploy executable imageFormats folder :=
    let call : ToolCall :=
      { program := "windeployqt.exe"
        args := [executable, "--no-compiler-runtime", "--no-angle", "--no-opengl-sw"]
        folder }
    match imageFormats with
    | .keepSvg => call
    | .removeAll => call.arg "--no-svg"
  plugins := ⟨"imageformats"⟩
  svgStem := "qsvg"
  compress archive inputs folder :=
    { program := "7z"
      args := ["a", "-mx=" ++ toString compressionLevel, archive.text] ++ inputs
      folder }

/-- The packaging of a system, by the system's name. -/
def ofSystem (system : String) : Except Failure Packaging :=
  if system = "windows" then .ok windows else .error (.unsupportedSystem system)

end Packaging

end ReleasePipeline
