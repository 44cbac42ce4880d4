import ReleasePipeline.Digest.Sha256
import ReleasePipeline.Packaging
import ReleasePipeline.Stage.Pipeline

/-!
# ReleasePipeline.Stage.Release

The archive stage: assemble a release in a staging folder, compress it, and publish the debug
symbols beside it. The order of the steps is what makes a second run give the same release as the
first:

* the staging folder is wiped before anything is staged, so nothing of an earlier run is shipped;
* plugins are pruned after the deployment tool has run and before compressing;
* an archive of an earlier run is removed right before its successor is made, since the compressing
  tool would otherwise merge into it;
* an artifact is digested from the file that is there afterwards, so a tool that succeeds without
  writing it is a failure.
-/

namespace ReleasePipeline

/-- A published file and the digest of its bytes. -/
structure Artifact where
  path : Path
  sha256 : String
  deriving DecidableEq, Repr

/-- What the archive stage published. -/
structure Release where
  application : Artifact
  symbols : Option Artifact
  deriving DecidableEq, Repr

namespace Pipeline

/-- The folder that becomes the root of the application archive. -/
def stagingFolder : String := "archive-root"

/-- The stem of the application's executable. -/
def applicationStem : String := "exotracker-qt"

/-! ### Steps on the disk -/

/-- Makes a folder anew, without anything in it. -/
def recreateFolder (folder : Path) : Stage σ Unit := do
  match ← Stage.onDisk (Disk.removeTree folder) with
  | .ok () => Stage.report (.stagingRemoved folder)
  | .error fault =>
    if fault.saysMissing then pure () else throw (.diskFailed "remove" folder fault)
  Stage.attempt "create" folder (Disk.makeFolder folder)

/-- Removes a file that need not be there. -/
def removeIfPresent (p : Path) : Stage σ Unit := do
  match ← Stage.onDisk (Disk.removeFile p) with
  | .ok () => pure ()
  | .error fault => if fault.saysMissing then pure () else throw (.diskFailed "remove" p fault)

/-- Brings the executable into the staging folder. -/
def transfer (source target : Path) (mode : ExecutableTransfer) : Stage σ Unit := do
  Stage.report (.stagingExecutable source target mode)
  match mode with
  | .copy => Stage.attempt "copy" source (Disk.copyFile source target)
  | .move => Stage.attempt "move" source (Disk.rename source target)

/-- Whether a plugin is the one for SVG. A name that is no text starts like none. -/
def isSvgPlugin (svgStem : String) (name : EntryName) : Bool :=
  name.text?.any fun text => svgStem.toList.isPrefixOf text.toList

/-- Removes the plugins of a folder by name, but for the one for SVG. -/
def prunePlugins (folder : Path) (svgStem : String) : List EntryName → Stage σ Unit
  | [] => pure ()
  | name :: rest => do
    if !isSvgPlugin svgStem name then
      Stage.report (.removingPlugin (folder / name))
      Stage.attempt "remove" (folder / name) (Disk.removeListed (folder / name))
    prunePlugins folder svgStem rest

/-- Drops the image format plugins that are not shipped. A missing folder means that none were
deployed. -/
def pruneImageFormats (listing : Disk.ListingOrder) (folder : Path) (svgStem : String)
    (imageFormats : ImageFormats) : Stage σ Unit := do
  if Disk.isFolder (← Stage.disk) folder then
    match imageFormats with
    | .removeAll => Stage.attempt "remove" folder (Disk.removeTree folder)
    | .keepSvg =>
      let names ← Stage.attempt "list" folder (Disk.list listing folder)
      prunePlugins folder svgStem names
  else Stage.report (.noPlugins folder)

/-- The artifact that a path holds. -/
def artifact (p : Path) : Stage σ Artifact := do
  let file ← Stage.attempt "open" p (Disk.openForReading p)
  let content ← Stage.attempt "read" p (Disk.readAt file)
  return ⟨p, Sha256.digest content⟩

/-! ### The stage -/

/-- Fills the staging folder, which is the current one, and compresses it. -/
def assemble (pipeline : Pipeline σ) (packaging : Packaging) (buildFolder archive : Path) :
    Stage σ Unit := do
  let cwd ← Stage.cwd
  let policy := pipeline.job.policy
  let executable := packaging.executable applicationStem
  transfer (buildFolder / executable) (cwd / executable) policy.executable
  Stage.report .deployingRuntime
  Stage.call pipeline.runner (packaging.deploy executable policy.imageFormats cwd)
  pruneImageFormats pipeline.host.listing (cwd / packaging.plugins) packaging.svgStem
    policy.imageFormats
  removeIfPresent archive
  Stage.call pipeline.runner (packaging.compress archive ["."] cwd)

/-- Publishes the debug symbols, compressed or as they are, and gives the artifact. -/
def publishSymbols (pipeline : Pipeline σ) (packaging : Packaging) (source base root : Path) :
    Stage σ Artifact := do
  let published := base.addExtension "pdb"
  match pipeline.job.policy.debugSymbols with
  | .compress =>
    let archive := published.addExtension packaging.extension
    removeIfPresent archive
    Stage.call pipeline.runner (packaging.compress archive [source.text] root)
    artifact archive
  | .rename =>
    Stage.attempt "copy" source (Disk.copyFile source published)
    artifact published

/-- The archive stage. -/
def archive (pipeline : Pipeline σ) (packaging : Packaging) : Stage σ Release := do
  let root ← Stage.cwd
  let buildFolder ← pipeline.existingBuildFolder
  let base ← Stage.path ⟨pipeline.job.archiveName⟩
  Stage.report (.assembling packaging.name base pipeline.job.policy)
  let staging ← Stage.path ⟨stagingFolder⟩
  recreateFolder staging
  let archive := base.addExtension packaging.extension
  Stage.within staging (pipeline.assemble packaging buildFolder archive)
  let application ← artifact archive
  Stage.report (.archiveReady application.path application.sha256)
  match packaging.symbols applicationStem with
  | none => return ⟨application, none⟩
  | some name =>
    let symbols ← pipeline.publishSymbols packaging (buildFolder / name) base root
    Stage.report (.symbolsReady symbols.path symbols.sha256)
    return ⟨application, some symbols⟩

end Pipeline

end ReleasePipeline
