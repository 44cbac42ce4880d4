import ReleasePipeline.Proofs.Disk.Location
import ReleasePipeline.Proofs.Job.Names

/-!
# ReleasePipeline.Proofs.Release.Places

Where a release is made. Everything that a run works with is an entry of the current folder or of
one of the two folders in it: the build folder, where the executable and its debug symbols are taken
from, and the staging folder. The footprint of a job (`Job.Touches`) is the staging folder with the
two files that are published; this module is the only one that compares names to tell these places
apart.
-/

namespace ReleasePipeline

open Node

namespace Job

variable (job : Job) (cwd : Path)

/-! ### Locations -/

/-- Where a release is staged. -/
def stagingAt : Location := cwd.location ++ [.text "archive-root"]

/-- Where the executable is built. -/
def builtAt : Location := cwd.location ++ [.text job.buildFolder, .text "exotracker-qt.exe"]

/-- Where the debug symbols are built. -/
def symbolsBuiltAt : Location := cwd.location ++ [.text job.buildFolder, .text "exotracker-qt.pdb"]

/-- Where the executable is staged. -/
def stagedAt : Location := cwd.location ++ [.text "archive-root", .text "exotracker-qt.exe"]

/-- Where the application is published. -/
def applicationAt : Location := cwd.location ++ [.text job.applicationName]

/-- Where the debug symbols are published. -/
def symbolsAt : Location := cwd.location ++ [.text job.symbolsName]

theorem location_application {job : Job} (hplain : job.HasPlainNames) :
    (cwd / job.applicationName).location = job.applicationAt cwd :=
  Path.location_join_name (isName_applicationName hplain)

theorem location_symbols {job : Job} (hplain : job.HasPlainNames) :
    (cwd / job.symbolsName).location = job.symbolsAt cwd :=
  Path.location_join_name (isName_symbolsName hplain)

theorem location_staging : (cwd / "archive-root").location = stagingAt cwd :=
  Path.location_join_name (by decide)

theorem location_build : (cwd / job.buildFolder).location = cwd.location ++ [.text job.buildFolder] :=
  Path.location_join_name job.isName_buildFolder

theorem location_built : (cwd / job.buildFolder / "exotracker-qt.exe").location = job.builtAt cwd := by
  rw [Path.location_join_name (by decide), location_build, List.append_assoc,
    List.singleton_append, builtAt]

theorem location_symbolsBuilt :
    (cwd / job.buildFolder / "exotracker-qt.pdb").location = job.symbolsBuiltAt cwd := by
  rw [Path.location_join_name (by decide), location_build, List.append_assoc,
    List.singleton_append, symbolsBuiltAt]

/-- Debug symbols are never published over those that they are taken from, whatever slashes there
are in the name of the release. -/
theorem location_symbols_ne_symbolsBuilt (other : Job) :
    ((cwd / (⟨job.archiveName⟩ : Path)).addExtension "pdb").location ≠
      (cwd / other.buildFolder / "exotracker-qt.pdb").location := by
  obtain ⟨front, hfront⟩ := Path.exists_text_join cwd ⟨job.archiveName⟩
  obtain ⟨above, last, hsegments⟩ := Path.exists_segments_of_ending
    (front ++ ("exotracker-v" ++ job.version ++ job.configurationSuffix))
    (show "-dev.pdb".toList ≠ [] by decide) (by decide)
  have htext : (cwd / (⟨job.archiveName⟩ : Path)).addExtension "pdb" =
      ⟨front ++ ("exotracker-v" ++ job.version ++ job.configurationSuffix) ++ "-dev.pdb"⟩ := by
    rw [Path.addExtension, hfront, archiveName]
    simp only [String.append_assoc]
    rfl
  have hends : (last ++ "-dev.pdb").toList.getLast? = some 'b' := getLast?_append (by decide)
  have hdot : ∀ dots : String, dots.toList.getLast? = some '.' → last ++ "-dev.pdb" ≠ dots := by
    rintro dots hdots rfl
    rw [hends] at hdots
    cases hdots
  rw [htext, Path.location_of_segments hsegments (hdot _ (by decide)) (hdot _ (by decide)),
    Path.location_join_name (by decide)]
  intro heq
  obtain ⟨-, hname⟩ := List.append_inj' heq rfl
  have hsplit : last ++ "-dev" ++ ".pdb" = "exotracker-qt" ++ ".pdb" := by
    rw [String.append_assoc]
    exact EntryName.text.inj (List.head_eq_of_cons_eq hname)
  rw [String.append_left_inj] at hsplit
  have hdev : (last ++ "-dev").toList.getLast? = some 'v' := getLast?_append (by decide)
  rw [hsplit] at hdev
  exact absurd hdev (by decide)

theorem location_staged : (cwd / "archive-root" / "exotracker-qt.exe").location = stagedAt cwd := by
  rw [Path.location_join_name (by decide), location_staging, stagingAt, List.append_assoc,
    List.singleton_append, stagedAt]

theorem location_imageFormats : (cwd / "archive-root" / "imageformats").location =
    cwd.location ++ [.text "archive-root", .text "imageformats"] := by
  rw [Path.location_join_name (by decide), location_staging, stagingAt, List.append_assoc,
    List.singleton_append]

theorem stagedAt_eq : stagedAt cwd = stagingAt cwd ++ [.text "exotracker-qt.exe"] := by
  rw [stagingAt, List.append_assoc, List.singleton_append, stagedAt]

theorem staging_prefix_staged : stagingAt cwd <+: stagedAt cwd :=
  ⟨["exotracker-qt.exe"], (stagedAt_eq cwd).symm⟩

/-! ### What a run may change -/

/-- Where a release is published. -/
def Publishes (l : Location) : Prop :=
  l = job.applicationAt cwd ∨ l = job.symbolsAt cwd

/-- Where a release is published under one policy or another. -/
def MayPublish (l : Location) : Prop :=
  ∃ name ∈ job.publishedNames, l = cwd.location ++ [.text name]

/-- The footprint of a job. -/
def Touches (l : Location) : Prop :=
  stagingAt cwd <+: l ∨ job.Publishes cwd l

/-- What a release may change: the footprint, and the place of an executable that is moved. -/
def MayChange (l : Location) : Prop :=
  job.Touches cwd l ∨ job.policy.executable = .move ∧ job.builtAt cwd <+: l

variable {job cwd}

/-- The footprint has three entries of the current folder, so it spares what is in any other. -/
theorem not_touches {name : EntryName} (hstaging : name ≠ "archive-root")
    (happlication : name ≠ job.applicationName) (hsymbols : name ≠ job.symbolsName)
    (below : Location) : ¬job.Touches cwd (cwd.location ++ name :: below) := by
  have hpublished : ∀ published, name ≠ published →
      cwd.location ++ name :: below ≠ cwd.location ++ [published] := fun published hne heq =>
    hne (List.cons.inj (List.append_cancel_left heq)).1
  rintro (hl | hl | hl)
  · exact not_prefix_of_ne hstaging.symm hl
  · exact hpublished _ happlication hl
  · exact hpublished _ hsymbols hl

theorem not_touches_build (below : Location) :
    ¬job.Touches cwd (cwd.location ++ .text job.buildFolder :: below) :=
  not_touches (EntryName.text_ne job.buildFolder_ne_staging)
    (EntryName.text_ne job.buildFolder_ne_applicationName)
    (EntryName.text_ne job.buildFolder_ne_symbolsName) below

theorem not_mayChange {name : EntryName} (hstaging : name ≠ "archive-root")
    (happlication : name ≠ job.applicationName) (hsymbols : name ≠ job.symbolsName)
    (hbuild : name ≠ job.buildFolder) (below : Location) :
    ¬job.MayChange cwd (cwd.location ++ name :: below) := by
  rintro (hl | ⟨-, hl⟩)
  · exact not_touches hstaging happlication hsymbols below hl
  · exact not_prefix_of_ne hbuild.symm hl

/-- A published file is in the current folder and not in one further down. -/
theorem published_ne {name first second : EntryName} {below : Location} :
    cwd.location ++ first :: second :: below ≠ cwd.location ++ [name] := fun heq =>
  List.cons_ne_nil _ _ (List.cons.inj (List.append_cancel_left heq)).2

theorem Publishes.not_staging {l : Location} (h : job.Publishes cwd l) : ¬stagingAt cwd <+: l := by
  rcases h with rfl | rfl
  · exact not_prefix_of_text_ne job.applicationName_ne_staging.symm
  · exact not_prefix_of_text_ne job.symbolsName_ne_staging.symm

theorem Publishes.mayPublish {l : Location} (h : job.Publishes cwd l) : job.MayPublish cwd l := by
  rcases h with rfl | rfl
  · exact ⟨_, job.applicationName_mem_publishedNames, rfl⟩
  · exact ⟨_, job.symbolsName_mem_publishedNames, rfl⟩

/-- A release is out of the way of another one. -/
theorem MayPublish.not_touches {other : Job} {l : Location} (h : other.MayPublish cwd l)
    (hnames : other.archiveName ≠ job.archiveName) : ¬job.Touches cwd l := by
  obtain ⟨name, hname, rfl⟩ := h
  exact Job.not_touches (EntryName.text_ne (ne_staging_of_mem_publishedNames hname))
    (EntryName.text_ne (ne_of_archiveName_ne hnames hname job.applicationName_mem_publishedNames))
    (EntryName.text_ne (ne_of_archiveName_ne hnames hname job.symbolsName_mem_publishedNames)) []

end Job

end ReleasePipeline
