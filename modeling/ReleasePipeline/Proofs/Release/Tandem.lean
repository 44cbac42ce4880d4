import ReleasePipeline.Proofs.Release.InStep
import ReleasePipeline.Proofs.Release.Places
import ReleasePipeline.Proofs.Release.StepsAlike
import ReleasePipeline.Proofs.Stage.Endings
import ReleasePipeline.Proofs.Stage.Plan

/-!
# ReleasePipeline.Proofs.Release.Tandem

Two releases made from two disks, step by step. Once the executable is staged, a run goes by three
things only: the staging folder, the debug symbols, and what is in the places where it publishes. So
much has to be the same on both disks, the folders that the runs work in have to stand, and a step
that leaves the same behind on both may not undo any of it. A relation of disks with these properties
is a `Tandem`, and whatever else it says of the disks is kept up along the two runs.

A place where something is published may differ at first. The step that removes it or writes over it
makes it the same, and leads from one relation to another (`Settles`).

The two runs need not be of one job. Their jobs have to ship the same (`Job.ShipsAs`), and how each
of them stages the executable is left open here.
-/

namespace ReleasePipeline

open Disk Node

/-! ### Two jobs -/

/-- A pipeline for another job, on the same machine and with the same tools. -/
def Pipeline.withJob (pipeline : Pipeline σ) (job : Job) : Pipeline σ :=
  { pipeline with job }

namespace Job

/-- Jobs that ship the same application. How the executable is staged, what becomes of the debug
symbols and how the project is built may differ. -/
structure ShipsAs (other job : Job) : Prop extends SharesFolder other job where
  version_eq : other.version = job.version
  imageFormats_eq : other.policy.imageFormats = job.policy.imageFormats

theorem ShipsAs.refl (job : Job) : job.ShipsAs job :=
  { name_eq := rfl, configuration_eq := rfl, version_eq := rfl, imageFormats_eq := rfl }

theorem ShipsAs.archiveName_eq {other job : Job} (h : other.ShipsAs job) :
    other.archiveName = job.archiveName := by
  unfold archiveName configurationSuffix
  rw [h.configuration_eq, h.version_eq]

/-! ### The folders that a run works in -/

variable (job : Job) (cwd : Path)

/-- The folders that a run works in, and those on the way to them. -/
def StandsOn (l : Location) : Prop :=
  l ∈ cwd.road ∨ l = cwd.location ++ [.text job.buildFolder] ∨ l = stagingAt cwd

variable {job cwd} {l : Location}

/-- No folder that a run works in is further down in the staging folder, if the way to the current
folder does not lead through it. -/
theorem StandsOn.eq_staging (hclear : ∀ l ∈ cwd.road, ¬stagingAt cwd <+: l)
    (hl : job.StandsOn cwd l) (hbelow : stagingAt cwd <+: l) : l = stagingAt cwd := by
  rcases hl with hl | rfl | rfl
  · exact absurd hbelow (hclear l hl)
  · exact absurd hbelow (not_prefix_of_text_ne job.buildFolder_ne_staging.symm)
  · rfl

theorem StandsOn.not_inside {name : String} (hclear : ∀ l ∈ cwd.road, ¬stagingAt cwd <+: l)
    (hl : job.StandsOn cwd l) : ¬stagingAt cwd ++ [.text name] <+: l := by
  intro hbelow
  rw [hl.eq_staging hclear ((List.prefix_append _ _).trans hbelow)] at hbelow
  exact not_prefix_self hbelow

end Job

/-! ### Relations that are kept up -/

/-- A way to compare what two runs have seen that goes by the calls and by what they find in the
staging folder, at the most. -/
def ComparesStaging (cwd : Path) (M : List Sighting → List Sighting → Prop) : Prop :=
  ∀ (c : ToolCall) (R : Node → Node → Prop),
    (∀ {d e}, R d e → ∀ l, Job.stagingAt cwd <+: l → d.entryAt? l = e.entryAt? l) → Continues M c R

theorem SameCalls.comparesStaging (cwd : Path) : ComparesStaging cwd SameCalls :=
  fun c R _ => SameCalls.continues c R

/-- What a step makes of two disks. It leaves the same behind wherever it changes something, and the
folders that the runs work in stay folders. -/
structure ChangedAlike (job : Job) (cwd : Path) (touched : Location → Prop)
    (d e d' e' : Node) : Prop where
  legal : d'.Legal
  left : AgreeOff touched d' d
  right : AgreeOff touched e' e
  same : ∀ l, touched l → d'.entryAt? l = e'.entryAt? l
  stands : ∀ l, touched l → job.StandsOn cwd l → d'.entryAt? l = some .folder

/-- A relation of two disks that two runs keep up once the executable is staged. -/
structure Tandem (job : Job) (cwd : Path) (R : Node → Node → Prop) : Prop where
  clear : ∀ {d e}, R d e → ∀ l ∈ cwd.road, ¬Job.stagingAt cwd <+: l
  legal : ∀ {d e}, R d e → d.Legal
  build : ∀ {d e}, R d e → Reaches d (cwd / job.buildFolder)
  stands : ∀ {d e}, R d e → ∀ l, job.StandsOn cwd l →
    d.entryAt? l = some .folder ∧ e.entryAt? l = some .folder
  staging : ∀ {d e}, R d e → ∀ l, Job.stagingAt cwd <+: l → d.entryAt? l = e.entryAt? l
  symbols : ∀ {d e}, R d e → ∀ below, d.entryAt? (job.symbolsBuiltAt cwd ++ below) =
    e.entryAt? (job.symbolsBuiltAt cwd ++ below)
  -- The executable is staged by now, and no later step changes anything where it was built. That
  -- leaves a relation free to say that the disks differ there.
  keep : ∀ {d e d' e'} {touched : Location → Prop}, R d e →
    ChangedAlike job cwd touched d e d' e' → ¬touched (job.builtAt cwd) → R d' e'

/-- What comes of a relation once a location is made the same on both disks. -/
structure Settles (job : Job) (cwd : Path) (l : Location) (R R' : Node → Node → Prop) : Prop where
  room : ∀ {d e}, R d e → (d.entryAt? l = some .folder ↔ e.entryAt? l = some .folder)
  settle : ∀ {d e d' e'}, R d e → ChangedAlike job cwd (· = l) d e d' e' → R' d' e'
  settled : ∀ {d e}, R' d e → d.entryAt? l = e.entryAt? l

variable {job : Job} {cwd : Path} {d e d' e' : Node} {R R' : Node → Node → Prop}

namespace Tandem

theorem reaches_build (h : Tandem job cwd R) (hR : R d e) :
    Reaches d (cwd / job.buildFolder) ∧ Reaches e (cwd / job.buildFolder) := by
  refine ⟨h.build hR, (h.build hR).congr fun l hl => ?_⟩
  rw [Path.road_join_name job.isName_buildFolder, List.mem_append, List.mem_singleton] at hl
  exact (h.stands hR l (hl.imp id .inl)).2

theorem reaches_cwd (h : Tandem job cwd R) (hR : R d e) : Reaches d cwd ∧ Reaches e cwd :=
  ⟨(h.reaches_build hR).1.of_join job.isName_buildFolder,
    (h.reaches_build hR).2.of_join job.isName_buildFolder⟩

theorem reaches_staging (h : Tandem job cwd R) (hR : R d e) :
    Reaches d (cwd / "archive-root") ∧ Reaches e (cwd / "archive-root") := by
  obtain ⟨hd, he⟩ := h.stands hR _ (.inr (.inr rfl))
  exact ⟨(h.reaches_cwd hR).1.join (by decide) (by decide) hd,
    (h.reaches_cwd hR).2.join (by decide) (by decide) he⟩

/-- What is the same below a name of the build folder is the same for both runs. -/
theorem sameAt_built (h : Tandem job cwd R) (hR : R d e) {name : String} (hname : Path.IsName name)
    (hsame : ∀ below, d.entryAt? (cwd.location ++ .text job.buildFolder :: .text name :: below) =
      e.entryAt? (cwd.location ++ .text job.buildFolder :: .text name :: below)) :
    SameAt (cwd / job.buildFolder / name) d e := by
  obtain ⟨hd, he⟩ := h.reaches_build hR
  have hlocation : (cwd / job.buildFolder).location = cwd.location ++ [.text job.buildFolder] :=
    job.location_build cwd
  refine ⟨locate_join_congr hname hd he ?_, fun below => ?_⟩
  · rw [hlocation, List.append_assoc]
    exact hsame []
  · rw [Path.location_join_name hname, hlocation, List.append_assoc, List.append_assoc]
    exact hsame below

/-- The debug symbols are the same for both runs. -/
theorem symbols_alike (h : Tandem job cwd R) (hR : R d e) :
    SameAt (cwd / job.buildFolder / "exotracker-qt.pdb") d e := by
  refine h.sameAt_built hR (by decide) fun below => ?_
  have hsame := h.symbols hR below
  rwa [Job.symbolsBuiltAt, List.append_assoc] at hsame

/-- A place that is the same already. -/
theorem settles (h : Tandem job cwd R) {name : String}
    (hsame : ∀ {d e}, R d e → d.entryAt? (cwd.location ++ [.text name]) =
      e.entryAt? (cwd.location ++ [.text name])) :
    Settles job cwd (cwd.location ++ [.text name]) R R where
  room hR := by rw [hsame hR]
  settle hR hchanged := h.keep hR hchanged Job.published_ne
  settled := hsame

end Tandem

/-! ### The steps of the two runs -/

namespace Stage.Matches

variable {w : Workspace} {name : String} {M : List Sighting → List Sighting → Prop}
  {runner : Runner σ}

/-- The deployment tool goes by the staging folder. -/
theorem deploy_tandem (hrunner : runner.Contained) (hkeeps : runner.KeepsFolder)
    (hdet : runner.Deterministic) (h : Tandem job cwd R) {c : ToolCall} (hM : Continues M c R)
    (hprogram : c.program = "windeployqt.exe") (hfolder : c.folder = cwd / "archive-root") :
    Matches w (Along M R) (Stage.call runner.watched c) (Stage.call runner.watched c)
      (fun _ _ => Along M R) (Along M fun _ _ => True) := by
  have hstaging : c.folder.location = Job.stagingAt cwd := by
    rw [hfolder, Job.location_staging]
  refine deploy_along hrunner hkeeps hdet hM hprogram ?_ ?_ ?_
  · intro d e hR
    refine ⟨?_, fun below => ?_⟩
    · rw [hfolder]
      exact locate_folder_congr (h.reaches_staging hR).1 (h.reaches_staging hR).2
    · rw [hstaging]
      exact h.staging hR _ (List.prefix_append _ _)
  · intro d e hR
    rw [hstaging]
    exact (h.stands hR _ (.inr (.inr rfl))).1
  · intro d e d' e' hR hlegal hd he hsame hmade
    rw [hstaging] at hd he hsame hmade
    refine h.keep hR ⟨hlegal (h.legal hR), hd, he, hsame, fun l hl hstands => ?_⟩
      (not_prefix_of_text_ne job.buildFolder_ne_staging.symm)
    rw [hstands.eq_staging (h.clear hR) hl]
    exact hmade

/-- The same plugins are pruned. -/
theorem prune_tandem {listing : ListingOrder} {svgStem : String} {imageFormats : ImageFormats}
    (hname : Path.IsName name) (h : Tandem job cwd R) :
    Matches w (Along M R)
      (Pipeline.pruneImageFormats listing (cwd / "archive-root" / name) svgStem imageFormats :
        Stage (Watched σ) Unit)
      (Pipeline.pruneImageFormats listing (cwd / "archive-root" / name) svgStem imageFormats :
        Stage (Watched τ) Unit)
      (fun _ _ => Along M R) (Along M fun _ _ => True) := by
  have hlocation : (cwd / "archive-root" / name).location = Job.stagingAt cwd ++ [.text name] := by
    rw [Path.location_join_name hname, Job.location_staging]
  refine .of_fact (fun d m e n hR => h.clear hR.1) fun hclear => ?_
  refine .quietly_along Pipeline.pruneImageFormats_calls.quiet
    Pipeline.pruneImageFormats_calls.quiet (pruneImageFormats hname ?_
      (fun d m e n hR => h.legal hR) (fun d m e n hR => h.reaches_staging hR) ?_ ?_)
  · intro l hl
    rw [Path.road_join_name (by decide), List.mem_append, List.mem_singleton] at hl
    rw [Job.location_staging]
    rcases hl with hl | rfl
    · exact fun hbelow => hclear l hl ((List.prefix_append _ _).trans hbelow)
    · exact not_prefix_self
  · intro d m e n hR l hl
    rw [Job.location_staging] at hl
    exact h.staging hR l ((List.prefix_append _ _).trans hl)
  · intro d m e n d' e' hR hd he hsame
    rw [Job.location_staging] at hsame
    have hagree := hd.agree
    have hagree' := he.agree
    rw [hlocation] at hagree hagree'
    refine h.keep hR ⟨(h.legal hR).of_sheds hd.sheds, hagree, hagree', hsame, ?_⟩ ?_
    · exact fun l hl hstands => absurd hl (hstands.not_inside hclear)
    · exact fun hbelow => not_prefix_of_text_ne job.buildFolder_ne_staging.symm
        ((List.prefix_append _ _).trans hbelow)

/-- Removing a published file settles that it is not there. -/
theorem unpublish_tandem (hname : Path.IsName name) (h : Tandem job cwd R)
    (hsettles : Settles job cwd (cwd.location ++ [.text name]) R R') :
    Matches w (Along M R) (Pipeline.removeIfPresent (cwd / name) : Stage (Watched σ) Unit)
      (Pipeline.removeIfPresent (cwd / name) : Stage (Watched τ) Unit)
      (fun _ _ => Along M fun d e => R' d e ∧ d.entryAt? (cwd.location ++ [.text name]) = none)
      (Along M fun _ _ => True) := by
  have hlocation : (cwd / name).location = cwd.location ++ [.text name] :=
    Path.location_join_name hname
  refine .quietly_along Pipeline.removeIfPresent_calls.quiet Pipeline.removeIfPresent_calls.quiet
    (removeIfPresent hname (fun d m e n hR => h.reaches_cwd hR)
      (fun d m e n hR => hsettles.room hR) ?_)
  intro d m e n d' e' hR hd he
  have hgone := hd.gone cwd name hname rfl (h.reaches_cwd hR).1
  have hgone' := he.gone cwd name hname rfl (h.reaches_cwd hR).2
  obtain ⟨-, hsheds, hagree, hkeeps, -⟩ := hd
  have hagree' := he.agree
  rw [hlocation] at hagree hkeeps hagree'
  refine ⟨hsettles.settle hR ⟨(h.legal hR).of_sheds hsheds, hagree, hagree', ?_, ?_⟩, hgone⟩
  · rintro l rfl
    rw [hgone, hgone']
  · rintro l rfl hstands
    exact hkeeps (h.stands hR _ hstands).1

/-- An archive is made of what is the same on both disks, where there is none yet. -/
theorem compress_tandem (hrunner : runner.Contained) (hdet : runner.Deterministic)
    (hname : Path.IsName name) (hcwd : cwd.isAbsolute = true) (h : Tandem job cwd R)
    (hsame : ∀ {d e}, R d e → d.entryAt? (cwd.location ++ [.text name]) =
      e.entryAt? (cwd.location ++ [.text name])) {c : ToolCall} (hM : Continues M c R)
    (hprogram : c.program = "7z") (harchive : c.args[2]? = some (cwd / name).text)
    (hfolder : ∀ d e, R d e → locate d c.folder = locate e c.folder)
    (hinputs : ∀ d e, R d e →
      ∀ input : String, input ∈ c.args.drop 3 → SameAt (c.folder / input) d e) :
    Matches w (Along M fun d e => R d e ∧ d.entryAt? (cwd.location ++ [.text name]) = none)
      (Stage.call runner.watched c) (Stage.call runner.watched c) (fun _ _ => Along M R)
      (Along M fun _ _ => True) := by
  have htarget : c.folder / (cwd / name).text = cwd / name := Path.join_join _ _ hcwd
  have hlocation : (c.folder / (cwd / name).text).location = cwd.location ++ [.text name] := by
    rw [htarget, Path.location_join_name hname]
  refine compress_along hrunner hdet
    (fun xs ys x y hM' hx hy hbefore => hM xs ys x y hM' hx hy hbefore.1) hprogram harchive
    (fun d e hR => hfolder d e hR.1) (fun d e hR => hinputs d e hR.1) ?_ ?_
  · rintro d e ⟨hR, -⟩
    refine ⟨?_, ?_⟩
    · rw [htarget]
      exact place_join_congr hname (h.reaches_cwd hR).1 (h.reaches_cwd hR).2
    · rw [hlocation]
      exact hsame hR
  · rintro d e d' e' ⟨hR, hnone⟩ hlegal hd he hmade
    rw [hlocation] at hd he hmade
    refine (h.settles hsame).settle hR ⟨hlegal (h.legal hR), hd, he, ?_, ?_⟩
    · rintro l rfl
      exact hmade
    · rintro l rfl hstands
      rw [(h.stands hR _ hstands).1] at hnone
      cases hnone

/-- A file that is copied to a place settles what is there, without a removal. -/
theorem copy_tandem {action : String} {source : Path} (hname : Path.IsName name)
    (h : Tandem job cwd R) (hsettles : Settles job cwd (cwd.location ++ [.text name]) R R')
    (hsource : ∀ d e, R d e → SameAt source d e) :
    Matches w (Along M R)
      (Stage.attempt action source (Disk.copyFile source (cwd / name)) : Stage (Watched σ) Unit)
      (Stage.attempt action source (Disk.copyFile source (cwd / name)) : Stage (Watched τ) Unit)
      (fun _ _ => Along M R') (Along M fun _ _ => True) := by
  refine .quietly_along CallsAlong.attempt.quiet CallsAlong.attempt.quiet
    (copyFile hname (fun d m e n hR => h.reaches_cwd hR)
      (fun d m e n hR => ⟨(hsource _ _ hR).locate, (hsource _ _ hR).here⟩)
      (fun d m e n hR => hsettles.room hR) ?_)
  intro d m e n d' e' f hR hno hd he
  refine hsettles.settle hR
    ⟨hd.legal (h.legal hR) (h.reaches_cwd hR).1.folder_location hname, hd.agree, he.agree, ?_, ?_⟩
  · rintro l rfl
    exact hd.entryAt?.trans he.entryAt?.symm
  · rintro l rfl hstands
    exact absurd (h.stands hR _ hstands).1 hno

/-- The same is published. -/
theorem publish_tandem (hname : Path.IsName name) (h : Tandem job cwd R)
    (hsame : ∀ {d e}, R d e → d.entryAt? (cwd.location ++ [.text name]) =
      e.entryAt? (cwd.location ++ [.text name])) :
    Matches w (Along M R) (Pipeline.artifact (cwd / name) : Stage (Watched σ) Artifact)
      (Pipeline.artifact (cwd / name) : Stage (Watched τ) Artifact)
      (fun a b => Along M fun d e => a = b ∧ R d e) (Along M fun _ _ => True) := by
  refine .quietly_along Pipeline.artifact_calls.quiet Pipeline.artifact_calls.quiet
    (artifact ?_ ?_)
  · intro d m e n hR
    exact locate_join_congr hname (h.reaches_cwd hR).1 (h.reaches_cwd hR).2 (hsame hR)
  · intro d m e n hR
    rw [Path.location_join_name hname]
    exact hsame hR

end Stage.Matches

/-! ### The two runs -/

namespace Pipeline

open Stage

/-- What a run goes on with once the application is published. -/
structure Midway where
  root : Path
  buildFolder : Path
  base : Path
  application : Artifact

/-- A run up to the application. -/
def publishFirst (pipeline : Pipeline σ) (packaging : Packaging) : Stage σ Midway := do
  let root ← Stage.cwd
  let buildFolder ← pipeline.existingBuildFolder
  let base ← Stage.path ⟨pipeline.job.archiveName⟩
  let application ← pipeline.publishApplication packaging buildFolder base
  return ⟨root, buildFolder, base, application⟩

variable {pipeline : Pipeline σ} {w : Workspace} {other : Job}
  {M : List Sighting → List Sighting → Prop} {P S : Node → Node → Prop}

theorem archive_eq_publishFirst (packaging : Packaging) :
    pipeline.archive packaging = pipeline.publishFirst packaging >>= fun m =>
      pipeline.publishBeside packaging m.buildFolder m.base m.root m.application := by
  rw [archive_eq]
  unfold archiveFrom publishFirst
  simp only [bind_assoc, pure_bind]

theorem existingBuildFolder_withJob (hother : other.SharesFolder pipeline.job) :
    (pipeline.withJob other).watched.existingBuildFolder =
      pipeline.watched.existingBuildFolder := by
  unfold existingBuildFolder buildFolder
  dsimp only [withJob, watched]
  rw [hother.buildFolder_eq]

section

variable (hrunner : pipeline.runner.Contained) (hdet : pipeline.runner.Deterministic)
  (hplain : pipeline.job.HasPlainNames) (hcwd : cwd.isAbsolute = true)
  (hM : ComparesStaging cwd M)
  (h : Tandem pipeline.job cwd R) (h' : Tandem pipeline.job cwd R')

include hrunner hdet hplain hcwd hM h h'

/-- The staging folder is filled and packed alike, once the executable is staged. -/
theorem assemble_tandem (hkeeps : pipeline.runner.KeepsFolder)
    (hother : other.ShipsAs pipeline.job) (hw : w.cwd = cwd / "archive-root")
    (hsettles : Settles pipeline.job cwd (pipeline.job.applicationAt cwd) R R')
    (hstage : Matches w (Along M P)
      (transfer (cwd / pipeline.job.buildFolder / "exotracker-qt.exe")
        (cwd / "archive-root" / "exotracker-qt.exe") pipeline.job.policy.executable :
          Stage (Watched σ) Unit)
      (transfer (cwd / pipeline.job.buildFolder / "exotracker-qt.exe")
        (cwd / "archive-root" / "exotracker-qt.exe") other.policy.executable :
          Stage (Watched σ) Unit)
      (fun _ _ => Along M R) (Along M fun _ _ => True)) :
    Matches w (Along M P)
      (pipeline.watched.assemble .windows (cwd / pipeline.job.buildFolder)
        (cwd / pipeline.job.applicationName))
      ((pipeline.withJob other).watched.assemble .windows (cwd / pipeline.job.buildFolder)
        (cwd / pipeline.job.applicationName))
      (fun _ _ => Along M R') (Along M fun _ _ => True) := by
  have hname := Job.isName_applicationName hplain
  unfold assemble
  dsimp only [withJob, watched]
  refine .bind .cwd fun here here' => .assuming fun hhere => ?_
  rw [hw] at hhere
  obtain ⟨rfl, rfl⟩ := hhere
  refine .bind hstage fun _ _ => ?_
  refine .bind .report fun _ _ => ?_
  rw [hother.imageFormats_eq, deploy_windows]
  refine .bind (.deploy_tandem hrunner hkeeps hdet h (hM _ _ h.staging) rfl rfl)
    fun _ _ => ?_
  refine .bind (.prune_tandem (by decide) h) fun _ _ => ?_
  -- Here the old archive goes, which the compressing tool would otherwise have added to.
  refine .bind (.unpublish_tandem hname h hsettles) fun _ _ => ?_
  rw [compress_windows]
  refine .compress_tandem hrunner hdet hname hcwd h' hsettles.settled
    (hM _ _ h'.staging) rfl rfl ?_ ?_
  · intro d e hR
    exact locate_folder_congr (h'.reaches_staging hR).1 (h'.reaches_staging hR).2
  · intro d e hR input hinput
    obtain rfl := List.mem_singleton.mp hinput
    refine ⟨locate_join_here_congr (h'.reaches_staging hR).1 (h'.reaches_staging hR).2,
      fun below => ?_⟩
    rw [Path.location_join_here, Job.location_staging]
    exact h'.staging hR _ (List.prefix_append _ _)

/-- The application is published alike. What comes before the executable is staged is making the
staging folder anew. -/
theorem publishApplication_tandem (hkeeps : pipeline.runner.KeepsFolder)
    (hother : other.ShipsAs pipeline.job) (hw : w.cwd = cwd)
    (hsettles : Settles pipeline.job cwd (pipeline.job.applicationAt cwd) R R')
    (hmake : Matches w (fun d _ e _ => S d e)
      (recreateFolder (cwd / "archive-root") : Stage (Watched σ) Unit)
      (recreateFolder (cwd / "archive-root") : Stage (Watched σ) Unit)
      (fun _ _ d _ e _ => P d e) fun _ _ _ _ => True)
    (hentered : ∀ d e, P d e →
      isFolder d (cwd / "archive-root") = isFolder e (cwd / "archive-root"))
    (hstage : ∀ w, Matches w (Along M P)
      (transfer (cwd / pipeline.job.buildFolder / "exotracker-qt.exe")
        (cwd / "archive-root" / "exotracker-qt.exe") pipeline.job.policy.executable :
          Stage (Watched σ) Unit)
      (transfer (cwd / pipeline.job.buildFolder / "exotracker-qt.exe")
        (cwd / "archive-root" / "exotracker-qt.exe") other.policy.executable :
          Stage (Watched σ) Unit)
      (fun _ _ => Along M R) (Along M fun _ _ => True)) :
    Matches w (Along M S)
      (pipeline.watched.publishApplication .windows (cwd / pipeline.job.buildFolder)
        (cwd / (⟨pipeline.job.archiveName⟩ : Path)))
      ((pipeline.withJob other).watched.publishApplication .windows
        (cwd / pipeline.job.buildFolder) (cwd / (⟨pipeline.job.archiveName⟩ : Path)))
      (fun a b => Along M fun d e => a = b ∧ R' d e) (Along M fun _ _ => True) := by
  subst hw
  have hstaging : (w.inside (w.path ⟨stagingFolder⟩)).cwd = w.cwd / "archive-root" :=
    Workspace.cwd_inside_path hcwd _
  have hpath : (w.cwd / (⟨pipeline.job.archiveName⟩ : Path)).addExtension
      Packaging.windows.extension = w.cwd / pipeline.job.applicationName :=
    pipeline.job.applicationPath_eq w.cwd
  have hthere : w.path (w.path ⟨stagingFolder⟩) = w.cwd / "archive-root" :=
    Path.join_join _ _ hcwd
  unfold publishApplication
  refine .bind .report fun _ _ => .bind .path fun staging staging' => .assuming fun hstaged => ?_
  obtain ⟨rfl, rfl⟩ := hstaged
  rw [hpath]
  refine .bind (M := fun _ _ => Along M P)
    (.quietly_along recreateFolder_calls.quiet recreateFolder_calls.quiet hmake) fun _ _ => ?_
  refine .bind (.within ?_ (fun _ _ _ _ hP => ⟨trivial, hP.2⟩)
    ((assemble_tandem hrunner hdet hplain hcwd hM h h' hkeeps hother hstaging hsettles
      (hstage _)).weaken (fun _ _ _ _ hP => hP.2) (fun _ _ _ _ _ _ hR => hR)
        fun _ _ _ _ hM => hM)) fun _ _ => ?_
  · intro d m e n hP
    rw [hthere]
    exact hentered d e hP.1
  refine .bind (.publish_tandem (Job.isName_applicationName hplain) h' hsettles.settled)
    fun application application' => .of_fact (fun _ _ _ _ hR => hR.1.1) fun happlication => ?_
  subst happlication
  exact .bind .report fun _ _ => .pure fun _ _ _ _ hR => hR

/-- From disks that have the build folder or do not have it alike, two runs come to the same
application, or both of them to none. -/
theorem publishFirst_tandem (hkeeps : pipeline.runner.KeepsFolder)
    (hother : other.ShipsAs pipeline.job) (hw : w.cwd = cwd)
    (hsettles : Settles pipeline.job cwd (pipeline.job.applicationAt cwd) R R')
    (hbuild : ∀ d e, S d e →
      isFolder d (cwd / pipeline.job.buildFolder) = isFolder e (cwd / pipeline.job.buildFolder))
    (hmake : Matches w
      (fun d _ e _ => isFolder d (cwd / pipeline.job.buildFolder) = true ∧ S d e)
      (recreateFolder (cwd / "archive-root") : Stage (Watched σ) Unit)
      (recreateFolder (cwd / "archive-root") : Stage (Watched σ) Unit)
      (fun _ _ d _ e _ => P d e) fun _ _ _ _ => True)
    (hentered : ∀ d e, P d e →
      isFolder d (cwd / "archive-root") = isFolder e (cwd / "archive-root"))
    (hstage : ∀ w, Matches w (Along M P)
      (transfer (cwd / pipeline.job.buildFolder / "exotracker-qt.exe")
        (cwd / "archive-root" / "exotracker-qt.exe") pipeline.job.policy.executable :
          Stage (Watched σ) Unit)
      (transfer (cwd / pipeline.job.buildFolder / "exotracker-qt.exe")
        (cwd / "archive-root" / "exotracker-qt.exe") other.policy.executable :
          Stage (Watched σ) Unit)
      (fun _ _ => Along M R) (Along M fun _ _ => True)) :
    Matches w (Along M S) (pipeline.watched.publishFirst .windows)
      ((pipeline.withJob other).watched.publishFirst .windows)
      (fun a b => Along M fun d e => (a = b ∧ ∃ application, a = ⟨cwd,
        cwd / pipeline.job.buildFolder, cwd / (⟨pipeline.job.archiveName⟩ : Path), application⟩) ∧
          R' d e)
      (Along M fun _ _ => True) := by
  have harchive : (pipeline.withJob other).watched.job.archiveName =
      pipeline.watched.job.archiveName := hother.archiveName_eq
  unfold publishFirst
  rw [harchive, existingBuildFolder_withJob hother.toSharesFolder]
  refine .bind .cwd fun root root' => .of_fact (fun _ _ _ _ h => h.1) fun hroot => ?_
  obtain ⟨rfl, rfl⟩ := hroot
  refine .bind ((Matches.quietly_along (P := S) existingBuildFolder_calls.quiet
    existingBuildFolder_calls.quiet (.existingBuildFolder fun d m e n hS => ?_)).weaken
      (fun _ _ _ _ h => h.2) (fun _ _ _ _ _ _ h => h) fun _ _ _ _ h => h) fun folder folder' => ?_
  · subst hw
    exact hbuild d e hS
  refine .of_fact (fun _ _ _ _ h => h.1.1.1.imp Eq.symm Eq.symm) fun hfolder => ?_
  obtain ⟨rfl, rfl⟩ := hfolder
  refine .bind .path fun base base' => .of_fact (fun _ _ _ _ h => h.1) fun hbase => ?_
  obtain ⟨rfl, rfl⟩ := hbase
  subst hw
  refine .bind ((publishApplication_tandem hrunner hdet hplain hcwd hM h h' hkeeps hother rfl
    hsettles hmake hentered hstage).weaken (fun _ _ _ _ h => ⟨⟨h.2.1.1.2, h.2.1.2⟩, h.2.2⟩)
      (fun _ _ _ _ _ _ h => h) fun _ _ _ _ h => h) fun application application' => ?_
  refine .of_fact (fun _ _ _ _ h => h.1.1) fun hsame => ?_
  subst hsame
  exact .pure fun d m e n h => ⟨⟨⟨rfl, application, rfl⟩, h.1.2⟩, h.2⟩

/-- Debug symbols that are treated alike are published alike. -/
theorem publishSymbols_tandem
    (hsymbols : other.policy.debugSymbols = pipeline.job.policy.debugSymbols)
    (hsettles : Settles pipeline.job cwd (pipeline.job.symbolsAt cwd) R R') :
    Matches w (Along M R)
      (pipeline.watched.publishSymbols .windows
        (cwd / pipeline.job.buildFolder / "exotracker-qt.pdb")
        (cwd / (⟨pipeline.job.archiveName⟩ : Path)) cwd)
      ((pipeline.withJob other).watched.publishSymbols .windows
        (cwd / pipeline.job.buildFolder / "exotracker-qt.pdb")
        (cwd / (⟨pipeline.job.archiveName⟩ : Path)) cwd)
      (fun a b => Along M fun d e => a = b ∧ R' d e) (Along M fun _ _ => True) := by
  have hname := Job.isName_symbolsName hplain
  have hpath := pipeline.job.symbolsPath_eq cwd
  have hsource : cwd / (cwd / pipeline.job.buildFolder / "exotracker-qt.pdb").text =
      cwd / pipeline.job.buildFolder / "exotracker-qt.pdb" :=
    Path.join_join _ _ (Path.isAbsolute_join _ hcwd)
  unfold publishSymbols
  dsimp only [withJob, watched]
  rw [hsymbols]
  cases hpolicy : pipeline.job.policy.debugSymbols with
  | compress =>
      rw [Job.symbolsPath, hpolicy] at hpath
      dsimp only [Packaging.windows] at hpath ⊢
      rw [hpath]
      refine .bind (.unpublish_tandem hname h hsettles) fun _ _ => ?_
      refine .bind (.compress_tandem hrunner hdet hname hcwd h' hsettles.settled
        (hM _ _ h'.staging) rfl rfl ?_ ?_) fun _ _ =>
        .publish_tandem hname h' hsettles.settled
      · intro d e hR
        exact locate_folder_congr (h'.reaches_cwd hR).1 (h'.reaches_cwd hR).2
      · intro d e hR input hinput
        rw [List.mem_singleton.mp hinput, hsource]
        exact h'.symbols_alike hR
  | rename =>
      rw [Job.symbolsPath, hpolicy] at hpath
      dsimp only at hpath ⊢
      rw [hpath]
      exact .bind (.copy_tandem hname h hsettles fun d e hR => h.symbols_alike hR) fun _ _ =>
        .publish_tandem hname h' hsettles.settled

theorem publishBeside_tandem (other : Job) {application : Artifact}
    (hsymbols : other.policy.debugSymbols = pipeline.job.policy.debugSymbols)
    (hsettles : Settles pipeline.job cwd (pipeline.job.symbolsAt cwd) R R') :
    Matches w (Along M R)
      (pipeline.watched.publishBeside .windows (cwd / pipeline.job.buildFolder)
        (cwd / (⟨pipeline.job.archiveName⟩ : Path)) cwd application)
      ((pipeline.withJob other).watched.publishBeside .windows (cwd / pipeline.job.buildFolder)
        (cwd / (⟨pipeline.job.archiveName⟩ : Path)) cwd application)
      (fun a b => Along M fun d e => a = b ∧ R' d e) (Along M fun _ _ => True) := by
  rw [publishBeside_windows, publishBeside_windows]
  refine .bind (publishSymbols_tandem hrunner hdet hplain hcwd hM h h' hsymbols hsettles)
    fun symbols symbols' => .of_fact (fun d m e n hR => hR.1.1) fun hsame => ?_
  subst hsame
  exact .bind .report fun _ _ => .pure fun d m e n hR => ⟨⟨rfl, hR.1.2⟩, hR.2⟩

end

end Pipeline

end ReleasePipeline
