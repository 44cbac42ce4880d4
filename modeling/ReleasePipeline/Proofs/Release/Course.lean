import ReleasePipeline.Proofs.Release.Places
import ReleasePipeline.Proofs.Release.Steps
import ReleasePipeline.Proofs.Release.Tools
import ReleasePipeline.Proofs.Stage.Plan

/-!
# ReleasePipeline.Proofs.Release.Course

The course of a run that makes a release, as a system of steps.

A `Point` is how far a run has come, with the disk and the tool calls seen so far. `Step` has one
constructor for each thing that a run does on its way from the first point to the last, with all
that is known of the disk before and after it, and `Stop` has one for each way in which a run can be
cut off. That runs go this way is proved once, by `Pipeline.archive_course`: whatever holds at the
first point and is kept by every step holds at the end of a run that succeeds, and what follows of
it at a stop holds after a run that fails. Every invariant of a run is then shown case by case over
steps.
-/

namespace ReleasePipeline

open Disk Node

/-! ### The calls -/

namespace Job

variable (job : Job) (cwd : Path)

/-- Bringing the GUI runtime next to the executable. -/
def deployCall : ToolCall where
  program := "windeployqt.exe"
  args := ["exotracker-qt.exe", "--no-compiler-runtime", "--no-angle", "--no-opengl-sw"] ++
    if job.policy.imageFormats = .removeAll then ["--no-svg"] else []
  folder := cwd / "archive-root"

/-- Packing the staging folder. -/
def packCall : ToolCall where
  program := "7z"
  args := ["a", "-mx=3", (job.applicationPath cwd).text, "."]
  folder := cwd / "archive-root"

/-- Packing the debug symbols. -/
def symbolsCall : ToolCall where
  program := "7z"
  args := ["a", "-mx=3", (job.symbolsPath cwd).text,
    (cwd / job.buildFolder / "exotracker-qt.pdb").text]
  folder := cwd

theorem deployCall_program : (job.deployCall cwd).program = "windeployqt.exe" := rfl

theorem packCall_folder : (job.packCall cwd).folder = cwd / "archive-root" := rfl

theorem packCall_target : (job.packCall cwd).args[2]? = some (job.applicationPath cwd).text := rfl

theorem symbolsCall_target : (job.symbolsCall cwd).args[2]? = some (job.symbolsPath cwd).text := rfl

section

variable {job} {cwd} (hplain : job.HasPlainNames) (hcwd : cwd.isAbsolute = true)

include hplain hcwd

/-- Where the application is packed, seen from the folder of the call. -/
theorem location_packed :
    ((job.packCall cwd).folder / (job.applicationPath cwd).text).location =
      job.applicationAt cwd := by
  rw [applicationPath_eq, Path.join_join _ _ hcwd, location_application _ hplain]

theorem location_symbolsPacked :
    ((job.symbolsCall cwd).folder / (job.symbolsPath cwd).text).location = job.symbolsAt cwd := by
  rw [symbolsPath_eq, Path.join_join _ _ hcwd, location_symbols _ hplain]

end

end Job

/-! ### Points, steps and stops -/

/-- How far a run has come. -/
inductive Phase where
  | start
  /-- The staging folder was made anew. -/
  | made
  /-- The executable is in it. -/
  | staged
  /-- The GUI runtime is, too. -/
  | deployed
  /-- Only the plugins are left that are shipped. -/
  | pruned
  /-- An old archive of the application is gone. -/
  | cleared
  /-- The compressing tool has packed the staging folder. -/
  | packed
  /-- The application is published. -/
  | published (application : Artifact)
  /-- An old archive of the debug symbols is gone. -/
  | symbolsCleared (application : Artifact)
  /-- The debug symbols were packed or copied. -/
  | symbolsMade (application : Artifact)
  | done (release : Release)

/-- A run under way. -/
structure Point where
  phase : Phase
  disk : Node
  seen : List Sighting

section Course

variable (runner : Runner σ) (job : Job) (cwd : Path)

/-- What a run does next. -/
inductive Step : Point → Point → Prop where
  | recreate {d e seen} (hbuild : isFolder d (cwd / job.buildFolder) = true)
      (h : Recreated (cwd / "archive-root") d e) : Step ⟨.start, d, seen⟩ ⟨.made, e, seen⟩
  | transfer {d e seen}
      (h : Transferred (cwd / job.buildFolder / "exotracker-qt.exe")
        (cwd / "archive-root" / "exotracker-qt.exe") job.policy.executable d e) :
      Step ⟨.made, d, seen⟩ ⟨.staged, e, seen⟩
  | deploy {x seen} (h : runner.Made (job.deployCall cwd) x) (hok : x.failure = none) :
      Step ⟨.staged, x.before, seen⟩ ⟨.deployed, x.after, seen ++ [x]⟩
  | prune {d e seen} (h : Thinned (cwd / "archive-root" / "imageformats") d e)
      (hpruned : Pruned job.policy.imageFormats (cwd / "archive-root" / "imageformats") "qsvg" e) :
      Step ⟨.deployed, d, seen⟩ ⟨.pruned, e, seen⟩
  | clear {d e seen} (h : Removed (job.applicationPath cwd) d e) :
      Step ⟨.pruned, d, seen⟩ ⟨.cleared, e, seen⟩
  | pack {x seen} (h : runner.Made (job.packCall cwd) x) (hok : x.failure = none) :
      Step ⟨.cleared, x.before, seen⟩ ⟨.packed, x.after, seen ++ [x]⟩
  | publish {application d seen} (h : ArtifactOf (job.applicationPath cwd) d application) :
      Step ⟨.packed, d, seen⟩ ⟨.published application, d, seen⟩
  | clearSymbols {application d e seen} (hpolicy : job.policy.debugSymbols = .compress)
      (h : Removed (job.symbolsPath cwd) d e) :
      Step ⟨.published application, d, seen⟩ ⟨.symbolsCleared application, e, seen⟩
  | packSymbols {application x seen} (hpolicy : job.policy.debugSymbols = .compress)
      (h : runner.Made (job.symbolsCall cwd) x) (hok : x.failure = none) :
      Step ⟨.symbolsCleared application, x.before, seen⟩
        ⟨.symbolsMade application, x.after, seen ++ [x]⟩
  | copySymbols {application d e seen} (hpolicy : job.policy.debugSymbols = .rename)
      (h : copyFile (cwd / job.buildFolder / "exotracker-qt.pdb") (job.symbolsPath cwd) d =
        .ok () e) :
      Step ⟨.published application, d, seen⟩ ⟨.symbolsMade application, e, seen⟩
  | publishSymbols {application symbols d seen} (h : ArtifactOf (job.symbolsPath cwd) d symbols) :
      Step ⟨.symbolsMade application, d, seen⟩ ⟨.done ⟨application, some symbols⟩, d, seen⟩

/-- How a run is cut off, with the failure, the disk and the calls that were seen. -/
inductive Stop : Point → Failure → Node → List Sighting → Prop where
  | noBuildFolder {d seen} (h : isFolder d (cwd / job.buildFolder) = false) :
      Stop ⟨.start, d, seen⟩ (.buildFolderMissing (cwd / job.buildFolder)) d seen
  | recreate {d e seen failure} (h : Thinned (cwd / "archive-root") d e) :
      Stop ⟨.start, d, seen⟩ failure e seen
  | transfer {d seen failure} : Stop ⟨.made, d, seen⟩ failure d seen
  | deploy {x seen failure} (h : runner.Made (job.deployCall cwd) x)
      (herror : x.failure = some failure) :
      Stop ⟨.staged, x.before, seen⟩ failure x.after (seen ++ [x])
  | prune {d e seen failure} (h : Thinned (cwd / "archive-root" / "imageformats") d e) :
      Stop ⟨.deployed, d, seen⟩ failure e seen
  | clear {d seen failure} : Stop ⟨.pruned, d, seen⟩ failure d seen
  | pack {x seen failure} (h : runner.Made (job.packCall cwd) x) (herror : x.failure = some failure) :
      Stop ⟨.cleared, x.before, seen⟩ failure x.after (seen ++ [x])
  | publish {d seen failure} (h : FailsToOpen (job.applicationPath cwd) d failure) :
      Stop ⟨.packed, d, seen⟩ failure d seen
  | clearSymbols {application d seen failure} : Stop ⟨.published application, d, seen⟩ failure d seen
  | packSymbols {application x seen failure} (h : runner.Made (job.symbolsCall cwd) x)
      (herror : x.failure = some failure) :
      Stop ⟨.symbolsCleared application, x.before, seen⟩ failure x.after (seen ++ [x])
  | publishSymbols {application d seen failure} (h : FailsToOpen (job.symbolsPath cwd) d failure) :
      Stop ⟨.symbolsMade application, d, seen⟩ failure d seen

end Course

/-! ### What steps change -/

/-- What the next step of a phase may change. -/
def Phase.Touches (job : Job) (cwd : Path) : Phase → Location → Prop
  | .start, l | .staged, l => Job.stagingAt cwd <+: l
  | .made, l => Job.stagedAt cwd <+: l ∨ job.policy.executable = .move ∧ job.builtAt cwd <+: l
  | .deployed, l => cwd.location ++ [.text "archive-root", .text "imageformats"] <+: l
  | .pruned, l | .cleared, l => l = job.applicationAt cwd
  | .published _, l | .symbolsCleared _, l => l = job.symbolsAt cwd
  | .packed, _ | .symbolsMade _, _ | .done _, _ => False

/-- The same by the paths of what is published, which lead elsewhere if there are slashes in the
names. -/
def Phase.Alters (job : Job) (cwd : Path) : Phase → Location → Prop
  | .pruned, l | .cleared, l => l = (job.applicationPath cwd).location
  | .published _, l | .symbolsCleared _, l => l = (job.symbolsPath cwd).location
  | phase, l => phase.Touches job cwd l

theorem Phase.alters_iff {job : Job} {cwd : Path} (hplain : job.HasPlainNames) (phase : Phase)
    (l : Location) : phase.Alters job cwd l ↔ phase.Touches job cwd l := by
  have happlication : (job.applicationPath cwd).location = job.applicationAt cwd := by
    rw [Job.applicationPath_eq, Job.location_application _ hplain]
  have hsymbols : (job.symbolsPath cwd).location = job.symbolsAt cwd := by
    rw [Job.symbolsPath_eq, Job.location_symbols _ hplain]
  cases phase with
  | pruned | cleared =>
      unfold Alters Touches
      rw [happlication]
  | published | symbolsCleared =>
      unfold Alters Touches
      rw [hsymbols]
  | _ => exact Iff.rfl

/-- The call that a phase ends with. -/
def Phase.call? (job : Job) (cwd : Path) : Phase → Option ToolCall
  | .staged => some (job.deployCall cwd)
  | .cleared => some (job.packCall cwd)
  | .symbolsCleared _ => some (job.symbolsCall cwd)
  | _ => none

/-- The call that a run makes at a point. -/
structure Calls (runner : Runner σ) (job : Job) (cwd : Path) (p : Point) (x : Sighting) : Prop where
  made : ∃ c, p.phase.call? job cwd = some c ∧ runner.Made c x
  before_eq : x.before = p.disk

section Changes

variable {runner : Runner σ} {job : Job} {cwd : Path} {p q : Point} {x : Sighting}
  {failure : Failure} {d : Node} {seen : List Sighting}

/-- What a step does without a call is bounded. -/
theorem Step.alters_or_calls (h : Step runner job cwd p q) :
    (q.seen = p.seen ∧ AgreeOff (p.phase.Alters job cwd) q.disk p.disk) ∨
      ∃ x, Calls runner job cwd p x ∧ x.after = q.disk ∧ q.seen = p.seen ++ [x] := by
  cases h with
  | recreate _ h =>
      have hagree := h.agree
      rw [Job.location_staging] at hagree
      exact .inl ⟨rfl, hagree⟩
  | transfer h =>
      have hagree := h.agree
      rw [Job.location_staged, Job.location_built] at hagree
      exact .inl ⟨rfl, hagree⟩
  | prune h _ =>
      have hagree := h.agree
      rw [Job.location_imageFormats] at hagree
      exact .inl ⟨rfl, hagree⟩
  | clear h | clearSymbols _ h => exact .inl ⟨rfl, h.agree⟩
  | copySymbols _ h =>
      obtain ⟨-, -, -, hagree, -⟩ := copyFile_ok h
      exact .inl ⟨rfl, hagree⟩
  | publish | publishSymbols => exact .inl ⟨rfl, .refl _⟩
  | deploy h _ | pack h _ | packSymbols _ h _ => exact .inr ⟨_, ⟨⟨_, rfl, h⟩, rfl⟩, rfl, rfl⟩

theorem Step.quiet_or_calls (hplain : job.HasPlainNames) (h : Step runner job cwd p q) :
    (q.seen = p.seen ∧ AgreeOff (p.phase.Touches job cwd) q.disk p.disk) ∨
      ∃ x, Calls runner job cwd p x ∧ x.after = q.disk ∧ q.seen = p.seen ++ [x] :=
  h.alters_or_calls.imp_left fun hquiet =>
    ⟨hquiet.1, hquiet.2.weaken fun l => (p.phase.alters_iff hplain l).mp⟩

theorem Stop.quiet_or_calls (h : Stop runner job cwd p failure d seen) :
    (seen = p.seen ∧ AgreeOff (p.phase.Touches job cwd) d p.disk) ∨
      ∃ x, Calls runner job cwd p x ∧ x.after = d ∧ seen = p.seen ++ [x] := by
  cases h with
  | recreate h =>
      have hagree := h.agree
      rw [Job.location_staging] at hagree
      exact .inl ⟨rfl, hagree⟩
  | prune h =>
      have hagree := h.agree
      rw [Job.location_imageFormats] at hagree
      exact .inl ⟨rfl, hagree⟩
  | deploy h _ | pack h _ | packSymbols h _ => exact .inr ⟨_, ⟨⟨_, rfl, h⟩, rfl⟩, rfl, rfl⟩
  | _ => exact .inl ⟨rfl, .refl _⟩

section

variable (hrunner : runner.Contained) (hplain : job.HasPlainNames) (hcwd : cwd.isAbsolute = true)

include hrunner hplain hcwd

theorem Runner.Contained.packs (bench : Bench σ) :
    AgreeOff (· = job.applicationAt cwd) (runner.after (job.packCall cwd) bench).disk
      bench.disk := by
  rw [← Job.location_packed hplain hcwd]
  exact hrunner.compress _ bench _ rfl (job.packCall_target cwd)

theorem Runner.Contained.packs_symbols (bench : Bench σ) :
    AgreeOff (· = job.symbolsAt cwd) (runner.after (job.symbolsCall cwd) bench).disk
      bench.disk := by
  rw [← Job.location_symbolsPacked hplain hcwd]
  exact hrunner.compress _ bench _ rfl (job.symbolsCall_target cwd)

variable (hstaging : p.phase = .staged → p.disk.entryAt? (Job.stagingAt cwd) = some .folder)

include hstaging

/-- Contained tools stay within the same bounds. -/
theorem Calls.agree (h : Calls runner job cwd p x) :
    AgreeOff (p.phase.Touches job cwd) x.after x.before := by
  obtain ⟨⟨c, hcall, -, bench, hdisk, hafter⟩, hbefore⟩ := h
  rw [← hbefore, ← hdisk] at hstaging
  rw [← hdisk, ← hafter]
  obtain ⟨phase, disk, seen⟩ := p
  cases phase with
  | staged =>
      obtain rfl := Option.some.inj hcall
      have hagree := hrunner.deploy (job.deployCall cwd) bench rfl
      rw [Job.deployCall, Job.location_staging] at hagree
      exact hagree (hstaging rfl)
  | cleared =>
      obtain rfl := Option.some.inj hcall
      exact hrunner.packs hplain hcwd bench
  | symbolsCleared application =>
      obtain rfl := Option.some.inj hcall
      exact hrunner.packs_symbols hplain hcwd bench
  | _ => cases hcall

theorem Step.agree (h : Step runner job cwd p q) :
    AgreeOff (p.phase.Touches job cwd) q.disk p.disk := by
  rcases h.quiet_or_calls hplain with ⟨-, hagree⟩ | ⟨x, hcalls, hafter, -⟩
  · exact hagree
  · rw [← hafter, ← hcalls.before_eq]
    exact hcalls.agree hrunner hplain hcwd hstaging

theorem Stop.agree (h : Stop runner job cwd p failure d seen) :
    AgreeOff (p.phase.Touches job cwd) d p.disk := by
  rcases h.quiet_or_calls with ⟨-, hagree⟩ | ⟨x, hcalls, hafter, -⟩
  · exact hagree
  · rw [← hafter, ← hcalls.before_eq]
    exact hcalls.agree hrunner hplain hcwd hstaging

end

end Changes

/-! ### Runs take these steps -/

namespace Pipeline

open Stage

variable {pipeline : Pipeline σ} {w : Workspace} {cwd : Path} {I : Point → Prop}
  {E : Failure → Node → List Sighting → Prop}

/-- A watched run at a point of a phase. -/
def At (I : Point → Prop) (phase : Phase) (d : Node) (seen : List Sighting) : Prop :=
  I ⟨phase, d, seen⟩ ∧ d.Legal

section

variable (hrunner : pipeline.runner.KeepsLegal)
  (hstep : ∀ p q, I p → p.disk.Legal → Step pipeline.runner pipeline.job cwd p q → I q)
  (hstop : ∀ p failure d seen, I p → p.disk.Legal →
    Stop pipeline.runner pipeline.job cwd p failure d seen → E failure d seen)

include hstep hstop

include hrunner in
theorem assemble_course (hw : w.cwd = cwd / "archive-root") :
    Runs w (Seeing (At I .made))
      (pipeline.watched.assemble .windows (cwd / pipeline.job.buildFolder)
        (pipeline.job.applicationPath cwd))
      (fun _ => Seeing (At I .packed)) fun failure => Seeing (E failure) := by
  unfold assemble
  refine .bind .cwd fun here => .assuming fun hhere => ?_
  rw [hw] at hhere
  subst hhere
  refine .bind (M := fun _ => Seeing (At I .staged)) (.transfer ?_ ?_) fun _ => ?_
  · intro d m e h htransferred
    exact ⟨hstep _ _ h.1 h.2 (.transfer htransferred), htransferred.legal h.2⟩
  · intro failure d m h
    exact hstop _ _ _ _ h.1 h.2 .transfer
  refine .bind .report fun _ => ?_
  rw [deploy_windows]
  refine .bind (M := fun _ => Seeing (At I .deployed))
    (.sighted ?_ ?_) fun _ => ?_
  · intro seen x h hmade hok
    exact ⟨hstep _ _ h.1 h.2 (.deploy hmade hok), hrunner.made hmade h.2⟩
  · intro seen x failure h hmade herror
    exact hstop _ _ _ _ h.1 h.2 (.deploy hmade herror)
  refine .bind (M := fun _ => Seeing (At I .pruned))
    (.pruneImageFormats (fun d m h => h.2) ?_ ?_) fun _ => ?_
  · intro d m e h hthinned hpruned
    exact ⟨hstep _ _ h.1 h.2 (.prune hthinned hpruned), h.2.of_sheds hthinned.sheds⟩
  · intro failure d m e h hthinned
    exact hstop _ _ _ _ h.1 h.2 (.prune hthinned)
  refine .bind (M := fun _ => Seeing (At I .cleared)) (.removeIfPresent ?_ ?_) fun _ => ?_
  · intro d m e h hremoved
    exact ⟨hstep _ _ h.1 h.2 (.clear hremoved), h.2.of_sheds hremoved.sheds⟩
  · intro failure d m h
    exact hstop _ _ _ _ h.1 h.2 .clear
  rw [compress_windows]
  refine .sighted ?_ ?_
  · intro seen x h hmade hok
    exact ⟨hstep _ _ h.1 h.2 (.pack hmade hok), hrunner.made hmade h.2⟩
  · intro seen x failure h hmade herror
    exact hstop _ _ _ _ h.1 h.2 (.pack hmade herror)

include hrunner in
theorem publishSymbols_course (application : Artifact) :
    Runs w (Seeing (At I (.published application)))
      (pipeline.watched.publishSymbols .windows
        (cwd / pipeline.job.buildFolder / "exotracker-qt.pdb")
        (cwd / (⟨pipeline.job.archiveName⟩ : Path)) cwd)
      (fun symbols => Seeing (At I (.done ⟨application, some symbols⟩)))
      fun failure => Seeing (E failure) := by
  have hartifact : Runs w (Seeing (At I (.symbolsMade application)))
      (artifact (pipeline.job.symbolsPath cwd) : Stage (Watched σ) Artifact)
      (fun symbols => Seeing (At I (.done ⟨application, some symbols⟩)))
      fun failure => Seeing (E failure) := by
    refine .artifact ?_ ?_
    · intro symbols d m h hartifact
      exact ⟨hstep _ _ h.1 h.2 (.publishSymbols hartifact), h.2⟩
    · intro failure d m h hfails
      exact hstop _ _ _ _ h.1 h.2 (.publishSymbols hfails)
  unfold publishSymbols
  dsimp only [watched]
  cases hpolicy : pipeline.job.policy.debugSymbols with
  | compress =>
      have hpath : pipeline.job.symbolsPath cwd =
          ((cwd / (⟨pipeline.job.archiveName⟩ : Path)).addExtension "pdb").addExtension
            Packaging.windows.extension := by
        rw [Job.symbolsPath, hpolicy]
        rfl
      dsimp only
      rw [← hpath]
      refine .bind (M := fun _ => Seeing (At I (.symbolsCleared application)))
        (.removeIfPresent ?_ ?_) fun _ => ?_
      · intro d m e h hremoved
        exact ⟨hstep _ _ h.1 h.2 (.clearSymbols hpolicy hremoved), h.2.of_sheds hremoved.sheds⟩
      · intro failure d m h
        exact hstop _ _ _ _ h.1 h.2 .clearSymbols
      rw [compress_windows]
      refine .bind (.sighted ?_ ?_) fun _ => hartifact
      · intro seen x h hmade hok
        exact ⟨hstep _ _ h.1 h.2 (.packSymbols hpolicy hmade hok), hrunner.made hmade h.2⟩
      · intro seen x failure h hmade herror
        exact hstop _ _ _ _ h.1 h.2 (.packSymbols hmade herror)
  | rename =>
      have hpath : pipeline.job.symbolsPath cwd =
          (cwd / (⟨pipeline.job.archiveName⟩ : Path)).addExtension "pdb" := by
        rw [Job.symbolsPath, hpolicy]
      dsimp only
      rw [← hpath]
      refine .bind (M := fun _ => Seeing (At I (.symbolsMade application)))
        (.attempt ?_) fun _ => hartifact
      intro d m h
      cases hrun : copyFile (cwd / pipeline.job.buildFolder / "exotracker-qt.pdb")
        (pipeline.job.symbolsPath cwd) d with
      | ok u e =>
          obtain ⟨-, -, -, -, hkeeps, -⟩ := copyFile_ok hrun
          exact ⟨hstep _ _ h.1 h.2 (.copySymbols hpolicy hrun), hkeeps h.2⟩
      | error fault e =>
          obtain rfl := copyFile_error hrun
          exact hstop _ _ _ _ h.1 h.2 .clearSymbols

include hrunner in
/-- What every step keeps holds of every run, wherever it ends. -/
theorem archive_course (hcwd : cwd.isAbsolute = true) (hw : w.cwd = cwd) :
    Runs w (Seeing (At I .start)) (pipeline.watched.archive .windows)
      (fun release => Seeing (At I (.done release))) fun failure => Seeing (E failure) := by
  subst hw
  have hstaging : (w.inside (w.path ⟨stagingFolder⟩)).cwd = w.cwd / "archive-root" :=
    Workspace.cwd_inside_path hcwd _
  unfold archive
  refine .bind .cwd fun root => .assuming fun hroot => ?_
  refine .bind (.existingBuildFolder ?_) fun folder => ?_
  · intro d m h hmissing
    exact hstop _ _ _ _ h.1 h.2 (.noBuildFolder hmissing)
  refine .of_fact (fun d m h => h.1.1.symm) fun hfolder => ?_
  refine .bind .path fun base => .assuming fun hbase => ?_
  refine .bind .report fun _ => ?_
  refine .bind .path fun staging => .assuming fun hstaged => ?_
  subst hroot hfolder hbase hstaged
  refine .bind (M := fun _ => Seeing (At I .made)) (.recreateFolder ?_ ?_) fun _ => ?_
  · intro d m e h hrecreated
    obtain ⟨⟨-, hbuild⟩, hI, hlegal⟩ := h
    exact ⟨hstep _ _ hI hlegal (.recreate hbuild hrecreated), hrecreated.legal hlegal⟩
  · intro failure d m e h hthinned
    exact hstop _ _ _ _ h.2.1 h.2.2 (.recreate hthinned)
  refine .bind (.within (fun d m h _ => hstop _ _ _ _ h.1 h.2 .transfer)
    ((assemble_course hrunner hstep hstop hstaging).weaken (fun _ _ h => h.2) (fun _ _ _ h => h)
      fun _ _ _ h => h)) fun _ => ?_
  refine .bind (M := fun application => Seeing (At I (.published application)))
    (.artifact (p := pipeline.job.applicationPath w.cwd) ?_ ?_) fun application => ?_
  · intro application d m h hartifact
    exact ⟨hstep _ _ h.1 h.2 (.publish hartifact), h.2⟩
  · intro failure d m h hfails
    exact hstop _ _ _ _ h.1 h.2 (.publish hfails)
  refine .bind .report fun _ => ?_
  refine .bind (publishSymbols_course hrunner hstep hstop application) fun symbols => ?_
  exact .bind .report fun _ => .pure fun _ _ h => h

end

/-- What every step keeps holds after every run, if it says the same of all its endings. -/
theorem archive_course_after {R : Node → List Sighting → Prop} (s : Session σ)
    (hcwd : s.workspace.cwd.isAbsolute = true) (hlegal : s.bench.disk.Legal)
    (hrunner : pipeline.runner.KeepsLegal) (hstart : I ⟨.start, s.bench.disk, []⟩)
    (hstep : ∀ p q, I p → p.disk.Legal →
      Step pipeline.runner pipeline.job s.workspace.cwd p q → I q)
    (hstop : ∀ p failure d seen, I p → p.disk.Legal →
      Stop pipeline.runner pipeline.job s.workspace.cwd p failure d seen → R d seen)
    (hdone : ∀ release d seen, I ⟨.done release, d, seen⟩ → R d seen) :
    R (sessionAfter (pipeline.watched.archive .windows) s.watched).bench.disk
      (sessionAfter (pipeline.watched.archive .windows) s.watched).bench.memory.seen := by
  have hruns : Runs s.workspace (Seeing (At I .start)) (pipeline.watched.archive .windows)
      (fun _ => Seeing R) fun _ => Seeing R :=
    (archive_course hrunner hstep hstop hcwd rfl).weaken (fun _ _ h => h)
      (fun release d m h => hdone release d m.seen h.1) fun _ _ _ h => h
  exact (hruns.sessionAfter s.watched rfl ⟨hstart, hlegal⟩).2

end Pipeline

end ReleasePipeline
