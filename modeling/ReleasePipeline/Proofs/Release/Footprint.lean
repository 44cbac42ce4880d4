import ReleasePipeline.Proofs.Release.Course
import ReleasePipeline.Proofs.Stage.Unwatched

/-!
# ReleasePipeline.Proofs.Release.Footprint

What a release leaves on the disk, wherever making it stops. With contained tools, and an executable
that is copied, a run touches three locations: the staging folder with all that is in it, the
application's archive and the file of the debug symbols. It leaves the way to the current folder as
it was, unless that leads through the staging folder, and it neither makes nor unmakes a file in the
place of the staging folder (`Traces`). If the tools are tidy and make no folder where an archive is
to be, then neither do they where a release is published.

The invariant of a run under way, from the moment the staging folder is made, is `Underway`. It says
why the way stays clear: making the staging folder succeeds only where the current folder is not
reached through it, and a folder on the way is in nobody's way, since what a run removes or writes
over is a file.
-/

namespace ReleasePipeline

open Disk Node

/-- What a run may have left: the disk differs from the disk at the start only in the footprint. -/
structure Traces (job : Job) (cwd : Path) (tidy : Prop) (start d : Node) : Prop where
  agree : AgreeOff (job.Touches cwd) d start
  road : ∀ l ∈ cwd.road, ¬Job.stagingAt cwd <+: l →
    (d.entryAt? l = some .folder ↔ start.entryAt? l = some .folder)
  published : tidy → ∀ l, job.Publishes cwd l →
    (d.entryAt? l = some .folder ↔ start.entryAt? l = some .folder)
  file : (∃ f, d.entryAt? (Job.stagingAt cwd) = some (.file f)) ↔
    ∃ f, start.entryAt? (Job.stagingAt cwd) = some (.file f)

/-- What tidy tools may have left of a disk with no file in the way of the staging folder. -/
structure Leftovers (job : Job) (cwd : Path) (start d : Node) : Prop extends
    Traces job cwd True start d where
  not_file : ∀ f, d.entryAt? (Job.stagingAt cwd) ≠ some (.file f)

/-- A run under way. -/
structure Underway (job : Job) (cwd : Path) (tidy : Prop) (start d : Node) : Prop where
  agree : AgreeOff (job.Touches cwd) d start
  published : tidy → ∀ l, job.Publishes cwd l →
    (d.entryAt? l = some .folder ↔ start.entryAt? l = some .folder)
  reaches : Reaches d cwd
  made : d.entryAt? (Job.stagingAt cwd) = some .folder
  reached : Reaches start cwd
  road : ∀ l ∈ cwd.road, ¬Job.stagingAt cwd <+: l
  not_file : ∀ f, start.entryAt? (Job.stagingAt cwd) ≠ some (.file f)

variable {job : Job} {cwd : Path} {tidy : Prop} {start d e : Node}

theorem Traces.refl (start : Node) : Traces job cwd tidy start start :=
  ⟨.refl start, fun _ _ _ => .rfl, fun _ _ _ => .rfl, .rfl⟩

/-- Taking away in the staging folder. -/
theorem Traces.of_thinned (h : Thinned (cwd / "archive-root") start d) :
    Traces job cwd tidy start d := by
  obtain ⟨hsheds, hagree, hfile⟩ := h
  rw [Job.location_staging] at hagree hfile
  refine ⟨hagree.weaken fun l hl => .inl hl, ?_, ?_, ?_, ?_⟩
  · intro l _ hl
    rw [hagree l hl]
  · intro _ l hl
    rw [hagree l hl.not_staging]
  · exact fun ⟨f, hf⟩ => ⟨f, hsheds _ _ hf⟩
  · exact fun ⟨f, hf⟩ => ⟨f, hfile f hf⟩

namespace Underway

theorem of_recreated (hreached : Reaches start cwd)
    (h : Recreated (cwd / "archive-root") start d) : Underway job cwd tidy start d := by
  obtain ⟨hmade, -, hagree, -, hfile, hroad⟩ := h
  obtain ⟨hreaches, hroad⟩ := hroad cwd "archive-root" (by decide) rfl
  rw [Job.location_staging] at hmade hagree hfile hroad
  refine ⟨hagree.weaken fun l hl => .inl hl, ?_, hreaches, hmade, hreached, hroad, hfile⟩
  intro _ l hl
  rw [hagree l hl.not_staging]

/-- Wherever a run is cut off now, it leaves no more than its traces. -/
theorem traces (h : Underway job cwd tidy start d) : Traces job cwd tidy start d where
  agree := h.agree
  road l hl _ := iff_of_true (h.reaches.folders l hl) (h.reached.folders l hl)
  published := h.published
  file := by
    refine iff_of_false ?_ fun ⟨f, hf⟩ => h.not_file f hf
    rintro ⟨f, hf⟩
    rw [h.made] at hf
    cases hf

/-- A change inside the staging folder. -/
theorem update_staging (h : Underway job cwd tidy start d)
    (hagree : AgreeOff (Job.stagingAt cwd <+: ·) e d)
    (hmade : e.entryAt? (Job.stagingAt cwd) = some .folder) : Underway job cwd tidy start e := by
  refine ⟨(hagree.weaken fun l hl => .inl hl).trans h.agree, ?_, ?_, hmade, h.reached, h.road,
    h.not_file⟩
  · intro htidy l hl
    rw [hagree l hl.not_staging]
    exact h.published htidy l hl
  · exact h.reaches.of_agree hagree fun l hl hbelow => absurd hbelow (h.road l hl)

/-- A change further down in the staging folder. -/
theorem update_inside {name : String} (h : Underway job cwd tidy start d)
    (hagree : AgreeOff (Job.stagingAt cwd ++ [.text name] <+: ·) e d) :
    Underway job cwd tidy start e := by
  refine h.update_staging (hagree.weaken fun l hl => (List.prefix_append _ _).trans hl) ?_
  rw [hagree _ not_prefix_self]
  exact h.made

/-- A change of a published file. -/
theorem update_file {l : Location} (h : Underway job cwd tidy start d) (hl : job.Publishes cwd l)
    (hagree : AgreeOff (· = l) e d)
    (hkeeps : d.entryAt? l = some .folder → e.entryAt? l = some .folder)
    (htidy : tidy → e.entryAt? l = some .folder → d.entryAt? l = some .folder) :
    Underway job cwd tidy start e := by
  refine ⟨(hagree.weaken fun m hm => .inr (hm ▸ hl)).trans h.agree, ?_,
    h.reaches.change hagree hkeeps, ?_, h.reached, h.road, h.not_file⟩
  · intro ht m hm
    rw [← h.published ht m hm]
    by_cases hsame : m = l
    · subst hsame
      exact ⟨htidy ht, hkeeps⟩
    · rw [hagree m hsame]
  · rw [hagree _ fun heq => hl.not_staging (heq ▸ List.prefix_rfl)]
    exact h.made

/-- Removing a published file. -/
theorem removed {name : String} (h : Underway job cwd tidy start d) (hname : Path.IsName name)
    (hl : job.Publishes cwd (cwd.location ++ [.text name])) (hremoved : Removed (cwd / name) d e) :
    Underway job cwd tidy start e ∧ e.entryAt? (cwd.location ++ [.text name]) = none := by
  have hgone := hremoved.gone cwd name hname rfl h.reaches
  obtain ⟨-, hsheds, hagree, hkeeps, -⟩ := hremoved
  rw [Path.location_join_name hname] at hagree hkeeps
  exact ⟨h.update_file hl hagree hkeeps fun _ => hsheds _ _, hgone⟩

/-- Making something where there is nothing. -/
theorem made_at {l : Location} (h : Underway job cwd tidy start d) (hl : job.Publishes cwd l)
    (hnone : d.entryAt? l = none) (hagree : AgreeOff (· = l) e d)
    (htidy : tidy → d.entryAt? l ≠ some .folder → e.entryAt? l ≠ some .folder) :
    Underway job cwd tidy start e := by
  have hno : d.entryAt? l ≠ some .folder := by
    rw [hnone]
    exact nofun
  exact h.update_file hl hagree (fun hd => absurd hd hno) fun ht he => absurd he (htidy ht hno)

end Underway

/-! ### Along a run -/

/-- What holds at each point of a run. -/
def InFootprint (job : Job) (cwd : Path) (tidy : Prop) (start : Node) : Point → Prop
  | ⟨.start, d, _⟩ => d = start
  | ⟨.cleared, d, _⟩ =>
      Underway job cwd tidy start d ∧ d.entryAt? (job.applicationAt cwd) = none
  | ⟨.symbolsCleared _, d, _⟩ =>
      Underway job cwd tidy start d ∧ d.entryAt? (job.symbolsAt cwd) = none
  | p => Underway job cwd tidy start p.disk

section

variable {runner : Runner σ} {p q : Point} {failure : Failure} {seen : List Sighting}
  {x : Sighting} (hrunner : runner.Contained) (hkeeps : runner.KeepsFolder)
  (htidy : tidy → runner.Confined) (hplain : job.HasPlainNames) (hcwd : cwd.isAbsolute = true)

include hrunner hkeeps in
theorem Underway.deployed (h : Underway job cwd tidy start x.before)
    (hmade : runner.Made (job.deployCall cwd) x) : Underway job cwd tidy start x.after := by
  obtain ⟨-, bench, hdisk, hafter⟩ := hmade
  rw [← hdisk] at h
  rw [← hafter]
  have hagree := hrunner.deploy (job.deployCall cwd) bench rfl
  have hfolder := hkeeps (job.deployCall cwd) bench rfl
  rw [Job.deployCall, Job.location_staging] at hagree hfolder
  exact h.update_staging (hagree h.made) (hfolder h.made)

include hrunner htidy hplain hcwd

theorem Underway.packed (h : Underway job cwd tidy start x.before)
    (hnone : x.before.entryAt? (job.applicationAt cwd) = none)
    (hmade : runner.Made (job.packCall cwd) x) : Underway job cwd tidy start x.after := by
  obtain ⟨-, bench, hdisk, hafter⟩ := hmade
  rw [← hdisk] at h hnone
  rw [← hafter]
  refine h.made_at (.inl rfl) hnone (hrunner.packs hplain hcwd bench) fun ht => ?_
  rw [← Job.location_packed hplain hcwd]
  exact ((htidy ht).compress _ bench _ rfl (job.packCall_target cwd)).2

theorem Underway.packed_symbols (h : Underway job cwd tidy start x.before)
    (hnone : x.before.entryAt? (job.symbolsAt cwd) = none)
    (hmade : runner.Made (job.symbolsCall cwd) x) : Underway job cwd tidy start x.after := by
  obtain ⟨-, bench, hdisk, hafter⟩ := hmade
  rw [← hdisk] at h hnone
  rw [← hafter]
  refine h.made_at (.inr rfl) hnone (hrunner.packs_symbols hplain hcwd bench) fun ht => ?_
  rw [← Job.location_symbolsPacked hplain hcwd]
  exact ((htidy ht).compress _ bench _ rfl (job.symbolsCall_target cwd)).2

include hkeeps

theorem InFootprint.step (hcopy : job.policy.executable = .copy)
    (h : InFootprint job cwd tidy start p) (hstep : Step runner job cwd p q) :
    InFootprint job cwd tidy start q := by
  have happlication := job.applicationPath_eq cwd
  have hsymbols := job.symbolsPath_eq cwd
  cases hstep with
  | recreate hbuild hrecreated =>
      obtain rfl := h
      exact .of_recreated ((Reaches.of_isFolder hbuild).of_join job.isName_buildFolder) hrecreated
  | transfer htransferred =>
      have hagree := htransferred.agree
      rw [hcopy, Job.location_staged, Job.stagedAt_eq] at hagree
      exact h.update_inside (hagree.weaken fun l hl => hl.resolve_right nofun)
  | deploy hmade _ => exact h.deployed hrunner hkeeps hmade
  | prune hthinned _ =>
      have hagree := hthinned.agree
      rw [Path.location_join_name (by decide), Job.location_staging] at hagree
      exact h.update_inside hagree
  | clear hremoved =>
      rw [happlication] at hremoved
      exact h.removed (Job.isName_applicationName hplain) (.inl rfl) hremoved
  | pack hmade _ => exact h.1.packed hrunner htidy hplain hcwd h.2 hmade
  | clearSymbols _ hremoved =>
      rw [hsymbols] at hremoved
      exact h.removed (Job.isName_symbolsName hplain) (.inr rfl) hremoved
  | packSymbols _ hmade _ => exact h.1.packed_symbols hrunner htidy hplain hcwd h.2 hmade
  | copySymbols _ hrun =>
      obtain ⟨f, -, hno, hagree, -, harrived⟩ := copyFile_ok hrun
      rw [Job.location_symbolsBuilt, hsymbols, Job.location_symbols _ hplain] at harrived
      rw [hsymbols, Job.location_symbols _ hplain] at hno hagree
      have hfile := harrived Job.published_ne
      exact h.update_file (.inr rfl) hagree (fun hd => absurd hd hno) fun _ he =>
        absurd (hfile.symm.trans he) nofun
  | publish | publishSymbols => exact h

theorem InFootprint.stop (h : InFootprint job cwd tidy start p)
    (hstop : Stop runner job cwd p failure d seen) : Traces job cwd tidy start d := by
  cases hstop with
  | noBuildFolder =>
      obtain rfl := h
      exact .refl _
  | recreate hthinned =>
      obtain rfl := h
      exact .of_thinned hthinned
  | deploy hmade _ => exact (Underway.deployed hrunner hkeeps h hmade).traces
  | prune hthinned =>
      have hagree := hthinned.agree
      rw [Path.location_join_name (by decide), Job.location_staging] at hagree
      exact (Underway.update_inside h hagree).traces
  | pack hmade _ => exact (h.1.packed hrunner htidy hplain hcwd h.2 hmade).traces
  | packSymbols hmade _ => exact (h.1.packed_symbols hrunner htidy hplain hcwd h.2 hmade).traces
  | transfer | clear | publish | clearSymbols | publishSymbols => exact Underway.traces h

end

namespace Pipeline

open Stage

variable {pipeline : Pipeline σ} {w : Workspace}

/-- Wherever making a release stops, it leaves no more than its traces. If it succeeds, then no file
was in the way of the staging folder, and the current folder is not reached through that folder. -/
theorem archive_traces (hrunner : pipeline.runner.Contained) (hkeeps : pipeline.runner.KeepsFolder)
    (htidy : tidy → pipeline.runner.Confined) (hplain : pipeline.job.HasPlainNames)
    (hcopy : pipeline.job.policy.executable = .copy) (hcwd : cwd.isAbsolute = true)
    (hw : w.cwd = cwd) (hlegal : start.Legal) :
    Runs w (fun d _ => d = start) (pipeline.archive .windows)
      (fun _ d _ => Underway pipeline.job cwd tidy start d ∧ d.Legal)
      fun _ d _ => Traces pipeline.job cwd tidy start d := by
  refine archive_erases.runs ((archive_course (I := InFootprint pipeline.job cwd tidy start)
    (E := fun _ d _ => Traces pipeline.job cwd tidy start d) hrunner.legal ?_ ?_ hcwd hw).weaken
      ?_ (fun _ _ _ h => h) fun _ _ _ h => h)
  · exact fun p q h _ => h.step hrunner hkeeps htidy hplain hcwd hcopy
  · exact fun p failure d seen h _ => h.stop hrunner hkeeps htidy hplain hcwd
  · intro d m h
    obtain ⟨rfl, -⟩ := h
    exact ⟨rfl, hlegal⟩

/-- Tidy tools leave no more than traces either, and they keep what is published free of folders. -/
theorem archive_keeps (hrunner : pipeline.runner.Confined) (hjob : pipeline.job = job)
    (hplain : job.HasPlainNames) (hcopy : job.policy.executable = .copy)
    (hcwd : cwd.isAbsolute = true) (hw : w.cwd = cwd) (hlegal : start.Legal) :
    Runs w (fun d _ => d = start) (pipeline.archive .windows)
      (fun _ d _ => ((∀ f, start.entryAt? (Job.stagingAt cwd) ≠ some (.file f)) ∧
        ∀ l ∈ cwd.road, ¬Job.stagingAt cwd <+: l) ∧ Traces job cwd True start d)
      fun _ d _ => Traces job cwd True start d := by
  subst hjob
  have htidy : True → pipeline.runner.Confined := fun _ => hrunner
  exact (archive_traces hrunner.contained hrunner.keepsFolder htidy hplain hcopy hcwd hw
    hlegal).weaken (fun _ _ h => h) (fun _ _ _ h => ⟨⟨h.1.not_file, h.1.road⟩, h.1.traces⟩)
    fun _ _ _ h => h

/-- What is left by a run from a disk without a file in the way of the staging folder. -/
theorem archive_leftovers {s : Session σ} (hrunner : pipeline.runner.Confined)
    (hjob : pipeline.job = job) (hplain : job.HasPlainNames)
    (hcopy : job.policy.executable = .copy) (hcwd : cwd.isAbsolute = true)
    (hw : s.workspace.cwd = cwd) (hlegal : s.bench.disk.Legal)
    (hfile : ∀ f, s.bench.disk.entryAt? (Job.stagingAt cwd) ≠ some (.file f)) :
    Leftovers job cwd s.bench.disk (sessionAfter (pipeline.archive .windows) s).bench.disk := by
  have hkeeps : Runs s.workspace (fun d _ => d = s.bench.disk) (pipeline.archive .windows)
      (fun _ d _ => Traces job cwd True s.bench.disk d) fun _ d _ =>
        Traces job cwd True s.bench.disk d :=
    (archive_keeps hrunner hjob hplain hcopy hcwd hw hlegal).weaken (fun _ _ h => h)
      (fun _ _ _ h => h.2) fun _ _ _ h => h
  have htraces := (hkeeps.sessionAfter s rfl rfl).2
  exact ⟨htraces, fun f hf => absurd (htraces.file.mp ⟨f, hf⟩) fun ⟨g, hg⟩ => hfile g hg⟩

end Pipeline

end ReleasePipeline
