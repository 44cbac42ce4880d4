import ReleasePipeline.Job.Settings
import ReleasePipeline.Proofs.Release.Course
import ReleasePipeline.Proofs.Release.PlainTools

/-!
# ReleasePipeline.Proofs.Release.InRoot

Where making a release reaches. The build folder is an entry of the current folder whatever the job
is called, since its name is made safe. The published files are named by the version and the
configuration as they were given: they are entries of the current folder exactly if there is no
slash in either (`Job.HasPlainNames`), and else their paths may lead anywhere.

`ActsWithin` says of a run that all it did itself, from one call to the next, was done in some
places. Without a call it never acts anywhere but below the current folder and where it publishes,
so a job with plain names leaves everything else to its tools.
-/

namespace ReleasePipeline

open Disk Node

/-! ### Entries of a folder -/

namespace Path

variable {folder : Path} {name other : String}

/-- A path with no more to it than a folder and the name of an entry. -/
def IsEntryOf (folder p : Path) : Prop :=
  ∃ name : String, IsName name ∧ p = folder / name

theorem join_inj (hname : (Path.mk name).isAbsolute = false)
    (hother : (Path.mk other).isAbsolute = false) (h : folder / name = folder / other) :
    name = other := by
  change folder / (⟨name⟩ : Path) = folder / (⟨other⟩ : Path) at h
  rw [join_of_not_isAbsolute hname, join_of_not_isAbsolute hother] at h
  split at h
  · exact (String.append_right_inj _).mp (congrArg Path.text h)
  · exact (String.append_right_inj _).mp (congrArg Path.text h)

theorem isEntryOf_join_iff (h : (Path.mk name).isAbsolute = false) :
    IsEntryOf folder (folder / name) ↔ IsName name := by
  constructor
  · rintro ⟨other, hother, heq⟩
    rwa [join_inj h hother.not_isAbsolute heq]
  · intro hname
    exact ⟨name, hname, rfl⟩

end Path

namespace Job

open ReleasePipeline.Path

variable {job : Job} {cwd : Path}

theorem hasPlainNames_of_not_mem (h : '/' ∉ job.archiveName.toList) : job.HasPlainNames := by
  simp only [archiveName, String.toList_append, List.mem_append, not_or] at h
  obtain ⟨⟨⟨-, hversion⟩, hsuffix⟩, -⟩ := h
  refine ⟨hversion, ?_⟩
  unfold configurationSuffix at hsuffix
  split at hsuffix
  · rename_i hrelease
    rw [hrelease]
    decide
  · rw [String.toList_append, List.mem_append, not_or] at hsuffix
    exact hsuffix.2

theorem isName_archiveName_append_iff {ending : String} (hending : '/' ∉ ending.toList) :
    IsName (job.archiveName ++ ending) ↔ job.HasPlainNames := by
  refine ⟨fun h => hasPlainNames_of_not_mem fun hslash => h.no_slash ?_,
    fun h => isName_archiveName_append h ending hending⟩
  rw [String.toList_append]
  exact List.mem_append_left _ hslash

theorem isEntryOf_application_iff :
    IsEntryOf cwd (job.applicationPath cwd) ↔ job.HasPlainNames := by
  rw [applicationPath_eq]
  exact (isEntryOf_join_iff (job.not_isAbsolute_archiveName_append ".7z")).trans
    (isName_archiveName_append_iff (by decide))

theorem isEntryOf_symbols_iff : IsEntryOf cwd (job.symbolsPath cwd) ↔ job.HasPlainNames := by
  rw [symbolsPath_eq]
  unfold symbolsName
  cases job.policy.debugSymbols with
  | compress =>
      rw [isEntryOf_join_iff (job.not_isAbsolute_archiveName_append ".pdb.7z")]
      exact isName_archiveName_append_iff (by decide)
  | rename =>
      rw [isEntryOf_join_iff (job.not_isAbsolute_archiveName_append ".pdb")]
      exact isName_archiveName_append_iff (by decide)

/-- Everything at or below the current folder, and where a release is published. -/
def Reach (job : Job) (cwd : Path) (l : Location) : Prop :=
  cwd.location <+: l ∨ l = (job.applicationPath cwd).location ∨ l = (job.symbolsPath cwd).location

/-- With plain names a release is published in the current folder. -/
theorem Reach.below {l : Location} (hplain : job.HasPlainNames) (h : job.Reach cwd l) :
    cwd.location <+: l := by
  unfold Reach at h
  rw [applicationPath_eq, location_application cwd hplain, symbolsPath_eq,
    location_symbols cwd hplain] at h
  rcases h with h | h | h
  · exact h
  · exact h ▸ List.prefix_append _ _
  · exact h ▸ List.prefix_append _ _

end Job

/-! ### Between calls -/

/-- From one disk to another over some calls, with no change outside of some places but by the
calls. -/
inductive ActsWithin (inside : Location → Prop) : Node → List Sighting → Node → Prop where
  | quiet {d e : Node} (h : AgreeOff inside e d) : ActsWithin inside d [] e
  | call {d final : Node} {x : Sighting} {rest : List Sighting} (h : AgreeOff inside x.before d)
      (later : ActsWithin inside x.after rest final) : ActsWithin inside d (x :: rest) final

namespace ActsWithin

variable {inside : Location → Prop} {d e f : Node} {seen : List Sighting} {x : Sighting}

theorem change (h : ActsWithin inside d seen e) (hagree : AgreeOff inside f e) :
    ActsWithin inside d seen f := by
  induction h with
  | quiet h => exact .quiet (hagree.trans h)
  | call h _ ih => exact .call h (ih hagree)

theorem concat (h : ActsWithin inside d seen x.before) :
    ActsWithin inside d (seen ++ [x]) x.after := by
  generalize hbefore : x.before = e at h
  induction h with
  | quiet h => exact .call (hbefore ▸ h) (.quiet (.refl _))
  | call h _ ih => exact .call h (ih hbefore)

theorem weaken {inside' : Location → Prop} (h : ActsWithin inside d seen e)
    (hinside : ∀ l, inside l → inside' l) : ActsWithin inside' d seen e := by
  induction h with
  | quiet h => exact .quiet (h.weaken hinside)
  | call h _ ih => exact .call (h.weaken hinside) ih

/-- With calls that change nothing outside, nothing outside is changed. -/
theorem agree (h : ActsWithin inside d seen e)
    (hcalls : ∀ x ∈ seen, AgreeOff inside x.after x.before) : AgreeOff inside e d := by
  induction h with
  | quiet h => exact h
  | call h _ ih =>
      have hlater := ih fun x hx => hcalls x (List.mem_cons_of_mem _ hx)
      exact hlater.trans ((hcalls _ (List.mem_cons_self ..)).trans h)

end ActsWithin

section

variable {runner : Runner σ} {job : Job} {cwd : Path} {start : Node} {p q : Point}
  {failure : Failure} {d : Node} {seen : List Sighting}

theorem Phase.Touches.below {phase : Phase} {l : Location} (h : phase.Touches job cwd l) :
    cwd.location <+: l := by
  have habove : ∀ {names : Location}, cwd.location ++ names <+: l → cwd.location <+: l :=
    fun h => (List.prefix_append _ _).trans h
  cases phase with
  | start | staged | deployed => exact habove h
  | made =>
      rcases h with h | ⟨-, h⟩
      · exact habove h
      · exact habove h
  | pruned | cleared =>
      have h : l = job.applicationAt cwd := h
      exact h ▸ List.prefix_append _ _
  | published | symbolsCleared =>
      have h : l = job.symbolsAt cwd := h
      exact h ▸ List.prefix_append _ _
  | packed | symbolsMade | done => exact h.elim

theorem Phase.Alters.reach {phase : Phase} {l : Location} (h : phase.Alters job cwd l) :
    job.Reach cwd l := by
  have hcases : phase.Touches job cwd l ∨ l = (job.applicationPath cwd).location ∨
      l = (job.symbolsPath cwd).location := by
    cases phase with
    | pruned | cleared => exact .inr (.inl h)
    | published | symbolsCleared => exact .inr (.inr h)
    | _ => exact .inl h
  exact hcases.imp_left Touches.below

theorem ActsWithin.step (h : ActsWithin (job.Reach cwd) start p.seen p.disk)
    (hstep : Step runner job cwd p q) : ActsWithin (job.Reach cwd) start q.seen q.disk := by
  rcases hstep.alters_or_calls with ⟨hseen, hagree⟩ | ⟨x, hcalls, hafter, hseen⟩
  · rw [hseen]
    exact h.change (hagree.weaken fun _ => Phase.Alters.reach)
  · rw [← hcalls.before_eq] at h
    rw [hseen, ← hafter]
    exact h.concat

theorem ActsWithin.stop (h : ActsWithin (job.Reach cwd) start p.seen p.disk)
    (hstop : Stop runner job cwd p failure d seen) :
    ActsWithin (job.Reach cwd) start seen d := by
  rcases hstop.quiet_or_calls with ⟨hseen, hagree⟩ | ⟨x, hcalls, hafter, hseen⟩
  · rw [hseen]
    exact h.change (hagree.weaken fun _ hl => .inl hl.below)
  · rw [← hcalls.before_eq] at h
    rw [hseen, ← hafter]
    exact h.concat

/-- What a phase has published is at the paths of its job. -/
def PublishedAt (job : Job) (cwd : Path) : Phase → Prop
  | .published application | .symbolsCleared application | .symbolsMade application =>
    application.path = job.applicationPath cwd
  | .done release => release.application.path = job.applicationPath cwd ∧
      ∃ symbols, release.symbols = some symbols ∧ symbols.path = job.symbolsPath cwd
  | _ => True

theorem PublishedAt.step (h : PublishedAt job cwd p.phase) (hstep : Step runner job cwd p q) :
    PublishedAt job cwd q.phase := by
  cases hstep with
  | publish hartifact => exact hartifact.path_eq
  | clearSymbols | packSymbols | copySymbols => exact h
  | publishSymbols hartifact => exact ⟨h, _, rfl, hartifact.path_eq⟩
  | _ => trivial

end

/-! ### The main statement -/

namespace Pipeline

open ReleasePipeline.Path

/-- Where a run that makes a release acts, and where its artifacts are. -/
structure ReachesByName (pipeline : Pipeline σ) (s : Session σ) : Prop where
  build_folder : IsEntryOf s.workspace.cwd (s.workspace.cwd / pipeline.job.buildFolder)
  application : ∀ release t, pipeline.watched.archive .windows s.watched = .ok release t →
    release.application.path = s.workspace.cwd / pipeline.job.applicationName ∧
      (IsEntryOf s.workspace.cwd release.application.path ↔ pipeline.job.HasPlainNames)
  symbols : ∀ release t, pipeline.watched.archive .windows s.watched = .ok release t →
    ∃ symbols, release.symbols = some symbols ∧
      symbols.path = s.workspace.cwd / pipeline.job.symbolsName ∧
      (IsEntryOf s.workspace.cwd symbols.path ↔ pipeline.job.HasPlainNames)
  acts : ActsWithin (pipeline.job.Reach s.workspace.cwd) s.bench.disk
    (Stage.sessionAfter (pipeline.watched.archive .windows) s.watched).bench.memory.seen
    (Stage.sessionAfter (pipeline.watched.archive .windows) s.watched).bench.disk
  acts_below : pipeline.job.HasPlainNames → ActsWithin (s.workspace.cwd.location <+: ·) s.bench.disk
    (Stage.sessionAfter (pipeline.watched.archive .windows) s.watched).bench.memory.seen
    (Stage.sessionAfter (pipeline.watched.archive .windows) s.watched).bench.disk
  outside : pipeline.job.HasPlainNames →
    (∀ x ∈ (Stage.sessionAfter (pipeline.watched.archive .windows) s.watched).bench.memory.seen,
      AgreeOff (s.workspace.cwd.location <+: ·) x.after x.before) →
    AgreeOff (s.workspace.cwd.location <+: ·)
      (Stage.sessionAfter (pipeline.watched.archive .windows) s.watched).bench.disk s.bench.disk

/-- **A release lands in the root exactly if its names are plain.** Whatever the version and the
configuration are, a run that makes a release acts below the current folder and at the two paths
that it publishes. These are entries of the current folder exactly if there is no slash in the
version and the configuration, and then nothing outside is changed but by the tools. -/
theorem archive_reachesByName (pipeline : Pipeline σ) (s : Session σ)
    (hcwd : s.workspace.cwd.isAbsolute = true) (hlegal : s.bench.disk.Legal)
    (hrunner : pipeline.runner.KeepsLegal) : pipeline.ReachesByName s := by
  have hpublished : ∀ release t, pipeline.watched.archive .windows s.watched = .ok release t →
      PublishedAt pipeline.job s.workspace.cwd (.done release) := by
    intro release t hrun
    have hruns : Stage.Runs s.workspace _ (pipeline.watched.archive .windows) _ fun _ => Seeing _ :=
      archive_course (I := fun p => PublishedAt pipeline.job s.workspace.cwd p.phase)
        (E := fun _ _ _ => True) hrunner (fun _ _ h _ hstep => h.step hstep)
        (fun _ _ _ _ _ _ _ => trivial) hcwd rfl
    exact (hruns.meets rfl ⟨trivial, hlegal⟩ hrun).1
  have hacts : ActsWithin (pipeline.job.Reach s.workspace.cwd) s.bench.disk
      (Stage.sessionAfter (pipeline.watched.archive .windows) s.watched).bench.memory.seen
      (Stage.sessionAfter (pipeline.watched.archive .windows) s.watched).bench.disk :=
    archive_course_after (I := fun p =>
        ActsWithin (pipeline.job.Reach s.workspace.cwd) s.bench.disk p.seen p.disk)
      (R := fun d seen => ActsWithin (pipeline.job.Reach s.workspace.cwd) s.bench.disk seen d)
      s hcwd hlegal hrunner (.quiet (.refl _)) (fun _ _ h _ hstep => h.step hstep)
      (fun _ _ _ _ h _ hstop => h.stop hstop) fun _ _ _ h => h
  constructor
  case build_folder => exact ⟨_, pipeline.job.isName_buildFolder, rfl⟩
  case application =>
    intro release t hrun
    rw [(hpublished release t hrun).1]
    exact ⟨pipeline.job.applicationPath_eq _, Job.isEntryOf_application_iff⟩
  case symbols =>
    intro release t hrun
    obtain ⟨-, symbols, hsymbols, hpath⟩ := hpublished release t hrun
    refine ⟨symbols, hsymbols, ?_⟩
    rw [hpath]
    exact ⟨pipeline.job.symbolsPath_eq _, Job.isEntryOf_symbols_iff⟩
  case acts => exact hacts
  case acts_below => exact fun hplain => hacts.weaken fun _ hl => hl.below hplain
  case outside => exact fun hplain htools => (hacts.weaken fun _ hl => hl.below hplain).agree htools

end Pipeline

/-! ### A version that leads out of the root -/

namespace PlainTools

/-- Variables with a version that is a way out of the project. -/
def escaping : String → Option String
  | "APPVEYOR_JOB_NAME" => some "windows"
  | "APPVEYOR_BUILD_VERSION" => some "1/../../keep"
  | _ => none

/-- A pipeline with plain tools and a job from some variables. -/
def pipelineOf (lookup : String → Option String) : Pipeline Unit :=
  match Job.ofVariables lookup with
  | .ok job => { pipeline none with job }
  | .error _ => pipeline none

/-- The project with a folder that the version names, and a file beside the project. -/
def guardedDisk : Node :=
  (disk.put ["project", "exotracker-v1"] (.folder [])).put ["keep-dev.7z"]
    (.file { content := [9] })

end PlainTools

namespace Pipeline

open PlainTools ReleasePipeline.Path

theorem archive_reachesByName_of_plain_tools :
    session.workspace.cwd.isAbsolute = true ∧ session.bench.disk.Legal ∧
      (PlainTools.pipeline none).runner.KeepsLegal ∧
      Stage.succeeds ((PlainTools.pipeline none).watched.archive .windows) session.watched = true ∧
      (PlainTools.pipeline none).ReachesByName session :=
  ⟨by decide, disk_legal, (runner_confined none).legal, by decide +kernel,
    archive_reachesByName (PlainTools.pipeline none) session (by decide) disk_legal
      (runner_confined none).legal⟩

/-- A release that is published beside the project, in place of a file that was there. That file was
still there when the deployment tool was done, and was gone when the compressing tool was called. -/
theorem archive_escapes_root :
    let run := (pipelineOf escaping).watched.archive .windows
    let s := sessionIn "/project" guardedDisk
    let after := (Stage.sessionAfter run s.watched).bench
    (∃ job, Job.ofVariables escaping = .ok job ∧ (pipelineOf escaping).job = job) ∧
      ¬IsEntryOf ⟨"/project"⟩ ⟨"/project/exotracker-v1/../../keep-dev.7z"⟩ ∧
      (match run s.watched with
        | .ok release _ => some release.application.path
        | .error _ _ => none) = some ⟨"/project/exotracker-v1/../../keep-dev.7z"⟩ ∧
      (⟨"/project/exotracker-v1/../../keep-dev.7z"⟩ : Path).location = [.text "keep-dev.7z"] ∧
      s.bench.disk.entryAt? ["keep-dev.7z"] = some (.file { content := [9] }) ∧
      after.disk.entryAt? ["keep-dev.7z"] ≠ some (.file { content := [9] }) ∧
      after.memory.seen.map (fun x => (x.call.program, x.before.entryAt? ["keep-dev.7z"] == none)) =
        [("windeployqt.exe", false), ("7z", true), ("7z", false)] := by
  have hplain : ¬(pipelineOf escaping).job.HasPlainNames := fun h => h.version (by decide)
  refine ⟨⟨_, rfl, rfl⟩, fun hentry => hplain (Job.isEntryOf_application_iff.mp hentry), ?_⟩
  decide +kernel

end Pipeline

end ReleasePipeline
