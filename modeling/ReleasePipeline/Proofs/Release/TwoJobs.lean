import ReleasePipeline.Proofs.Release.Abreast
import ReleasePipeline.Proofs.Release.Footprint
import ReleasePipeline.Proofs.Release.Provenance

/-!
# ReleasePipeline.Proofs.Release.TwoJobs

Two jobs in one workspace, which may be built in one folder. They have the staging folder in common,
and their releases are told apart by name only.

For a job, the run of another one is an earlier run that left something (`Traces`). What it left in
the staging folder is settled when that folder is made anew, and its published files are loose and
stay so, since they are none of the job's own (`Job.MayPublish.not_touches`). So the job comes to
the same release, or to the same failure, as it does alone. Conversely, a run of the job touches no
file of the other release, and if it succeeds, then the current folder is still reached, so that
what was reported of these files is true at the end.
-/

namespace ReleasePipeline

open Disk Node

/-- A pipeline that copies the executable, with tools that keep to what their calls are about. -/
structure Pipeline.Orderly (pipeline : Pipeline σ) : Prop where
  plain : pipeline.job.HasPlainNames
  copies : pipeline.job.policy.executable = .copy
  contained : pipeline.runner.Contained
  keepsFolder : pipeline.runner.KeepsFolder
  deterministic : pipeline.runner.Deterministic

/-- A run of one pipeline and then one of another do not get in each other's way: the second run
ends as it does alone, and if both make a release, then all that is reported of either is there. -/
structure Undisturbed (first second : Pipeline σ) (s : Session σ) : Prop where
  ends : EndAlike (fun release release' _ _ => release = release') (fun _ _ => True)
    (second.archive .windows s)
    (second.archive .windows (Stage.sessionAfter (first.archive .windows) s))
  remain : ∀ release release' t t', first.archive .windows s = .ok release t →
    second.archive .windows s = .ok release' t' →
      ∃ u, second.archive .windows t = .ok release' u ∧
        release.IsOn u.bench.disk ∧ release'.IsOn u.bench.disk

/-- A release of a job, as it was reported. -/
structure Published (job : Job) (cwd : Path) (release : Release) (d : Node) : Prop where
  application : release.application.path = cwd / job.applicationName
  symbols : ∀ symbols, release.symbols = some symbols → symbols.path = cwd / job.symbolsName
  isOn : release.IsOn d

variable {job other : Job} {cwd : Path} {tidy : Prop} {start d e : Node} {release : Release}

/-- For another job, what a run left is some files that are none of its own. -/
theorem Traces.comparable (h : Traces job cwd tidy start d)
    (hnames : job.archiveName ≠ other.archiveName) (hlegal : start.Legal)
    (hroad : ∀ l ∈ cwd.road, ¬Job.stagingAt cwd <+: l) :
    Comparable other cwd (job.Publishes cwd) start d where
  legal := hlegal
  agree l hl := (h.agree l hl).symm
  beside _ hl := hl.mayPublish.beside other
  road l hl := (h.road l hl (hroad l hl)).symm
  published l hl := by
    rw [h.agree l (hl.mayPublish.not_touches hnames.symm)]
  file := h.file.symm

namespace Published

theorem reaches (hplain : job.HasPlainNames) (h : Published job cwd release d) : Reaches d cwd := by
  obtain ⟨f, hfile, -⟩ := h.isOn.1
  rw [h.application] at hfile
  exact .of_locate (Job.isName_applicationName hplain) hfile.locate

/-- A release stays as it is when another one is made. -/
theorem keep (hplain : job.HasPlainNames) (h : Published job cwd release d)
    (hnames : job.archiveName ≠ other.archiveName) (hagree : AgreeOff (other.Touches cwd) e d)
    (hreaches : Reaches e cwd) : Published job cwd release e := by
  obtain ⟨hpath, hpath', hon, hon'⟩ := h
  have hkeep : ∀ (artifact : Artifact) (name : String), name ∈ job.publishedNames →
      artifact.path = cwd / name → artifact.IsOn d → artifact.IsOn e := by
    intro artifact name hname heq hartifact
    obtain ⟨f, hfile, hdigest⟩ := hartifact
    rw [heq] at hfile
    have hmay : job.MayPublish cwd (cwd.location ++ [.text name]) := ⟨name, hname, rfl⟩
    have hkept := hfile.keep (Job.isName_of_mem_publishedNames hplain hname) hreaches
      (hagree _ (hmay.not_touches hnames))
    exact ⟨f, heq ▸ hkept, hdigest⟩
  refine ⟨hpath, hpath', hkeep _ _ job.applicationName_mem_publishedNames hpath hon, ?_⟩
  intro symbols hsymbols
  exact hkeep _ _ job.symbolsName_mem_publishedNames (hpath' _ hsymbols) (hon' _ hsymbols)

end Published

namespace Pipeline

open Stage

variable {pipeline first second : Pipeline σ} {w : Workspace}

/-- What is published can be found where it was reported. -/
theorem archive_published (hplain : pipeline.job.HasPlainNames)
    (hrunner : pipeline.runner.Contained) (hcwd : w.cwd.isAbsolute = true) (hlegal : start.Legal) :
    Runs w (fun d _ => d = start) (pipeline.archive .windows)
      (fun release d _ => Published pipeline.job w.cwd release d) fun _ _ _ => True := by
  refine archive_erases.runs ((archive_proven hplain hcwd hlegal hrunner.legal
    fun _ => hrunner.packs_symbols hplain hcwd).weaken (fun _ _ h => h) ?_ fun _ _ _ _ => trivial)
  intro release d m h
  have hfresh : FreshRelease pipeline.job w.cwd start m.seen d release := h.2
  exact ⟨hfresh.application.path_eq, fun _ hsymbols => (hfresh.symbols_isOn hsymbols).1,
    hfresh.isOn⟩

section

variable {s t u : Session σ} {release' : Release} (hcwd : s.workspace.cwd.isAbsolute = true)
  (hlegal : s.bench.disk.Legal)

include hcwd hlegal

/-- What a run leaves, wherever it stops. -/
theorem Orderly.traces (h : pipeline.Orderly) :
    (sessionAfter (pipeline.archive .windows) s).workspace = s.workspace ∧
      Traces pipeline.job s.workspace.cwd False s.bench.disk
        (sessionAfter (pipeline.archive .windows) s).bench.disk := by
  have hruns : Runs s.workspace (fun d _ => d = s.bench.disk) (pipeline.archive .windows) _ _ :=
    archive_traces h.contained h.keepsFolder False.elim h.plain h.copies hcwd rfl hlegal
  exact (hruns.weaken (fun _ _ h => h) (fun _ _ _ h => h.1.traces) fun _ _ _ h => h).sessionAfter s
    rfl rfl

/-- What a run that makes a release leaves. -/
theorem Orderly.released (h : pipeline.Orderly)
    (hrun : pipeline.archive .windows s = .ok release t) :
    t.workspace = s.workspace ∧ t.bench.disk.Legal ∧
      AgreeOff (pipeline.job.Touches s.workspace.cwd) t.bench.disk s.bench.disk ∧
        Published pipeline.job s.workspace.cwd release t.bench.disk := by
  have hruns : Runs s.workspace (fun d _ => d = s.bench.disk) (pipeline.archive .windows) _ _ :=
    archive_traces h.contained h.keepsFolder False.elim h.plain h.copies hcwd rfl hlegal
  have hpublished : Runs s.workspace _ (pipeline.archive .windows) _ _ :=
    archive_published h.plain h.contained hcwd hlegal
  obtain ⟨hworkspace, htraces⟩ := h.traces hcwd hlegal
  have hafter : sessionAfter (pipeline.archive .windows) s = t := by
    rw [sessionAfter, hrun]
  rw [hafter] at hworkspace htraces
  exact ⟨hworkspace, (hruns.meets rfl rfl hrun).2, htraces.agree, hpublished.meets rfl rfl hrun⟩

variable (hfirst : first.Orderly) (hsecond : second.Orderly)
  (hnames : first.job.archiveName ≠ second.job.archiveName)

include hfirst hsecond hnames

/-- After two runs that make a release, both releases are there. -/
theorem releases_remain (hrun : first.archive .windows s = .ok release t)
    (hagain : second.archive .windows t = .ok release' u) :
    release.IsOn u.bench.disk ∧ release'.IsOn u.bench.disk := by
  obtain ⟨hworkspace, hlegal, -, hpublished⟩ := hfirst.released hcwd hlegal hrun
  rw [← hworkspace] at hcwd hpublished
  obtain ⟨-, -, hagree, hpublished'⟩ := hsecond.released hcwd hlegal hagain
  have hreaches := hpublished'.reaches hsecond.plain
  exact ⟨(hpublished.keep hfirst.plain hnames hagree hreaches).isOn, hpublished'.isOn⟩

/-- A run is not disturbed by an earlier run of another job. -/
theorem undisturbed
    (hroad : ∀ l ∈ s.workspace.cwd.road, ¬Job.stagingAt s.workspace.cwd <+: l) :
    Undisturbed first second s := by
  have hclear : second.job.RoadClear s.workspace.cwd :=
    ⟨hroad, fun hmove => absurd (hsecond.copies.symm.trans hmove) nofun⟩
  have habreast : Matches s.workspace
      (InStep (Comparable second.job s.workspace.cwd (first.job.Publishes s.workspace.cwd)))
      (second.watched.archive .windows) (second.watched.archive .windows) _ _ :=
    archive_abreast hsecond.contained hsecond.deterministic hsecond.plain hcwd hsecond.keepsFolder
      hclear rfl
  have hmatches := habreast.unwatch archive_erases archive_erases
  obtain ⟨hworkspace, htraces⟩ := hfirst.traces hcwd hlegal
  have hcomparable := htraces.comparable hnames hlegal hroad
  constructor
  · exact (hmatches.ending s _ ⟨rfl, hworkspace⟩ hcomparable).weaken (fun _ _ _ _ h => h.2.1)
      fun _ _ _ => trivial
  · intro release release' t t' hrun hrun'
    have hafter : sessionAfter (first.archive .windows) s = t := by
      rw [sessionAfter, hrun]
    obtain ⟨_, u, hagain, rfl, -⟩ := hmatches.meetWith ⟨rfl, hworkspace⟩ hcomparable hrun'
    rw [hafter] at hagain
    exact ⟨u, hagain, releases_remain hcwd hlegal hfirst hsecond hnames hrun hagain⟩

end

/-- **Making two releases in one workspace commutes.** In either order, each job comes to the same
release or the same failure as it does alone, whatever becomes of the other one. If both can be
made, then after both runs, in either order, all that was reported of them is there. -/
theorem archive_commutes (first second : Pipeline σ) (s : Session σ) (hfirst : first.Orderly)
    (hsecond : second.Orderly) (hnames : first.job.archiveName ≠ second.job.archiveName)
    (hcwd : s.workspace.cwd.isAbsolute = true) (hlegal : s.bench.disk.Legal)
    (hroad : ∀ l ∈ s.workspace.cwd.road, ¬Job.stagingAt s.workspace.cwd <+: l) :
    Undisturbed first second s ∧ Undisturbed second first s :=
  ⟨undisturbed hcwd hlegal hfirst hsecond hnames hroad,
    undisturbed hcwd hlegal hsecond hfirst hnames.symm hroad⟩

/-! ### Two versions of a small project -/

/-- A later version, which is built in the same folder. -/
def laterVersion : Pipeline Unit :=
  { PlainTools.pipeline none with job := { PlainTools.job with version := "1.1" } }

theorem orderly_plain_tools (failing : Option String) : (PlainTools.pipeline failing).Orderly where
  plain := PlainTools.job_hasPlainNames
  copies := rfl
  contained := (PlainTools.runner_confined failing).contained
  keepsFolder := (PlainTools.runner_confined failing).keepsFolder
  deterministic := PlainTools.runner_deterministic failing

theorem orderly_laterVersion : laterVersion.Orderly where
  plain := ⟨by decide, by decide⟩
  copies := rfl
  contained := (PlainTools.runner_confined none).contained
  keepsFolder := (PlainTools.runner_confined none).keepsFolder
  deterministic := PlainTools.runner_deterministic none

/-- Two versions that are built in one folder, with tools that succeed. -/
theorem archive_commutes_of_versions :
    (succeeds ((PlainTools.pipeline none).archive .windows) PlainTools.session = true ∧
        succeeds (laterVersion.archive .windows) PlainTools.session = true) ∧
      Undisturbed (PlainTools.pipeline none) laterVersion PlainTools.session ∧
      Undisturbed laterVersion (PlainTools.pipeline none) PlainTools.session :=
  ⟨by decide +kernel, archive_commutes (PlainTools.pipeline none) laterVersion PlainTools.session
    (orderly_plain_tools none) orderly_laterVersion (by decide) (by decide) PlainTools.disk_legal
    (by decide)⟩

/-- A session whose current folder is reached by way of the staging folder. -/
def throughStaging : Session Unit :=
  PlainTools.sessionIn "/project/archive-root/.."
    (PlainTools.disk.put ["project", "archive-root"] (.folder []))

/-- Where the current folder is reached by way of the staging folder, a run takes it away when it
makes the staging folder anew, and fails. The next run fails otherwise: it finds no build folder. -/
theorem archive_disturbed :
    (PlainTools.pipeline none).job.archiveName ≠ laterVersion.job.archiveName ∧
      ¬Undisturbed (PlainTools.pipeline none) laterVersion throughStaging := by
  refine ⟨by decide, fun h => ?_⟩
  have halone : failure? (laterVersion.archive .windows) throughStaging =
      some (.diskFailed "create" (.text ⟨"/project/archive-root/../archive-root"⟩) .noEntry) := by
    decide +kernel
  have hafter : failure? (laterVersion.archive .windows) (sessionAfter
      ((PlainTools.pipeline none).archive .windows) throughStaging) =
        some (.buildFolderMissing ⟨"/project/archive-root/../build-windows-Release"⟩) := by
    decide +kernel
  have hsame := h.ends.failure?_eq
  rw [halone, hafter] at hsame
  cases hsame

end Pipeline

end ReleasePipeline
