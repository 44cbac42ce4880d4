import ReleasePipeline.Proofs.Release.Abreast
import ReleasePipeline.Proofs.Release.PlainTools
import ReleasePipeline.Proofs.Release.Provenance

/-!
# ReleasePipeline.Proofs.Release.Indifference

A release does not depend on what earlier runs of its job left, under any policy and whether it
succeeds or fails. Two disks that are the same but for such leftovers (`SameButLeftovers`) lead to
the same calls and to the same ending, and what is published is the same.

The way to the current folder is the one thing that leftovers can be part of. A folder named
`archive-root/..` is there only as long as there is a staging folder, so a run from it does find out
whether an earlier run left one.
-/

namespace ReleasePipeline

open Disk Node

/-- Two disks that differ at most in what earlier runs of a job may have left: a staging folder with
anything in it, and files under the names that the job publishes under. -/
structure SameButLeftovers (job : Job) (cwd : Path) (d e : Node) : Prop where
  agree : AgreeOff (fun l => Job.stagingAt cwd <+: l ∨ job.MayPublish cwd l) d e
  staging : ∀ f, d.entryAt? (Job.stagingAt cwd) ≠ some (.file f) ∧
    e.entryAt? (Job.stagingAt cwd) ≠ some (.file f)
  published : ∀ l, job.MayPublish cwd l →
    d.entryAt? l ≠ some .folder ∧ e.entryAt? l ≠ some .folder

/-- Two disks with the same release on them, which differ at most where nothing of it is. -/
structure SameRelease (job : Job) (cwd : Path) (release : Release) (d e : Node) : Prop where
  staging : ∀ below, d.entryAt? (Job.stagingAt cwd ++ below) =
    e.entryAt? (Job.stagingAt cwd ++ below)
  application : d.entryAt? release.application.path.location =
    e.entryAt? release.application.path.location
  symbols : ∀ symbols, release.symbols = some symbols →
    d.entryAt? symbols.path.location = e.entryAt? symbols.path.location
  elsewhere : AgreeOff (fun l => job.MayPublish cwd l ∧ ¬job.Publishes cwd l) d e

variable {job : Job} {cwd : Path} {d e : Node}

theorem SameButLeftovers.comparable (h : SameButLeftovers job cwd d e) (hlegal : d.Legal)
    (hroad : job.RoadClear cwd) : Comparable job cwd (job.MayPublish cwd) d e where
  legal := hlegal
  agree := h.agree
  beside _ hl := hl.beside job
  road l hl := by
    by_cases hpublished : job.MayPublish cwd l
    · obtain ⟨hd, he⟩ := h.published l hpublished
      exact iff_of_false hd he
    · rw [h.agree l]
      rintro (hbelow | hleft)
      · exact hroad.staging l hl hbelow
      · exact hpublished hleft
  published l hl := iff_of_false (h.published l hl.mayPublish).1 (h.published l hl.mayPublish).2
  file := iff_of_false (fun ⟨f, hf⟩ => (h.staging f).1 hf) fun ⟨f, hf⟩ => (h.staging f).2 hf

theorem Abreast.sameRelease {start : Node} {seen : List Sighting} {release : Release}
    (hplain : job.HasPlainNames)
    (h : Abreast job cwd (fun l => job.MayPublish cwd l ∧ ¬job.Publishes cwd l) d e)
    (hfresh : FreshRelease job cwd start seen d release) : SameRelease job cwd release d e := by
  have hpublished : ∀ l, job.Publishes cwd l → d.entryAt? l = e.entryAt? l :=
    fun l hl => h.agree l fun hloose => hloose.2 hl
  refine ⟨fun below => h.staging_eq (List.prefix_append _ _), ?_, ?_, h.agree⟩
  · rw [hfresh.application.path_eq, Job.location_application cwd hplain]
    exact hpublished _ (.inl rfl)
  · intro symbols hsymbols
    rw [(hfresh.symbols_isOn hsymbols).1, Job.location_symbols cwd hplain]
    exact hpublished _ (.inr rfl)

namespace Pipeline

open Stage

/-- **A release does not depend on leftovers.** From two disks that are the same but for what
earlier runs of the job left, the same calls are made, and the outcome is the same release or the
same failure. If it is a release, then the staging folder and what is published are the same. -/
theorem archive_ignoresLeftovers (pipeline : Pipeline σ) (s t : Session σ)
    (hplain : pipeline.job.HasPlainNames) (hcwd : s.workspace.cwd.isAbsolute = true)
    (hroad : pipeline.job.RoadClear s.workspace.cwd) (hworkspace : t.workspace = s.workspace)
    (hlegal : s.bench.disk.Legal) (hrunner : pipeline.runner.Contained)
    (hkeeps : pipeline.runner.KeepsFolder) (hdet : pipeline.runner.Deterministic)
    (hsame : SameButLeftovers pipeline.job s.workspace.cwd s.bench.disk t.bench.disk) :
    EndAlike (fun release release' s' t' => release = release' ∧
        s'.bench.memory.calls = t'.bench.memory.calls ∧
        SameRelease pipeline.job s.workspace.cwd release s'.bench.disk t'.bench.disk)
      (fun s' t' => s'.bench.memory.calls = t'.bench.memory.calls)
      (pipeline.watched.archive .windows s.watched)
      (pipeline.watched.archive .windows t.watched) := by
  have hmatches : Matches s.workspace
      (InStep (Comparable pipeline.job s.workspace.cwd (pipeline.job.MayPublish s.workspace.cwd)))
      (pipeline.watched.archive .windows) (pipeline.watched.archive .windows) _ _ :=
    archive_abreast hrunner hdet hplain hcwd hkeeps hroad rfl
  have hproven : Runs s.workspace _ (pipeline.watched.archive .windows) _ _ :=
    archive_proven hplain hcwd hlegal hrunner.legal fun _ => hrunner.packs_symbols hplain hcwd
  have hends := hmatches.ending s.watched t.watched ⟨rfl, hworkspace⟩
    ⟨hsame.comparable hlegal hroad, rfl⟩
  have hs : s.watched.Meets fun d m => d = s.bench.disk ∧ m.seen = [] := ⟨rfl, rfl⟩
  cases hrun : pipeline.watched.archive .windows s.watched with
  | ok release s' =>
      rw [hrun] at hends
      have hfresh := hproven.meets rfl hs hrun
      generalize pipeline.watched.archive .windows t.watched = r at hends ⊢
      cases hends with
      | ok h =>
          obtain ⟨-, ⟨rfl, habreast⟩, hcalls⟩ := h
          exact .ok ⟨rfl, hcalls, habreast.sameRelease hplain hfresh.2⟩
  | error failure s' =>
      rw [hrun] at hends
      generalize pipeline.watched.archive .windows t.watched = r at hends ⊢
      cases hends with
      | error h => exact .error h.2.2

/-! ### Leftovers in a small project -/

/-- A staging folder with a library that is not shipped any more. -/
def withStaging : Node :=
  PlainTools.disk.put ["project", "archive-root"]
    (.folder [("Qt4Core.dll", .file { content := [7] })])

/-- With an old archive, too. -/
def withLeftovers : Node :=
  withStaging.put ["project", "exotracker-v1.0-dev.7z"] (.file { content := [9] })

theorem sameButLeftovers_withLeftovers :
    SameButLeftovers (PlainTools.moving none).job ⟨"/project"⟩ PlainTools.disk withLeftovers where
  agree l hl := by
    have hstaged : AgreeOff ((["project", "archive-root"] : Location) <+: ·) withStaging
        PlainTools.disk := .put _ _ _
    have hpublished : AgreeOff (· = ([.text "project"] : Location) ++ [.text "exotracker-v1.0-dev.7z"])
        withLeftovers withStaging := .put_file _ (by decide) (by decide)
    rw [hpublished l fun heq => hl (.inr ⟨_, List.mem_cons_self, heq.trans (by decide)⟩)]
    exact (hstaged l fun hbelow => hl (.inl hbelow)).symm
  staging f := by
    have hnone : PlainTools.disk.entryAt? (Job.stagingAt ⟨"/project"⟩) = none := by decide
    have hfolder : withLeftovers.entryAt? (Job.stagingAt ⟨"/project"⟩) = some .folder := by decide
    rw [hnone, hfolder]
    exact ⟨nofun, nofun⟩
  published l hl := by
    have hnames : ∀ name ∈ (PlainTools.moving none).job.publishedNames,
        PlainTools.disk.entryAt? ["project", name] ≠ some .folder ∧
          withLeftovers.entryAt? ["project", name] ≠ some .folder := by decide
    obtain ⟨name, hname, rfl⟩ := hl
    exact hnames name hname

/-- The small project with leftovers. -/
def littered : Session Unit :=
  ⟨⟨⟨"/project"⟩, ⟨"/project"⟩⟩, ⟨withLeftovers, [], ()⟩⟩

/-- A release that moves the executable, with and without leftovers. -/
theorem archive_ignoresLeftovers_of_plain_tools :
    succeeds ((PlainTools.moving none).watched.archive .windows) PlainTools.session.watched = true ∧
      EndAlike (fun release release' s' t' => release = release' ∧
          s'.bench.memory.calls = t'.bench.memory.calls ∧
          SameRelease (PlainTools.moving none).job ⟨"/project"⟩ release s'.bench.disk t'.bench.disk)
        (fun s' t' => s'.bench.memory.calls = t'.bench.memory.calls)
        ((PlainTools.moving none).watched.archive .windows PlainTools.session.watched)
        ((PlainTools.moving none).watched.archive .windows littered.watched) := by
  have hconfined := PlainTools.runner_confined none
  exact ⟨by decide +kernel, archive_ignoresLeftovers (PlainTools.moving none) PlainTools.session
    littered ⟨by decide, by decide⟩ (by decide) ⟨by decide, by decide⟩ rfl PlainTools.disk_legal
    hconfined.contained hconfined.keepsFolder (PlainTools.runner_deterministic none)
    sameButLeftovers_withLeftovers⟩

/-! ### Leftovers on the way -/

/-- A release that moves the executable, with a compressing tool that updates archives but does not
make new ones. -/
def updating : Pipeline Unit where
  job :=
    { PlainTools.job with name := "w", configuration := "R", policy := ⟨.move, .keepSvg, .rename⟩ }
  host := ⟨⟨"/"⟩, none, .byName⟩
  searchPath := none
  runner := fun call bench =>
    match call.args[2]? with
    | some (archive : String) =>
      if call.program = "7z" ∧ bench.disk.entryAt? (call.folder / archive).location = none then
        .error (.toolFailed call.program (some 1)) bench
      else .ok () bench
    | none => .ok () bench

/-- A build folder with a folder in the place of the executable. -/
def buildOnly : Node :=
  .folder [("build-w-R", .folder [("exotracker-qt.exe", .folder [])])]

/-- Leftovers do show where the current folder is reached by way of the staging folder, since then
there is no current folder without it. They show as well where it is reached by way of an executable
that is moved: then an old archive is not removed, and the compressing tool finds it. -/
theorem archive_seesLeftovers :
    failure? ((PlainTools.pipeline none).archive .windows)
        (PlainTools.sessionIn "/project/archive-root/.." PlainTools.disk) ≠
      failure? ((PlainTools.pipeline none).archive .windows)
        (PlainTools.sessionIn "/project/archive-root/.." withLeftovers) ∧
    failure? (updating.archive .windows)
        (PlainTools.sessionIn "/build-w-R/exotracker-qt.exe/../.." buildOnly) =
      some (.toolFailed "7z" (some 1)) ∧
    failure? (updating.archive .windows)
        (PlainTools.sessionIn "/build-w-R/exotracker-qt.exe/../.."
          (buildOnly.put [updating.job.applicationName] (.file { content := [9] }))) ≠
      some (.toolFailed "7z" (some 1)) := by
  decide +kernel

end Pipeline

end ReleasePipeline
