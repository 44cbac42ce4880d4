import ReleasePipeline.Proofs.Release.Abreast
import ReleasePipeline.Proofs.Release.Footprint
import ReleasePipeline.Proofs.Release.PlainTools

/-!
# ReleasePipeline.Proofs.Release.Rerun

Making a release again gives the same release, whatever an earlier run did and wherever it stopped.

An earlier run leaves the disk as it was but for its footprint (`Leftovers`), so the question is
what a run makes of the footprint of another. What is left in the staging folder is settled when
that folder is made anew, and only the two published files are loose, of which there may be one or
the other, or none. A second run of the same job writes both, so that no location is loose at the
end.
-/

namespace ReleasePipeline

open Disk Node

variable {job : Job} {cwd : Path} {start d : Node}

/-- What an earlier run left is comparable to the disk at the start. -/
theorem Leftovers.comparable (h : Leftovers job cwd start d) (hlegal : start.Legal)
    (hroad : ∀ l ∈ cwd.road, ¬Job.stagingAt cwd <+: l)
    (hfile : ∀ f, start.entryAt? (Job.stagingAt cwd) ≠ some (.file f)) :
    Comparable job cwd (job.Publishes cwd) start d where
  legal := hlegal
  agree l hl := (h.agree l hl).symm
  beside _ hl := hl.mayPublish.beside job
  road l hl := (h.road l hl (hroad l hl)).symm
  published l hl := (h.published trivial l hl).symm
  file := iff_of_false (fun ⟨f, hf⟩ => hfile f hf) fun ⟨f, hf⟩ => h.not_file f hf

namespace Pipeline

open Stage

variable {pipeline : Pipeline σ} {w : Workspace}

/-- A run after an earlier one ends as a first run does. -/
theorem archive_matches (hconfined : pipeline.runner.Confined)
    (hrunner : pipeline.runner.Deterministic) (hjob : pipeline.job = job)
    (hplain : job.HasPlainNames) (hcopy : job.policy.executable = .copy)
    (hcwd : cwd.isAbsolute = true) (hw : w.cwd = cwd) (hlegal : start.Legal)
    (hroad : ∀ l ∈ cwd.road, ¬Job.stagingAt cwd <+: l)
    (hfile : ∀ f, start.entryAt? (Job.stagingAt cwd) ≠ some (.file f)) :
    Matches w (fun d _ e _ => d = start ∧ Leftovers job cwd start e) (pipeline.archive .windows)
      (pipeline.archive .windows) (fun a b d _ e _ => a = b ∧ ∀ l, e.entryAt? l = d.entryAt? l)
      fun _ _ _ _ => True := by
  subst hjob
  have hclear : pipeline.job.RoadClear cwd :=
    ⟨hroad, fun hmove => absurd (hcopy.symm.trans hmove) nofun⟩
  have habreast : Matches w (InStep (Comparable pipeline.job cwd (pipeline.job.Publishes cwd)))
      (pipeline.watched.archive .windows) (pipeline.watched.archive .windows) _ _ :=
    archive_abreast hconfined.contained hrunner hplain hcwd hconfined.keepsFolder hclear hw
  refine (habreast.unwatch archive_erases archive_erases).weaken ?_ ?_ fun _ _ _ _ h => h
  · intro d m e n h
    obtain ⟨rfl, hleft⟩ := h
    exact hleft.comparable hlegal hroad hfile
  · intro a b d m e n h
    exact ⟨h.1, fun l => (h.2.agree l fun hloose => hloose.2 hloose.1).symm⟩

/-- **A release does not depend on what an earlier run left.** Suppose a release can be made from a
disk. Then it can also be made after an earlier run of the same job from that disk, whatever tools
the earlier run had and wherever it stopped: the outcome is the same release, and afterwards the
disk has the same entry at every location. Disks are compared by their entries, since a tree also
has an order of the entries in a folder, which nothing depends on. -/
theorem archive_again (first : Pipeline σ) (second : Pipeline τ) (earlier : Session σ)
    (fresh again after : Session τ) (release : Release) (hjob : first.job = second.job)
    (hplain : second.job.HasPlainNames) (hcopy : second.job.policy.executable = .copy)
    (hfirst : first.runner.Confined) (hconfined : second.runner.Confined)
    (hrunner : second.runner.Deterministic) (hcwd : fresh.workspace.cwd.isAbsolute = true)
    (hlegal : fresh.bench.disk.Legal) (hearlier : earlier.workspace = fresh.workspace)
    (hstart : earlier.bench.disk = fresh.bench.disk) (hagain : again.workspace = fresh.workspace)
    (hleft : again.bench.disk = (sessionAfter (first.archive .windows) earlier).bench.disk)
    (hrun : second.archive .windows fresh = .ok release after) :
    ∃ after', second.archive .windows again = .ok release after' ∧
      ∀ l, after'.bench.disk.entryAt? l = after.bench.disk.entryAt? l := by
  -- That the run on the fresh disk succeeds says that no file was in the way of the staging folder.
  have hkeeps : Runs fresh.workspace (fun d _ => d = fresh.bench.disk) (second.archive .windows)
      _ _ := archive_keeps hconfined rfl hplain hcopy hcwd rfl hlegal
  obtain ⟨⟨hfile, hroad⟩, -⟩ := hkeeps.meets rfl rfl hrun
  have hleftovers : Leftovers second.job fresh.workspace.cwd fresh.bench.disk again.bench.disk := by
    rw [hleft, ← hstart]
    rw [← hstart] at hlegal hfile
    exact archive_leftovers hfirst hjob hplain hcopy hcwd (by rw [hearlier]) hlegal hfile
  have hmatches : Matches fresh.workspace _ (second.archive .windows) (second.archive .windows)
      _ _ := archive_matches hconfined hrunner rfl hplain hcopy hcwd rfl hlegal hroad hfile
  obtain ⟨release', after', hrun', rfl, hsame⟩ :=
    hmatches.meetWith ⟨rfl, hagain⟩ ⟨rfl, hleftovers⟩ hrun
  exact ⟨after', hrun', hsame⟩

/-- An earlier run whose compressing tool fails once the application is packed. -/
theorem archive_again_after_failure :
    ∃ release after, (PlainTools.pipeline none).archive .windows PlainTools.session =
        .ok release after ∧
      ∃ after', (PlainTools.pipeline none).archive .windows (sessionAfter
          ((PlainTools.pipeline (some "7z")).archive .windows) PlainTools.session) =
        .ok release after' ∧ ∀ l, after'.bench.disk.entryAt? l = after.bench.disk.entryAt? l := by
  have hworkspace : (sessionAfter ((PlainTools.pipeline (some "7z")).archive .windows)
      PlainTools.session).workspace = PlainTools.session.workspace := by decide
  have hends : succeeds ((PlainTools.pipeline none).archive .windows) PlainTools.session = true :=
    by decide
  obtain ⟨release, after, hrun⟩ := exists_of_succeeds hends
  exact ⟨release, after, hrun, archive_again (PlainTools.pipeline (some "7z"))
    (PlainTools.pipeline none) PlainTools.session PlainTools.session _ after release rfl
    PlainTools.job_hasPlainNames rfl (PlainTools.runner_confined _)
    (PlainTools.runner_confined _) (PlainTools.runner_deterministic _) (by decide)
    PlainTools.disk_legal rfl rfl hworkspace rfl hrun⟩

end Pipeline

end ReleasePipeline
