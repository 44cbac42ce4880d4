import ReleasePipeline.Proofs.Release.Course
import ReleasePipeline.Proofs.Release.PlainTools

/-!
# ReleasePipeline.Proofs.Release.Sightings

What the tools get to see while a release is made. The tools may do anything to the disk, so nothing
is known about it after a call but that its names are legal; whatever is said of the disk before the
next call (`Ready`) is the work of the steps in between.
-/

namespace ReleasePipeline

open Disk Node

/-- All calls so far were good ones, and the disk satisfies a condition. -/
def Seen (good : Sighting → Prop) (P : Node → Prop) : Assertion (Watched σ) :=
  fun d m => (∀ x ∈ m.seen, good x) ∧ P d

/-! ### What each tool finds -/

/-- What a tool finds when it is called while a release is made. The deployment tool finds the
executable as it was built and nothing else; the compressing tool finds no plugins that are not
shipped where it packs the application, and it never finds an archive that it could add to. -/
structure FindsOwnWork (job : Job) (cwd : Path) (start : Node) (x : Sighting) : Prop where
  deploy : x.call.program = "windeployqt.exe" →
    x.before.entryAt? (cwd / "archive-root").location = some .folder ∧
    start.entryAt? (cwd / job.buildFolder / "exotracker-qt.exe").location ≠ none ∧
    ∀ name below, x.before.entryAt? ((cwd / "archive-root").location ++ name :: below) =
      if name = .text "exotracker-qt.exe" then
        start.entryAt? ((cwd / job.buildFolder / "exotracker-qt.exe").location ++ below)
      else none
  pack : x.call.program = "7z" → x.call.folder = cwd / "archive-root" →
    Pruned job.policy.imageFormats (cwd / "archive-root" / "imageformats") "qsvg" x.before
  unoccupied : x.call.program = "7z" → ∀ target, x.call.args[2]? = some target →
    ∀ l, locate x.before ⟨target⟩ ≠ .ok l

/-- The disk once the executable is staged. -/
def Staged (job : Job) (cwd : Path) (start d : Node) : Prop :=
  d.entryAt? (cwd / "archive-root").location = some .folder ∧
  start.entryAt? (cwd / job.buildFolder / "exotracker-qt.exe").location ≠ none ∧
  ∀ name below, d.entryAt? ((cwd / "archive-root").location ++ name :: below) =
    if name = .text "exotracker-qt.exe" then
      start.entryAt? ((cwd / job.buildFolder / "exotracker-qt.exe").location ++ below)
    else none

theorem Staged.of_transferred {job : Job} {cwd : Path} {d e : Node}
    {mode : ExecutableTransfer} (hrecreated : Recreated (cwd / "archive-root") start d)
    (h : Transferred (cwd / job.buildFolder / "exotracker-qt.exe")
      (cwd / "archive-root" / "exotracker-qt.exe") mode d e) : Staged job cwd start e := by
  have hstaging : (cwd / "archive-root").location = cwd.location ++ [.text "archive-root"] :=
    Job.location_staging cwd
  have hbuilt : (cwd / job.buildFolder / "exotracker-qt.exe").location =
      cwd.location ++ [.text job.buildFolder, .text "exotracker-qt.exe"] := Job.location_built job cwd
  have htarget : (cwd / "archive-root" / "exotracker-qt.exe").location =
      cwd.location ++ [.text "archive-root", .text "exotracker-qt.exe"] := Job.location_staged cwd
  obtain ⟨hthere, harrived, -, hagree, -⟩ := h
  obtain ⟨hmade, hempty, hkept, -, -, -⟩ := hrecreated
  have hapart := job.buildFolder_ne_staging
  -- Making the staging folder anew has not touched the build folder.
  have hsource : ∀ below, d.entryAt? (cwd.location ++ .text job.buildFolder :: below) =
      start.entryAt? (cwd.location ++ .text job.buildFolder :: below) := fun below => by
    refine hkept _ ?_
    rw [hstaging]
    exact not_prefix_of_text_ne hapart.symm
  rw [hbuilt, htarget] at harrived hagree
  rw [hbuilt] at hthere
  rw [hstaging] at hmade hempty
  rw [Staged, hstaging, hbuilt]
  refine ⟨?_, ?_, ?_⟩
  · rw [hagree _ fun h => ?_]
    · exact hmade
    rcases h with h | ⟨-, h⟩
    · simpa using h.length_le
    · exact not_prefix_of_text_ne hapart h
  · rw [← hsource]
    exact hthere
  · intro name below
    rw [List.append_assoc, List.singleton_append]
    split
    · rename_i hname
      subst hname
      have hmoved := harrived (fun h => hapart (by simpa using h)) below
      simp only [List.append_assoc, List.cons_append, List.nil_append] at hmoved ⊢
      rw [hmoved]
      exact hsource _
    · rename_i hname
      rw [hagree _ fun h => ?_]
      · simpa using hempty name below
      rcases h with h | ⟨-, h⟩
      · rw [List.prefix_append_right_inj, List.cons_prefix_cons, List.cons_prefix_cons] at h
        exact hname h.2.1.symm
      · exact not_prefix_of_text_ne hapart h

/-! ### Along a run -/

/-- How the disk is made ready for the next call, depending on the phase of the run. -/
def Ready (job : Job) (cwd : Path) (start d : Node) : Phase → Prop
  | .start => d = start
  | .made => Recreated (cwd / "archive-root") start d
  | .staged => Staged job cwd start d
  | .pruned => Pruned job.policy.imageFormats (cwd / "archive-root" / "imageformats") "qsvg" d
  | .cleared =>
      Pruned job.policy.imageFormats (cwd / "archive-root" / "imageformats") "qsvg" d ∧
        ∀ l, locate d (job.applicationPath cwd) ≠ .ok l
  | .symbolsCleared _ => ∀ l, locate d (job.symbolsPath cwd) ≠ .ok l
  | _ => True

/-- All calls so far found the pipeline's own work, and the disk is ready for the next. -/
def InSight (job : Job) (cwd : Path) (start : Node) (p : Point) : Prop :=
  (∀ x ∈ p.seen, FindsOwnWork job cwd start x) ∧ Ready job cwd start p.disk p.phase

section

variable {runner : Runner σ} {job : Job} {cwd : Path} {start d : Node} {p q : Point} {x : Sighting}
  {failure : Failure} {seen : List Sighting}

/-- A call that is made when the disk is ready finds the pipeline's own work. -/
theorem Calls.finds (hready : Ready job cwd start p.disk p.phase)
    (h : Calls runner job cwd p x) : FindsOwnWork job cwd start x := by
  have hprograms : "windeployqt.exe" ≠ "7z" := by decide
  obtain ⟨⟨c, hcall, hmade, -⟩, hbefore⟩ := h
  obtain ⟨phase, disk, seen⟩ := p
  obtain ⟨call, before, after, failure⟩ := x
  obtain rfl : call = c := hmade
  obtain rfl : before = disk := hbefore
  cases phase with
  | staged =>
      obtain rfl := Option.some.inj hcall
      exact ⟨fun _ => hready, fun hprogram => absurd hprogram hprograms,
        fun hprogram => absurd hprogram hprograms⟩
  | cleared =>
      obtain rfl := Option.some.inj hcall
      obtain ⟨hpruned, habsent⟩ := hready
      refine ⟨fun hprogram => absurd hprogram hprograms.symm, fun _ _ => hpruned, ?_⟩
      intro _ target htarget
      obtain rfl := Option.some.inj htarget
      exact habsent
  | symbolsCleared =>
      obtain rfl := Option.some.inj hcall
      refine ⟨fun hprogram => absurd hprogram hprograms.symm, ?_, ?_⟩
      · intro _ hfolder
        -- The symbols are packed in the current folder, which is not the staging folder in it.
        exact absurd hfolder.symm (Path.join_name_ne (by decide))
      · intro _ target htarget
        obtain rfl := Option.some.inj htarget
        exact hready
  | _ => cases hcall

theorem InSight.call (h : InSight job cwd start p) (hcalls : Calls runner job cwd p x) :
    ∀ y ∈ p.seen ++ [x], FindsOwnWork job cwd start y :=
  List.forall_mem_append.mpr ⟨h.1, List.forall_mem_singleton.mpr (hcalls.finds h.2)⟩

theorem InSight.step (h : InSight job cwd start p) (hstep : Step runner job cwd p q) :
    InSight job cwd start q := by
  cases hstep with
  | recreate _ hrecreated =>
      obtain ⟨hseen, rfl⟩ := h
      exact ⟨hseen, hrecreated⟩
  | transfer htransferred => exact ⟨h.1, .of_transferred h.2 htransferred⟩
  | deploy hmade _ | pack hmade _ | packSymbols _ hmade _ =>
      exact ⟨h.call ⟨⟨_, rfl, hmade⟩, rfl⟩, trivial⟩
  | prune _ hpruned => exact ⟨h.1, hpruned⟩
  | clear hremoved =>
      obtain ⟨hseen, hpruned⟩ := h
      exact ⟨hseen, Pruned.of_sheds hpruned hremoved.sheds, hremoved.absent⟩
  | clearSymbols _ hremoved => exact ⟨h.1, hremoved.absent⟩
  | publish | copySymbols | publishSymbols => exact ⟨h.1, trivial⟩

theorem InSight.stop (h : InSight job cwd start p) (hstop : Stop runner job cwd p failure d seen) :
    ∀ x ∈ seen, FindsOwnWork job cwd start x := by
  cases hstop with
  | deploy hmade _ | pack hmade _ | packSymbols hmade _ => exact h.call ⟨⟨_, rfl, hmade⟩, rfl⟩
  | _ => exact h.1

end

namespace Pipeline

open Stage

variable {pipeline : Pipeline σ} {w : Workspace} {start : Node}

theorem archive_finds (hcwd : w.cwd.isAbsolute = true) (hlegal : start.Legal)
    (hrunner : pipeline.runner.KeepsLegal) :
    Runs w (Seen (FindsOwnWork pipeline.job w.cwd start) (· = start))
      (pipeline.watched.archive .windows)
      (fun _ => Seen (FindsOwnWork pipeline.job w.cwd start) fun _ => True)
      fun _ => Seen (FindsOwnWork pipeline.job w.cwd start) fun _ => True := by
  refine (archive_course (I := InSight pipeline.job w.cwd start)
    (E := fun _ _ seen => ∀ x ∈ seen, FindsOwnWork pipeline.job w.cwd start x) hrunner
    (fun p q h _ => h.step) (fun p failure d seen h _ => h.stop) hcwd rfl).weaken ?_
      (fun _ d m h => ⟨h.1.1, trivial⟩) fun _ d m h => ⟨h, trivial⟩
  intro d m h
  obtain ⟨hseen, rfl⟩ := h
  exact ⟨⟨hseen, rfl⟩, hlegal⟩

/-- **The tools find what the pipeline made.** Whatever was on the disk before, whatever the tools do
and wherever the run stops, each call that is made while a release is made finds the pipeline's own
work and no leftovers. -/
theorem archive_findsOwnWork (pipeline : Pipeline σ) (s : Session σ)
    (hcwd : s.workspace.cwd.isAbsolute = true) (hlegal : s.bench.disk.Legal)
    (hrunner : pipeline.runner.KeepsLegal) :
    ∀ x ∈ (sessionAfter (pipeline.watched.archive .windows) s.watched).bench.memory.seen,
      FindsOwnWork pipeline.job s.workspace.cwd s.bench.disk x := by
  intro x hx
  have hruns : Runs s.workspace _ (pipeline.watched.archive .windows) _ _ :=
    archive_finds hcwd hlegal hrunner
  obtain ⟨-, hgood, -⟩ := hruns.sessionAfter s.watched rfl ⟨nofun, rfl⟩
  exact hgood x hx

/-- The three calls that make a release of a small project. -/
theorem archive_findsOwnWork_of_plain_tools :
    (sessionAfter ((PlainTools.pipeline none).watched.archive .windows)
        PlainTools.session.watched).bench.memory.seen.length = 3 ∧
      ∀ x ∈ (sessionAfter ((PlainTools.pipeline none).watched.archive .windows)
        PlainTools.session.watched).bench.memory.seen,
          FindsOwnWork PlainTools.job ⟨"/project"⟩ PlainTools.disk x :=
  ⟨by decide, archive_findsOwnWork (PlainTools.pipeline none) PlainTools.session (by decide)
    PlainTools.disk_legal (PlainTools.runner_confined none).legal⟩

end Pipeline

end ReleasePipeline
