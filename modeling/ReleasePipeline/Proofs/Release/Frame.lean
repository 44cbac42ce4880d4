import ReleasePipeline.Proofs.Release.Course
import ReleasePipeline.Proofs.Release.PlainTools

/-!
# ReleasePipeline.Proofs.Release.Frame

What making a release leaves alone, under every policy and wherever the run is cut off.

A run may change the footprint of its job and, if the executable is moved, the place where the
executable was built (`Job.MayChange`); nothing else is touched by a step of the pipeline or by a
tool that is contained. The executable itself is the one file that the pipeline takes away without
making it anew, so it is followed on its way: it is where it was built, or it was moved into the
staging folder, where the deployment tool found it (`MovedOver`).

`KeepsToFootprint` says both of a run under way and is kept by every step. The exception is the way
from staging the executable to deploying, when it may be in the staging folder with no tool having
seen it yet; this is `ExecutableStaged`.
-/

namespace ReleasePipeline

open Disk Node

/-! ### A run under way -/

variable {job : Job} {cwd : Path} {start d e : Node} {seen : List Sighting}

/-- The executable was moved into the staging folder. There the deployment tool found it as it was
built, and there it is still, if that tool left it alone. -/
structure MovedOver (job : Job) (cwd : Path) (f : File) (seen : List Sighting) (d : Node) : Prop where
  moves : job.policy.executable = .move
  gone : d.entryAt? (job.builtAt cwd) = none
  found : ∃ x ∈ seen, x.call.program = "windeployqt.exe" ∧
    x.before.entryAt? (Job.stagedAt cwd) = some (.file f)
  stays : (∀ x ∈ seen, x.call.program = "windeployqt.exe" →
    x.after.entryAt? (Job.stagedAt cwd) = x.before.entryAt? (Job.stagedAt cwd)) →
      d.entryAt? (Job.stagedAt cwd) = some (.file f)

/-- Nothing but what a release may change has changed, and an executable that was there is there
still or was moved over. -/
structure KeepsToFootprint (job : Job) (cwd : Path) (start : Node) (seen : List Sighting)
    (d : Node) : Prop where
  outside : AgreeOff (job.MayChange cwd) d start
  executable : ∀ f, start.entryAt? (job.builtAt cwd) = some (.file f) →
    d.entryAt? (job.builtAt cwd) = some (.file f) ∨ MovedOver job cwd f seen d

/-- The disk once the executable is staged. -/
structure ExecutableStaged (job : Job) (cwd : Path) (start d : Node) : Prop where
  outside : AgreeOff (job.MayChange cwd) d start
  staging : d.entryAt? (Job.stagingAt cwd) = some .folder
  executable : ∀ f, start.entryAt? (job.builtAt cwd) = some (.file f) →
    d.entryAt? (job.builtAt cwd) = some (.file f) ∨ job.policy.executable = .move ∧
      d.entryAt? (job.builtAt cwd) = none ∧ d.entryAt? (Job.stagedAt cwd) = some (.file f)

theorem ExecutableStaged.of_transferred
    (hrecreated : Recreated (cwd / "archive-root") start d)
    (h : Transferred (cwd / job.buildFolder / "exotracker-qt.exe")
      (cwd / "archive-root" / "exotracker-qt.exe") job.policy.executable d e) :
    ExecutableStaged job cwd start e := by
  obtain ⟨-, harrived, hgone, hagree, -⟩ := h
  obtain ⟨hmade, -, hkept, -, -, -⟩ := hrecreated
  rw [Job.location_built, Job.location_staged] at harrived hgone hagree
  rw [Job.location_staging] at hmade hkept
  have hapart : job.builtAt cwd ≠ Job.stagedAt cwd := fun heq =>
    job.buildFolder_ne_staging (EntryName.text.inj (List.cons.inj (List.append_cancel_left heq)).1)
  have hbuilt : d.entryAt? (job.builtAt cwd) = start.entryAt? (job.builtAt cwd) :=
    hkept _ (not_prefix_of_text_ne job.buildFolder_ne_staging.symm)
  refine ⟨?_, ?_, ?_⟩
  · refine .trans (hagree.weaken ?_) (hkept.weaken fun l hl => .inl (.inl hl))
    rintro l (hl | hl)
    · exact .inl (.inl ((Job.staging_prefix_staged cwd).trans hl))
    · exact .inr hl
  · rw [hagree _ fun hl => ?_]
    · exact hmade
    rcases hl with hl | ⟨-, hl⟩
    · exact absurd hl.length_le (by simp [Job.stagedAt, Job.stagingAt])
    · exact not_prefix_of_text_ne job.buildFolder_ne_staging hl
  · intro f hf
    rw [← hbuilt] at hf
    cases hmode : job.policy.executable with
    | copy =>
        -- A copy touches its target only.
        refine .inl ?_
        rw [hagree _ fun hl => ?_]
        · exact hf
        rcases hl with hl | ⟨hmove, -⟩
        · exact not_prefix_of_text_ne job.buildFolder_ne_staging.symm hl
        · rw [hmode] at hmove
          cases hmove
    | move =>
        refine .inr ⟨rfl, hgone hmode hapart, ?_⟩
        have harrived := harrived hapart []
        rwa [List.append_nil, List.append_nil, hf] at harrived

namespace KeepsToFootprint

/-- As long as only the footprint was touched, the executable is where it was built. -/
theorem of_touches (h : AgreeOff (job.Touches cwd) d start) :
    KeepsToFootprint job cwd start seen d := by
  refine ⟨h.weaken fun l hl => .inl hl, fun f hf => .inl ?_⟩
  exact (h _ (Job.not_touches_build ["exotracker-qt.exe"])).trans hf

/-- The deployment tool has found the executable. -/
theorem deployed {x : Sighting} (h : ExecutableStaged job cwd start x.before)
    (hcall : x.call = job.deployCall cwd)
    (hagree : AgreeOff (Job.stagingAt cwd <+: ·) x.after x.before) :
    KeepsToFootprint job cwd start (seen ++ [x]) x.after := by
  have hlast : x ∈ seen ++ [x] := List.mem_append_right _ (List.mem_singleton.mpr rfl)
  have hprogram : x.call.program = "windeployqt.exe" := by rw [hcall, Job.deployCall]
  have hbuilt : x.after.entryAt? (job.builtAt cwd) = x.before.entryAt? (job.builtAt cwd) :=
    hagree _ (not_prefix_of_text_ne job.buildFolder_ne_staging.symm)
  refine ⟨(hagree.weaken fun l hl => .inl (.inl hl)).trans h.outside, fun f hf => ?_⟩
  rw [hbuilt]
  rcases h.executable f hf with hkept | ⟨hmoves, hgone, hstaged⟩
  · exact .inl hkept
  · refine .inr ⟨hmoves, hbuilt.trans hgone, ⟨x, hlast, hprogram, hstaged⟩, fun hstays => ?_⟩
    rw [hstays x hlast hprogram, hstaged]

/-- A change in the footprint that spares the executable. More calls may have been seen. -/
theorem change {touched : Location → Prop} {seen' : List Sighting}
    (h : KeepsToFootprint job cwd start seen d) (hagree : AgreeOff touched e d)
    (htouched : ∀ l, touched l → job.Touches cwd l) (hspared : ¬touched (Job.stagedAt cwd))
    (hseen : seen ⊆ seen') : KeepsToFootprint job cwd start seen' e := by
  have hbuilt : e.entryAt? (job.builtAt cwd) = d.entryAt? (job.builtAt cwd) :=
    hagree _ fun hl => Job.not_touches_build _ (htouched _ hl)
  refine ⟨(hagree.weaken fun l hl => .inl (htouched l hl)).trans h.outside, fun f hf => ?_⟩
  rw [hbuilt]
  refine (h.executable f hf).imp id fun hmoved => ⟨hmoved.moves, hbuilt.trans hmoved.gone, ?_, ?_⟩
  · obtain ⟨x, hx, hfound⟩ := hmoved.found
    exact ⟨x, hseen hx, hfound⟩
  · intro hstays
    rw [hagree _ hspared]
    exact hmoved.stays fun x hx => hstays x (hseen hx)

/-- Pruning plugins, which are not where the executable is. -/
theorem pruned (h : KeepsToFootprint job cwd start seen d)
    (hagree : AgreeOff (cwd.location ++ [.text "archive-root", .text "imageformats"] <+: ·) e d) :
    KeepsToFootprint job cwd start seen e := by
  refine h.change hagree (fun l hl => .inl (.trans ?_ hl)) ?_ (List.Subset.refl _)
  · exact (List.prefix_append_right_inj _).mpr ⟨["imageformats"], rfl⟩
  · rw [Job.stagedAt, List.prefix_append_right_inj]
    decide

end KeepsToFootprint

/-! ### Every run -/

/-- What holds at each point of a run. -/
def InFrame (job : Job) (cwd : Path) (start : Node) : Point → Prop
  | ⟨.start, d, _⟩ => d = start
  | ⟨.made, d, _⟩ => Recreated (cwd / "archive-root") start d
  | ⟨.staged, d, _⟩ => ExecutableStaged job cwd start d
  | p => KeepsToFootprint job cwd start p.seen p.disk

section

variable {runner : Runner σ} {p q : Point} {failure : Failure} (hrunner : runner.Contained)
  (hplain : job.HasPlainNames) (hcwd : cwd.isAbsolute = true)

include hrunner hplain hcwd

theorem InFrame.step (h : InFrame job cwd start p) (hstep : Step runner job cwd p q) :
    InFrame job cwd start q := by
  have hagree := hstep.agree hrunner hplain hcwd
  cases hstep with
  | recreate _ hrecreated =>
      obtain rfl := h
      exact hrecreated
  | transfer htransferred => exact .of_transferred h htransferred
  | deploy hmade _ => exact .deployed h hmade.call_eq (hagree fun _ => h.staging)
  | prune => exact h.pruned (hagree nofun)
  | clear | pack =>
      exact h.change (hagree nofun) (fun l hl => .inr (.inl hl)) Job.published_ne (by simp)
  | clearSymbols | packSymbols | copySymbols =>
      exact h.change (hagree nofun) (fun l hl => .inr (.inr hl)) Job.published_ne (by simp)
  | publish | publishSymbols => exact h

theorem InFrame.stop (h : InFrame job cwd start p)
    (hstop : Stop runner job cwd p failure d seen) : KeepsToFootprint job cwd start seen d := by
  have hagree := hstop.agree hrunner hplain hcwd
  cases hstop with
  | noBuildFolder | recreate =>
      obtain rfl := h
      exact .of_touches ((hagree nofun).weaken fun l hl => .inl hl)
  | transfer =>
      refine .of_touches (h.agree.weaken fun l hl => .inl ?_)
      rwa [Job.location_staging] at hl
  | deploy hmade _ => exact .deployed h hmade.call_eq (hagree fun _ => h.staging)
  | prune => exact h.pruned (hagree nofun)
  | pack =>
      exact h.change (hagree nofun) (fun l hl => .inr (.inl hl)) Job.published_ne (by simp)
  | packSymbols =>
      exact h.change (hagree nofun) (fun l hl => .inr (.inr hl)) Job.published_ne (by simp)
  | clear | publish | clearSymbols | publishSymbols => exact h

end

/-! ### What is spared -/

/-- What is left alone in the current folder. -/
structure SparesOthers (job : Job) (cwd : Path) (start d : Node) : Prop where
  /-- The build folder, but for an executable that is moved. -/
  build : ∀ name below, name ≠ .text "exotracker-qt.exe" ∨ job.policy.executable = .copy →
    d.entryAt? (cwd.location ++ .text job.buildFolder :: name :: below) =
      start.entryAt? (cwd.location ++ .text job.buildFolder :: name :: below)
  /-- The build folders of other jobs. -/
  other_builds : ∀ other : Job, other.buildFolder ≠ job.buildFolder → ∀ below,
    d.entryAt? (cwd.location ++ .text other.buildFolder :: below) =
      start.entryAt? (cwd.location ++ .text other.buildFolder :: below)
  /-- What is published of other jobs. -/
  other_releases : ∀ other : Job, other.archiveName ≠ job.archiveName →
    ∀ name ∈ other.publishedNames, ∀ below,
      d.entryAt? (cwd.location ++ .text name :: below) =
        start.entryAt? (cwd.location ++ .text name :: below)
  /-- Whatever has another name. -/
  siblings : ∀ name : EntryName, name ≠ "archive-root" → name ≠ job.buildFolder →
    name ≠ job.applicationName → name ≠ job.symbolsName → ∀ below,
      d.entryAt? (cwd.location ++ name :: below) = start.entryAt? (cwd.location ++ name :: below)

theorem KeepsToFootprint.sparesOthers (h : KeepsToFootprint job cwd start seen d) :
    SparesOthers job cwd start d where
  build name below hspared := by
    refine h.outside _ ?_
    rintro (hl | ⟨hmoves, hl⟩)
    · exact Job.not_touches_build _ hl
    · -- A moved executable is the one thing that a release takes from the build folder.
      rw [Job.builtAt, List.prefix_append_right_inj, List.cons_prefix_cons, List.cons_prefix_cons]
        at hl
      rcases hspared with hname | hcopy
      · exact hname hl.2.1.symm
      · rw [hmoves] at hcopy
        cases hcopy
  other_builds other hbuild below :=
    h.outside _ <| Job.not_mayChange (EntryName.text_ne other.buildFolder_ne_staging)
      (EntryName.text_ne
        (Job.ne_buildFolder_of_mem_publishedNames job.applicationName_mem_publishedNames other).symm)
      (EntryName.text_ne
        (Job.ne_buildFolder_of_mem_publishedNames job.symbolsName_mem_publishedNames other).symm)
      (EntryName.text_ne hbuild) below
  other_releases other hrelease name hname below :=
    h.outside _ <| Job.not_mayChange (EntryName.text_ne (Job.ne_staging_of_mem_publishedNames hname))
      (EntryName.text_ne
        (Job.ne_of_archiveName_ne hrelease hname job.applicationName_mem_publishedNames))
      (EntryName.text_ne
        (Job.ne_of_archiveName_ne hrelease hname job.symbolsName_mem_publishedNames))
      (EntryName.text_ne (Job.ne_buildFolder_of_mem_publishedNames hname job)) below
  siblings name hstaging hbuild happlication hsymbols below :=
    h.outside _ (Job.not_mayChange hstaging happlication hsymbols hbuild below)

namespace Pipeline

open Stage

/-- **A release keeps to its footprint.** Whatever the policy, and wherever the run is cut off,
contained tools and the pipeline together change nothing but the staging folder, the two published
files and, if the executable is moved, the place where it was built. An executable that was built is
there still, or the deployment tool found it in the staging folder as it was. -/
theorem archive_keepsToFootprint (pipeline : Pipeline σ) (s : Session σ)
    (hplain : pipeline.job.HasPlainNames) (hcwd : s.workspace.cwd.isAbsolute = true)
    (hlegal : s.bench.disk.Legal) (hrunner : pipeline.runner.Contained) :
    let after := (sessionAfter (pipeline.watched.archive .windows) s.watched).bench
    KeepsToFootprint pipeline.job s.workspace.cwd s.bench.disk after.memory.seen after.disk ∧
      SparesOthers pipeline.job s.workspace.cwd s.bench.disk after.disk := by
  have hkeeps := archive_course_after (I := InFrame pipeline.job s.workspace.cwd s.bench.disk) s
    hcwd hlegal hrunner.legal rfl (fun p q h _ => h.step hrunner hplain hcwd)
    (fun p failure d seen h _ => h.stop hrunner hplain hcwd) fun release d seen h => h
  exact ⟨hkeeps, hkeeps.sparesOthers⟩

/-- A run that moves the executable, and is cut off when the application is packed. -/
theorem archive_keepsToFootprint_of_moved :
    let start := PlainTools.session
    let after := (sessionAfter ((PlainTools.moving (some "7z")).watched.archive .windows)
      start.watched).bench
    (after.disk.entryAt? ["project", "archive-root", "exotracker-qt.exe"] =
        start.bench.disk.entryAt? ["project", "build-windows-Release", "exotracker-qt.exe"] ∧
      after.disk.entryAt? ["project", "build-windows-Release", "exotracker-qt.exe"] = none) ∧
      KeepsToFootprint (PlainTools.moving (some "7z")).job ⟨"/project"⟩ start.bench.disk
        after.memory.seen after.disk ∧
      SparesOthers (PlainTools.moving (some "7z")).job ⟨"/project"⟩ start.bench.disk after.disk :=
  ⟨by decide +kernel, archive_keepsToFootprint (PlainTools.moving (some "7z")) PlainTools.session
    ⟨by decide, by decide⟩ (by decide) PlainTools.disk_legal
    (PlainTools.runner_confined _).contained⟩

end Pipeline

end ReleasePipeline
