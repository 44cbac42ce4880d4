import ReleasePipeline.Proofs.Release.Course
import ReleasePipeline.Proofs.Release.Parallel
import ReleasePipeline.Proofs.Release.PlainTools
import ReleasePipeline.Proofs.Stage.Accords

/-!
# ReleasePipeline.Proofs.Release.Policies

The application that is shipped does not depend on how the executable is staged, nor on what becomes
of the debug symbols. Two runs from one disk publish the application in parallel; after that, nothing
is done in the staging folder any more, whatever is done with the debug symbols.
-/

namespace ReleasePipeline

open Disk Node

/-- What was called in the staging folder: the deployment tool, and the compressing tool for the
application. -/
def inStaging (cwd : Path) (seen : List Sighting) : List Sighting :=
  seen.filter (·.call.folder = cwd / "archive-root")

theorem SameSights.inStaging {cwd : Path} {xs ys : List Sighting} (h : SameSights cwd xs ys) :
    SameSights cwd (inStaging cwd xs) (inStaging cwd ys) := by
  refine List.rel_filter (fun x y hxy => ?_) h
  change decide (x.call.folder = _) = true ↔ decide (y.call.folder = _) = true
  rw [hxy.call_eq]

/-- A part of a stage whose calls are all made in the current folder. -/
theorem Stage.CallsAlong.inStaging_eq {w : Workspace} {plan : List ToolCall}
    {stage : Stage (Watched σ) α} {value : α → Prop} {cwd : Path} {m₀ : Watched σ}
    (h : CallsAlong w plan stage value) (hplan : ∀ c ∈ plan, c.folder = cwd) :
    Runs w (fun _ m => m = m₀) stage
      (fun a _ m => value a ∧ inStaging cwd m.seen = inStaging cwd m₀.seen)
      fun _ _ m => inStaging cwd m.seen = inStaging cwd m₀.seen := by
  have hnone : ∀ made : List Sighting, made.map Sighting.call ⊆ plan →
      inStaging cwd (m₀.seen ++ made) = inStaging cwd m₀.seen := by
    intro made hmade
    have hfilter : inStaging cwd made = [] := by
      refine List.filter_eq_nil_iff.mpr fun x hx => ?_
      rw [hplan x.call (hmade (List.mem_map_of_mem hx)), decide_eq_true_eq]
      exact (Path.join_name_ne (by decide)).symm
    unfold inStaging at hfilter ⊢
    rw [List.filter_append, hfilter, List.append_nil]
  refine (h m₀.seen).weaken ?_ ?_ ?_
  · rintro _ _ rfl
    rfl
  · rintro a d m ⟨hvalue, made, hmade, hseen⟩
    rw [hseen]
    exact ⟨hvalue, hnone made (hmade.calls_eq ▸ List.Subset.refl _)⟩
  · rintro failure d m ⟨made, hmade, hseen⟩
    rw [hseen]
    exact hnone made hmade.calls_prefix.subset

namespace Disk

theorem accept_of_place {d : Node} {p : Path} {found : Place} (h : place d p = .ok found) :
    accept p = .ok () := by
  unfold place at h
  cases haccept : accept p with
  | ok u => rfl
  | error fault =>
      rw [haccept] at h
      cases h

theorem accept_of_locate {d : Node} {p : Path} {l : Location} (h : locate d p = .ok l) :
    accept p = .ok () := by
  obtain ⟨found, hfound⟩ := exists_place_of_locate h
  exact accept_of_place hfound

end Disk

variable {cwd : Path} {f : File} {d e start : Node}

namespace Pipeline

open Stage

variable {pipeline : Pipeline σ} {w : Workspace} {other : Job} {left right : Option Entry}

/-! ### Beside the application -/

/-- What is published beside the application is called for in the current folder. -/
theorem publishBeside_calls {buildFolder base root : Path} {application : Artifact} :
    CallsAlong w
      (if pipeline.job.policy.debugSymbols = .compress then
        [Packaging.windows.compress ((base.addExtension "pdb").addExtension "7z")
          [(buildFolder / "exotracker-qt.pdb").text] root] else [])
      (pipeline.watched.publishBeside .windows buildFolder base root application)
      (·.application = application) := by
  rw [publishBeside_windows]
  exact .bind_quiet publishSymbols_calls fun _ _ => .quiet_bind .report fun _ _ => .pure rfl

section

variable (hrunner : pipeline.runner.Contained) (hplain : pipeline.job.HasPlainNames)
  (hcwd : cwd.isAbsolute = true)

include hrunner hplain hcwd

/-- What is published beside the application is the only change. -/
theorem publishSymbols_agree {source : Path} :
    Runs w (fun d _ => AgreeOff (· = pipeline.job.symbolsAt cwd) d start)
      (pipeline.watched.publishSymbols .windows source
        (cwd / (⟨pipeline.job.archiveName⟩ : Path)) cwd)
      (fun _ d _ => AgreeOff (· = pipeline.job.symbolsAt cwd) d start) fun _ _ _ => True := by
  have hpath := pipeline.job.symbolsPath_eq cwd
  have hlocation := Job.location_symbols cwd hplain
  have hartifact : Runs w (fun d _ => AgreeOff (· = pipeline.job.symbolsAt cwd) d start)
      (artifact (cwd / pipeline.job.symbolsName) : Stage (Watched σ) Artifact)
      (fun _ d _ => AgreeOff (· = pipeline.job.symbolsAt cwd) d start) fun _ _ _ => True :=
    .artifact (fun _ _ _ h _ => h) fun _ _ _ _ _ => trivial
  unfold publishSymbols
  dsimp only [watched]
  cases hpolicy : pipeline.job.policy.debugSymbols with
  | compress =>
      rw [Job.symbolsPath, hpolicy] at hpath
      dsimp only [Packaging.windows] at hpath ⊢
      rw [hpath]
      refine .bind (.removeIfPresent (fun d m e h hremoved => ?_) fun _ _ _ _ => trivial)
        fun _ => .bind ((Runs.sighted (P := fun d _ => AgreeOff (· = pipeline.job.symbolsAt cwd) d
          start) (Q := fun d _ => AgreeOff (· = pipeline.job.symbolsAt cwd) d start)
          (E := fun _ _ _ => True) ?_ fun _ _ _ _ _ _ => trivial)) fun _ => hartifact
      · exact (hlocation ▸ hremoved.agree).trans h
      · intro seen x h hmade _
        have hagree := hrunner.made_compress hmade rfl rfl
        dsimp only at hagree
        rw [Path.join_join _ _ hcwd, hlocation] at hagree
        exact hagree.trans h
  | rename =>
      rw [Job.symbolsPath, hpolicy] at hpath
      dsimp only at hpath ⊢
      rw [hpath]
      refine .bind (.attempt fun d m h => ?_) fun _ => hartifact
      cases hrun : copyFile source (cwd / pipeline.job.symbolsName) d with
      | ok u e =>
          obtain ⟨-, -, -, hagree, -, -⟩ := copyFile_ok hrun
          exact (hlocation ▸ hagree).trans h
      | error fault e => trivial

/-- Publishing beside the application keeps the application and leaves the staging folder alone. -/
theorem publishBeside_keeps (start : Node) (m₀ : Watched σ) (application : Artifact) :
    Runs w (fun d m => d = start ∧ m = m₀)
      (pipeline.watched.publishBeside .windows (cwd / pipeline.job.buildFolder)
        (cwd / (⟨pipeline.job.archiveName⟩ : Path)) cwd application)
      (fun release d m => (release.application = application ∧
        ∀ l, Job.stagingAt cwd <+: l → d.entryAt? l = start.entryAt? l) ∧
          inStaging cwd m.seen = inStaging cwd m₀.seen)
      fun _ _ m => inStaging cwd m.seen = inStaging cwd m₀.seen := by
  have hagree : Runs w (fun d m => d = start ∧ m = m₀)
      (pipeline.watched.publishBeside .windows (cwd / pipeline.job.buildFolder)
        (cwd / (⟨pipeline.job.archiveName⟩ : Path)) cwd application)
      (fun _ d _ => AgreeOff (· = pipeline.job.symbolsAt cwd) d start) fun _ _ _ => True := by
    rw [publishBeside_windows]
    refine .bind ((publishSymbols_agree hrunner hplain hcwd).weaken ?_ (fun _ _ _ h => h)
      fun _ _ _ h => h) fun _ => .bind .report fun _ => .pure fun _ _ h => h
    rintro _ m ⟨rfl, -⟩
    exact .refl _
  have hcalls : CallsAlong w _ (pipeline.watched.publishBeside .windows
      (cwd / pipeline.job.buildFolder) (cwd / (⟨pipeline.job.archiveName⟩ : Path)) cwd application)
      (·.application = application) := publishBeside_calls
  have hplan : ∀ c ∈ (if pipeline.job.policy.debugSymbols = .compress then
      [Packaging.windows.compress (((cwd / (⟨pipeline.job.archiveName⟩ : Path)).addExtension
        "pdb").addExtension "7z") [(cwd / pipeline.job.buildFolder / "exotracker-qt.pdb").text] cwd]
      else []), c.folder = cwd := by
    intro c hc
    split at hc
    · rw [List.mem_singleton.mp hc]
      rfl
    · cases hc
  refine (hagree.and ((hcalls.inStaging_eq hplan).weaken (fun _ _ h => h.2) (fun _ _ _ h => h)
    fun _ _ _ h => h)).weaken (fun _ _ h => h) ?_ fun _ _ _ h => h.2
  rintro release d m ⟨hagree, hvalue, hseen⟩
  refine ⟨⟨hvalue, fun l hl => hagree l ?_⟩, hseen⟩
  rintro rfl
  exact Job.Publishes.not_staging (.inr rfl) hl

end

/-! ### Paths that are refused -/

theorem transfer_refused {source target : Path} {mode : ExecutableTransfer}
    (hrefused : ¬(accept source = .ok () ∧ accept target = .ok ())) :
    Runs w (fun _ m => m.seen = []) (transfer source target mode : Stage (Watched σ) Unit)
      (fun _ _ _ => False) fun _ _ m => m.seen = [] := by
  unfold transfer
  refine .bind .report fun _ => ?_
  cases mode with
  | copy =>
      refine .attempt fun d m hseen => ?_
      rcases copyFile_cases source target d with
        ⟨_, _, _, _, _, hlocate, -, hplace, -, -, -⟩ | ⟨fault, hrun⟩
      · exact absurd ⟨accept_of_locate hlocate, accept_of_place hplace⟩ hrefused
      · rw [hrun]
        exact hseen
  | move =>
      refine .attempt fun d m hseen => ?_
      rcases rename_cases source target d with
        ⟨_, _, _, _, _, _, _, hsource, htarget, -, -, -⟩ | ⟨fault, hrun⟩
      · exact absurd ⟨accept_of_place hsource, accept_of_place htarget⟩ hrefused
      · rw [hrun]
        exact hseen

/-- Where the executable cannot be staged under any policy, no release is made and no tool called. -/
theorem archive_refused (pipeline : Pipeline σ) (hcwd : w.cwd.isAbsolute = true)
    (hrefused : ¬pipeline.job.Stageable w.cwd) :
    Runs w (fun _ m => m.seen = []) (pipeline.watched.archive .windows) (fun _ _ _ => False)
      fun _ _ m => m.seen = [] := by
  have hstaging : (w.inside (w.path ⟨stagingFolder⟩)).cwd = w.cwd / "archive-root" :=
    Workspace.cwd_inside_path hcwd _
  have hpaths : ¬(accept (w.cwd / pipeline.job.buildFolder / "exotracker-qt.exe") = .ok () ∧
      accept (w.cwd / "archive-root" / "exotracker-qt.exe") = .ok ()) :=
    fun h => hrefused ⟨h.1, h.2⟩
  rw [archive_eq]
  refine .bind .cwd fun root => .bind (.existingBuildFolder fun _ _ h _ => h.2) fun folder => ?_
  refine .of_fact (fun _ _ h => h.1.1.symm) fun hfolder => ?_
  subst hfolder
  unfold archiveFrom publishApplication
  refine .bind .path fun base => .bind (M := fun _ _ _ => False) (.bind .report fun _ => ?_)
    fun _ => .of_fact (fun _ _ h => h) False.elim
  refine .bind .path fun staging => .assuming fun hstaged => ?_
  subst hstaged
  refine .bind (M := fun _ _ m => m.seen = []) (.recreateFolder (fun _ _ _ h _ => h.2.2.2)
    fun _ _ _ _ h _ => h.2.2.2) fun _ => .bind (M := fun _ _ _ => False)
    (.within (fun _ _ h _ => h) ?_) fun _ => .of_fact (fun _ _ h => h) False.elim
  unfold assemble
  refine .bind .cwd fun here => .assuming fun hhere => ?_
  rw [hstaging] at hhere
  subst hhere
  exact .bind ((transfer_refused hpaths).weaken (fun _ _ h => h.2) (fun _ _ _ h => h)
    fun _ _ _ h => h) fun _ => .of_fact (fun _ _ h => h) False.elim

/-! ### Two policies -/

/-- What is called in the staging folder is the deployment tool, and then the compressing tool for
the application. -/
theorem inStaging_planned {s : Session σ} (hcwd : s.workspace.cwd.isAbsolute = true) :
    (inStaging s.workspace.cwd (pipeline.afterArchive s).bench.memory.seen).map Sighting.call <+:
      [pipeline.job.deployCall s.workspace.cwd, pipeline.job.packCall s.workspace.cwd] := by
  have hplan : (pipeline.job.archivePlan s.workspace.cwd).filter
      (·.folder = s.workspace.cwd / "archive-root") =
        [pipeline.job.deployCall s.workspace.cwd, pipeline.job.packCall s.workspace.cwd] := by
    rw [archivePlan_eq, deploy_windows, List.filter_append, List.filter_eq_self.mpr,
      List.filter_eq_nil_iff.mpr, List.append_nil]
    · rfl
    · intro c hc
      -- The compressing tool for the debug symbols is called in the current folder.
      split at hc
      · rw [List.mem_singleton.mp hc, decide_eq_true_eq]
        exact (Path.join_name_ne (by decide)).symm
      · cases hc
    · intro c hc
      rw [decide_eq_true_eq]
      rcases List.mem_cons.mp hc with hc | hc
      · rw [hc]
      · rw [List.mem_singleton.mp hc]
        rfl
  have hfollows : Follows (pipeline.job.archivePlan s.workspace.cwd) _ :=
    .of_callsAlong (archive_calls hcwd)
  have hbegin := hfollows.calls_begin.filter (·.folder = s.workspace.cwd / "archive-root")
  rw [List.filter_map, hplan] at hbegin
  unfold afterArchive inStaging
  exact hbegin

section

variable (hrunner : pipeline.runner.Contained) (hkeeps : pipeline.runner.KeepsFolder)
  (hdet : pipeline.runner.Deterministic) (hplain : pipeline.job.HasPlainNames)
  (hcwd : w.cwd.isAbsolute = true) (hother : other.ShipsAs pipeline.job)

include hrunner hkeeps hdet hplain hcwd hother

/-- Whatever is published beside the application, the staging folder is left alone. -/
theorem archive_staging_accords (hpaths : pipeline.job.Stageable w.cwd) (hlegal : start.Legal)
    (hfile : start.entryAt? (pipeline.job.builtAt w.cwd) = some (.file f)) :
    Accords w (Along (SameSights w.cwd) fun d e => d = start ∧ e = start)
      (pipeline.watched.archive .windows) ((pipeline.withJob other).watched.archive .windows)
      (fun release release' d _ e _ => release.application = release'.application ∧
        ∀ l, Job.stagingAt w.cwd <+: l → d.entryAt? l = e.entryAt? l)
      fun _ m _ n => SameSights w.cwd (inStaging w.cwd m.seen) (inStaging w.cwd n.seen) := by
  have hfirst := publishFirst_parallel hrunner hkeeps hdet hplain hcwd hother hpaths hlegal hfile
    (w := w) rfl
  rw [archive_eq_publishFirst, archive_eq_publishFirst]
  refine .bind (hfirst.weaken (fun _ _ _ _ h => h) (fun _ _ _ _ _ _ h => h)
    fun _ _ _ _ h => h.2.inStaging) fun a b => .of_fact (fun _ _ _ _ h => h.1.1) fun hvalue => ?_
  obtain ⟨rfl, application, rfl⟩ := hvalue
  refine .fix fun d m e n h => ?_
  obtain ⟨⟨-, hparallel⟩, hsights⟩ := h
  have hplain' : (pipeline.withJob other).job.HasPlainNames :=
    ⟨hother.version_eq ▸ hplain.version, hother.configuration_eq ▸ hplain.configuration⟩
  have hkept := publishBeside_keeps (w := w) hrunner hplain hcwd d m application
  have hrunner' : (pipeline.withJob other).runner.Contained := hrunner
  have hkept' := publishBeside_keeps (w := w) hrunner' hplain' hcwd e n application
  have hfolder : (pipeline.withJob other).job.buildFolder = pipeline.job.buildFolder :=
    hother.buildFolder_eq
  have hname : (pipeline.withJob other).job.archiveName = pipeline.job.archiveName :=
    hother.archiveName_eq
  rw [hfolder, hname] at hkept'
  refine (Accords.of_runs hkept hkept').weaken (fun _ _ _ _ h => h) ?_ ?_
  · rintro release release' d' m' e' n' ⟨⟨happlication, hd⟩, happlication', he⟩
    exact ⟨happlication.trans happlication'.symm, fun l hl =>
      (hd l hl).trans ((hparallel.staging_eq hl).trans (he l hl).symm)⟩
  · rintro d' m' e' n' ⟨hm, hn⟩
    rw [hm, hn]
    exact hsights.inStaging

/-- With the same debug symbols beside them, two releases are the same to the end. -/
theorem archive_parallel_accords (hpaths : pipeline.job.Stageable w.cwd) (hlegal : start.Legal)
    (hfile : start.entryAt? (pipeline.job.builtAt w.cwd) = some (.file f))
    (hsymbols : other.policy.debugSymbols = pipeline.job.policy.debugSymbols) :
    Accords w (Along (SameSights w.cwd) fun d e => d = start ∧ e = start)
      (pipeline.watched.archive .windows) ((pipeline.withJob other).watched.archive .windows)
      (fun release release' d _ e _ => release = release' ∧ Parallel pipeline.job w.cwd
        (pipeline.job.policy.executable.leaves f) (other.policy.executable.leaves f) d e)
      fun _ _ _ _ => True := by
  have hfirst := publishFirst_parallel hrunner hkeeps hdet hplain hcwd hother hpaths hlegal hfile
    (w := w) rfl
  rw [archive_eq_publishFirst, archive_eq_publishFirst]
  refine .bind (hfirst.weaken (fun _ _ _ _ h => h) (fun _ _ _ _ _ _ h => h)
    fun _ _ _ _ _ => trivial) fun a b => .of_fact (fun _ _ _ _ h => h.1.1) fun hvalue => ?_
  obtain ⟨rfl, application, rfl⟩ := hvalue
  refine .of_matches ?_ fun _ _ _ _ _ _ _ => trivial
  exact (publishBeside_tandem hrunner hdet hplain hcwd (SameSights.comparesStaging w.cwd)
    Parallel.tandem Parallel.tandem other hsymbols (Parallel.settles _)).weaken
      (fun _ _ _ _ h => ⟨h.1.2, h.2⟩) (fun _ _ _ _ _ _ h => h.1) fun _ _ _ _ _ => trivial

end

/-- What two runs have in common whose jobs ship the same application. In the staging folder, the
deployment tool is called and then the compressing tool; both runs make these calls alike, and find
the same there, up to where they fail. Releases have the same application in them and leave the same
in the staging folder. Where the debug symbols are treated alike as well, nothing is different but
what is left in the place where the executable was built. -/
structure ShipAlike (first second : Pipeline σ) (s t : Session σ) (f : File) : Prop where
  planned : (inStaging s.workspace.cwd
      (first.afterArchive s).bench.memory.seen).map Sighting.call <+:
    [first.job.deployCall s.workspace.cwd, first.job.packCall s.workspace.cwd]
  calls : SameSights s.workspace.cwd
    (inStaging s.workspace.cwd (first.afterArchive s).bench.memory.seen)
    (inStaging s.workspace.cwd (second.afterArchive t).bench.memory.seen)
  application : ∀ release s' release' t', first.archive .windows s = .ok release s' →
    second.archive .windows t = .ok release' t' →
      release.application = release'.application ∧
        ∀ l, Job.stagingAt s.workspace.cwd <+: l →
          s'.bench.disk.entryAt? l = t'.bench.disk.entryAt? l
  disk : second.job.policy.debugSymbols = first.job.policy.debugSymbols →
    ∀ release s' release' t', first.archive .windows s = .ok release s' →
      second.archive .windows t = .ok release' t' →
        release = release' ∧
          AgreeOff (· = first.job.builtAt s.workspace.cwd) s'.bench.disk t'.bench.disk ∧
          s'.bench.disk.entryAt? (first.job.builtAt s.workspace.cwd) =
            first.job.policy.executable.leaves f ∧
          t'.bench.disk.entryAt? (first.job.builtAt s.workspace.cwd) =
            second.job.policy.executable.leaves f

/-- Nothing comes of two runs that fail before they call a tool. -/
theorem shipAlike_of_refused {first second : Pipeline σ} {s t : Session σ}
    (hcwd : s.workspace.cwd.isAbsolute = true) (hworkspace : t.workspace = s.workspace)
    (hfirst : ¬first.job.Stageable s.workspace.cwd)
    (hsecond : ¬second.job.Stageable s.workspace.cwd) : ShipAlike first second s t f := by
  have hruns := archive_refused first hcwd hfirst
  have hruns' := archive_refused second hcwd hsecond
  have hfails : ∀ release s', first.archive .windows s ≠ .ok release s' := by
    intro release s' hrun
    obtain ⟨_, hwatched, -⟩ := archive_erases.ok hrun
    exact hruns.meets (s := s.watched) rfl rfl hwatched
  refine ⟨inStaging_planned hcwd, ?_, fun release s' _ _ hrun => absurd hrun (hfails release s'),
    fun _ release s' _ _ hrun => absurd hrun (hfails release s')⟩
  have hnone := ((hruns.weaken (fun _ _ h => h) (fun _ _ _ h => h.elim)
    fun _ _ _ h => h).sessionAfter s.watched rfl rfl).2
  have hnone' := ((hruns'.weaken (fun _ _ h => h) (fun _ _ _ h => h.elim)
    fun _ _ _ h => h).sessionAfter t.watched hworkspace rfl).2
  unfold afterArchive
  rw [hnone, hnone']
  exact .nil

/-- **The application does not depend on how the executable is staged or on what becomes of the
debug symbols**, nor on how the project was built. That goes for all that is done in the staging
folder, and if the debug symbols are treated alike, then for all that is done. -/
theorem archive_shipAlike (pipeline : Pipeline σ) (other : Job) (s t : Session σ)
    (hplain : pipeline.job.HasPlainNames) (hother : other.ShipsAs pipeline.job)
    (hcontained : pipeline.runner.Contained) (hkeeps : pipeline.runner.KeepsFolder)
    (hdeterministic : pipeline.runner.Deterministic) (hcwd : s.workspace.cwd.isAbsolute = true)
    (hlegal : s.bench.disk.Legal)
    (hbuilt : s.bench.disk.entryAt? (pipeline.job.builtAt s.workspace.cwd) = some (.file f))
    (hworkspace : t.workspace = s.workspace) (hdisk : t.bench.disk = s.bench.disk) :
    ShipAlike pipeline (pipeline.withJob other) s t f := by
  by_cases hpaths : pipeline.job.Stageable s.workspace.cwd
  · have hboth : BothIn s.workspace s.watched t.watched := ⟨rfl, hworkspace⟩
    have hstart : s.watched.MeetWith t.watched (Along (SameSights s.workspace.cwd) fun d e =>
        d = s.bench.disk ∧ e = s.bench.disk) := ⟨⟨rfl, hdisk⟩, .nil⟩
    have hstaging := archive_staging_accords hcontained hkeeps hdeterministic hplain hcwd hother
      hpaths hlegal hbuilt
    constructor
    case planned => exact inStaging_planned hcwd
    case calls =>
      have hafter := hstaging.after s.watched t.watched hboth hstart
      unfold Session.MeetWith at hafter
      unfold afterArchive
      exact hafter
    case application =>
      intro release s' release' t' hrun hrun'
      obtain ⟨s', hwatched, rfl⟩ := archive_erases.ok hrun
      obtain ⟨t', hwatched', rfl⟩ := archive_erases.ok hrun'
      exact hstaging.both _ _ hboth hstart _ _ _ _ hwatched hwatched'
    case disk =>
      intro hsymbols release s' release' t' hrun hrun'
      obtain ⟨s', hwatched, rfl⟩ := archive_erases.ok hrun
      obtain ⟨t', hwatched', rfl⟩ := archive_erases.ok hrun'
      have hparallel := archive_parallel_accords hcontained hkeeps hdeterministic hplain hcwd hother
        hpaths hlegal hbuilt hsymbols
      obtain ⟨hsame, hparallel⟩ := hparallel.both _ _ hboth hstart _ _ _ _ hwatched hwatched'
      exact ⟨hsame, hparallel.agree, hparallel.built⟩
  · refine shipAlike_of_refused hcwd hworkspace hpaths fun hpaths' => hpaths ⟨?_, hpaths'.target⟩
    exact hother.buildFolder_eq ▸ hpaths'.source

/-! ### Two policies for a small project -/

/-- Another way to ship the application: the executable is moved and the project is built without
precompiled headers. -/
def movingJob : Job :=
  { PlainTools.job with withoutPch := true, policy := ⟨.move, .keepSvg, .compress⟩ }

/-- The executable is copied or moved. Only what is copied is still there afterwards. -/
theorem archive_shipAlike_of_moving :
    (Stage.succeeds ((PlainTools.pipeline none).archive .windows) PlainTools.session = true ∧
      Stage.succeeds (((PlainTools.pipeline none).withJob movingJob).archive .windows)
        PlainTools.session = true) ∧
    ExecutableTransfer.leaves { content := [1] } .copy ≠
      ExecutableTransfer.leaves { content := [1] } .move ∧
    ShipAlike (PlainTools.pipeline none) ((PlainTools.pipeline none).withJob movingJob)
      PlainTools.session PlainTools.session { content := [1] } :=
  ⟨by decide +kernel, nofun, archive_shipAlike (PlainTools.pipeline none) movingJob
    PlainTools.session PlainTools.session PlainTools.job_hasPlainNames
    { name_eq := rfl, configuration_eq := rfl, version_eq := rfl, imageFormats_eq := rfl }
    (PlainTools.runner_confined none).contained (PlainTools.runner_confined none).keepsFolder
    (PlainTools.runner_deterministic none) (by decide) PlainTools.disk_legal (by decide +kernel)
    rfl rfl⟩

end Pipeline

end ReleasePipeline
