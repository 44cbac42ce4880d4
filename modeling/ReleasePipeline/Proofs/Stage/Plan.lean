import ReleasePipeline.Proofs.Path.Joining
import ReleasePipeline.Proofs.Release.PlainTools
import ReleasePipeline.Proofs.Stage.Watched
import ReleasePipeline.Stage.Build
import ReleasePipeline.Stage.Release
import ReleasePipeline.Stage.UnitTests

/-!
# ReleasePipeline.Proofs.Stage.Plan

What each stage asks of its tools. The calls of a stage are planned before its first step: the plan
is written down here as data, from the job, the current folder and, for a build, the compilers. No
run makes any other call. A run that succeeds makes all of them, each with success, and a run that
fails makes the first few and nothing more after one that failed.

The plans are literal on purpose and do not mention the definitions that build the calls.
-/

namespace ReleasePipeline

/-! ### The plans -/

namespace Job

/-- The calls of a build with some compilers. -/
def buildPlan (job : Job) (cwd : Path) (compilers : Toolchain.Compilers) : List ToolCall :=
  let env := [("CC", compilers.cc.text), ("CXX", compilers.cxx.text)]
  [{ program := "cmake"
     args := ["..", "-DCMAKE_BUILD_TYPE=" ++ job.configuration, "-G", "Ninja"]
     folder := cwd / job.buildFolder
     env },
   { program := "ninja", args := [], folder := cwd / job.buildFolder, env }]

/-- The calls of a test run. -/
def testPlan (job : Job) (cwd : Path) : List ToolCall :=
  [{ program := (cwd / job.buildFolder / "exotracker-tests").text
     args := []
     folder := cwd / job.buildFolder
     env := [] }]

/-- The calls of making a release. -/
def archivePlan (job : Job) (cwd : Path) : List ToolCall :=
  let staging := cwd / "archive-root"
  let base := (cwd / job.archiveName).text
  let svgFlag := if job.policy.imageFormats = .removeAll then ["--no-svg"] else []
  let symbols : ToolCall :=
    { program := "7z"
      args := ["a", "-mx=3", base ++ ".pdb.7z",
        (cwd / job.buildFolder / "exotracker-qt.pdb").text]
      folder := cwd
      env := [] }
  [{ program := "windeployqt.exe"
     args := ["exotracker-qt.exe", "--no-compiler-runtime", "--no-angle", "--no-opengl-sw"] ++
       svgFlag
     folder := staging
     env := [] },
   { program := "7z", args := ["a", "-mx=3", base ++ ".7z", "."], folder := staging, env := [] }] ++
  if job.policy.debugSymbols = .compress then [symbols] else []

end Job

/-- The calls of making a release, in the words of its packaging. -/
def Packaging.plan (packaging : Packaging) (job : Job) (root : Path) : List ToolCall :=
  [packaging.deploy (packaging.executable "exotracker-qt") job.policy.imageFormats
      (root / "archive-root"),
    packaging.compress ((root / job.archiveName).addExtension packaging.extension) ["."]
      (root / "archive-root")] ++
  match packaging.symbols "exotracker-qt" with
  | none => []
  | some name =>
    if job.policy.debugSymbols = .compress then
      [packaging.compress (((root / job.archiveName).addExtension "pdb").addExtension
        packaging.extension) [(root / job.buildFolder / name).text] root]
    else []

/-- A run follows a plan: all of it if it succeeds, else a beginning of it that only its last call
can have broken. -/
structure Follows (plan : List ToolCall) (run : EStateM.Result Failure (Session (Watched σ)) α) :
    Prop where
  completes : ∀ a t, run = .ok a t → Completes plan t.bench.memory.seen
  stops : ∀ failure t, run = .error failure t → StopsIn plan failure t.bench.memory.seen

namespace Follows

variable {plan : List ToolCall} {stage : Stage (Watched σ) α} {s : Session σ}

theorem of_runs {P : Assertion (Watched σ)}
    (h : Stage.Runs s.workspace P stage (fun _ _ m => Completes plan m.seen)
      fun failure _ m => StopsIn plan failure m.seen)
    (hs : s.watched.Meets P) : Follows plan (stage s.watched) := by
  have h := h.ending s.watched rfl hs
  constructor
  · intro a t hrun
    rw [hrun] at h
    exact h.2
  · intro failure t hrun
    rw [hrun] at h
    exact h.2

theorem of_callsAlong {value : α → Prop} (h : Stage.CallsAlong s.workspace plan stage value) :
    Follows plan (stage s.watched) := by
  refine of_runs ((h []).weaken (fun _ _ h => h) ?_ ?_) rfl
  · intro a d m h
    obtain ⟨-, made, hmade, hseen⟩ := h
    rwa [hseen, List.nil_append]
  · intro failure d m h
    obtain ⟨made, hmade, hseen⟩ := h
    rwa [hseen, List.nil_append]

/-- Wherever a run ends, its calls are a beginning of the plan. -/
theorem calls_begin {s : Session (Watched σ)} (h : Follows plan (stage s)) :
    (Stage.sessionAfter stage s).bench.memory.seen.map Sighting.call <+: plan := by
  unfold Stage.sessionAfter
  cases hrun : stage s with
  | ok a t =>
      have hcompletes := h.completes _ _ hrun
      exact hcompletes.calls_eq ▸ List.prefix_rfl
  | error failure t =>
      have hstops := h.stops _ _ hrun
      exact hstops.calls_prefix

theorem call_mem {s : Session (Watched σ)} {x : Sighting} (h : Follows plan (stage s))
    (hx : x ∈ (Stage.sessionAfter stage s).bench.memory.seen) : x.call ∈ plan :=
  h.calls_begin.subset (List.mem_map_of_mem hx)

end Follows

namespace Pipeline

open Stage

variable {w : Workspace} {pipeline : Pipeline σ}

/-! ### Parts of stages -/

theorem existingBuildFolder_calls :
    CallsAlong w [] pipeline.watched.existingBuildFolder
      (· = w.path ⟨pipeline.job.buildFolder⟩) := by
  unfold existingBuildFolder buildFolder
  refine .quiet_bind .path fun folder hfolder => .quiet_bind .disk fun disk _ => ?_
  exact .ite (fun _ => .pure hfolder) fun _ => .throw

theorem disableHeaders_calls :
    CallsAlong w [] (disableHeaders : Stage (Watched σ) Unit) fun _ => True := by
  unfold disableHeaders
  exact .quiet_bind .path fun _ _ => .quiet_bind .report fun _ _ => .quiet_bind .attempt fun _ _ =>
    .attempt

theorem recreateFolder_calls {folder : Path} :
    CallsAlong w [] (recreateFolder folder : Stage (Watched σ) Unit) fun _ => True := by
  unfold recreateFolder
  refine .quiet_bind .onDisk fun ending _ => ?_
  dsimp only
  cases ending with
  | ok _ => exact .quiet_bind .report fun _ _ => .attempt
  | error fault => exact .ite (fun _ => .attempt) fun _ => .throw_bind

theorem removeIfPresent_calls {p : Path} :
    CallsAlong w [] (removeIfPresent p : Stage (Watched σ) Unit) fun _ => True := by
  unfold removeIfPresent
  refine .quiet_bind .onDisk fun ending _ => ?_
  cases ending with
  | ok _ => exact .pure trivial
  | error fault => exact .ite (fun _ => .pure trivial) fun _ => .throw

theorem transfer_calls {source target : Path} {mode : ExecutableTransfer} :
    CallsAlong w [] (transfer source target mode : Stage (Watched σ) Unit) fun _ => True := by
  unfold transfer
  cases mode with
  | copy => exact .quiet_bind .report fun _ _ => .attempt
  | move => exact .quiet_bind .report fun _ _ => .attempt

theorem prunePlugins_calls {folder : Path} {svgStem : String} {names : List EntryName} :
    CallsAlong w [] (prunePlugins folder svgStem names : Stage (Watched σ) Unit)
      fun _ => True := by
  induction names with
  | nil => exact .pure trivial
  | cons name rest ih =>
      rw [prunePlugins]
      exact .ite (fun _ => .quiet_bind .report fun _ _ => .quiet_bind .attempt fun _ _ => ih)
        fun _ => ih

theorem pruneImageFormats_calls {listing : Disk.ListingOrder} {folder : Path} {svgStem : String}
    {imageFormats : ImageFormats} :
    CallsAlong w [] (pruneImageFormats listing folder svgStem imageFormats :
      Stage (Watched σ) Unit) fun _ => True := by
  unfold pruneImageFormats
  refine .quiet_bind .disk fun _ _ => .ite (fun _ => ?_) fun _ => .report
  cases imageFormats with
  | removeAll => exact .attempt
  | keepSvg => exact .quiet_bind .attempt fun _ _ => prunePlugins_calls

theorem artifact_calls {p : Path} :
    CallsAlong w [] (artifact p : Stage (Watched σ) Artifact) fun _ => True := by
  unfold artifact
  exact .quiet_bind .attempt fun _ _ => .quiet_bind .attempt fun _ _ => .pure trivial

theorem assemble_calls {packaging : Packaging} {buildFolder archive : Path} :
    CallsAlong w
      [packaging.deploy (packaging.executable applicationStem) pipeline.job.policy.imageFormats
        w.cwd, packaging.compress archive ["."] w.cwd]
      (pipeline.watched.assemble packaging buildFolder archive) fun _ => True := by
  unfold assemble
  refine .quiet_bind .cwd fun cwd hcwd => ?_
  subst hcwd
  exact .quiet_bind transfer_calls fun _ _ => .quiet_bind .report fun _ _ => .call_bind <|
    .quiet_bind pruneImageFormats_calls fun _ _ => .quiet_bind removeIfPresent_calls fun _ _ =>
    .call

/-- Only compressed symbols take a call of their own. -/
theorem publishSymbols_calls {packaging : Packaging} {source base root : Path} :
    CallsAlong w
      (if pipeline.job.policy.debugSymbols = .compress then
        [packaging.compress ((base.addExtension "pdb").addExtension packaging.extension)
          [source.text] root] else [])
      (pipeline.watched.publishSymbols packaging source base root) fun _ => True := by
  unfold publishSymbols
  dsimp only [watched]
  cases pipeline.job.policy.debugSymbols with
  | compress =>
      exact .quiet_bind removeIfPresent_calls fun _ _ => .call_bind artifact_calls
  | rename => exact .quiet_bind .attempt fun _ _ => artifact_calls

/-! ### The compilers of a build -/

/-- The program that a compiler selector names on a disk, with its path. -/
def compilerOn (pipeline : Pipeline σ) (disk : Node) (cwd : Path) (setting : String)
    (selector : Option String) : Except Failure (String × Path) :=
  Toolchain.resolve disk pipeline.host.folder pipeline.host.home pipeline.searchPath cwd setting
    selector

/-- The compilers that a pipeline's selectors name on a disk, the C compiler first. -/
def compilersOn (pipeline : Pipeline σ) (disk : Node) (cwd : Path) :
    Except Failure Toolchain.Compilers :=
  match pipeline.compilerOn disk cwd Setting.cc pipeline.job.compilers.c with
  | .error failure => .error failure
  | .ok (_, cc) =>
    match pipeline.compilerOn disk cwd Setting.cxx pipeline.job.compilers.cxx with
    | .error failure => .error failure
    | .ok (_, cxx) => .ok ⟨cc, cxx⟩

theorem resolveCompiler_runs {P : Assertion σ} {disk : Node} {setting : String}
    {selector : Option String} :
    Runs w (fun d m => d = disk ∧ P d m) (pipeline.resolveCompiler setting selector)
      (fun path d m =>
        (∃ program, pipeline.compilerOn disk w.cwd setting selector = .ok (program, path)) ∧
          d = disk ∧ P d m)
      (fun failure d m =>
        pipeline.compilerOn disk w.cwd setting selector = .error failure ∧ d = disk ∧ P d m) := by
  unfold resolveCompiler
  refine .bind .disk fun a => .of_fact (fun d m h => h.1.trans h.2.1) fun ha => ?_
  refine .bind .cwd fun cwd => .assuming fun hcwd => ?_
  subst ha hcwd
  unfold compilerOn
  dsimp only
  cases Toolchain.resolve a pipeline.host.folder pipeline.host.home pipeline.searchPath w.cwd
      setting selector with
  | error failure => exact .throw fun _ _ h => ⟨rfl, h.2⟩
  | ok found =>
      obtain ⟨program, path⟩ := found
      exact .bind .report fun _ => .pure fun _ _ h => ⟨⟨program, rfl⟩, h.2⟩

/-- Resolving the compilers looks at the disk and leaves it and the memory alone. -/
theorem resolveCompilers_runs {P : Assertion σ} {disk : Node} :
    Runs w (fun d m => d = disk ∧ P d m) pipeline.resolveCompilers
      (fun compilers d m => pipeline.compilersOn disk w.cwd = .ok compilers ∧ d = disk ∧ P d m)
      (fun failure d m => pipeline.compilersOn disk w.cwd = .error failure ∧ d = disk ∧ P d m) := by
  unfold resolveCompilers compilersOn
  refine .bind (resolveCompiler_runs.weaken (fun _ _ h => h) (fun _ _ _ h => h)
    fun failure d m h => ⟨by rw [h.1], h.2⟩) fun cc => .assuming fun hcc => ?_
  obtain ⟨_, hcc⟩ := hcc
  refine .bind (resolveCompiler_runs.weaken (fun _ _ h => h) (fun _ _ _ h => h)
    fun failure d m h => ⟨by rw [hcc, h.1], h.2⟩) fun cxx => .assuming fun hcxx => ?_
  obtain ⟨_, hcxx⟩ := hcxx
  exact .pure fun _ _ h => ⟨by rw [hcc, hcxx], h⟩

/-! ### Whole stages -/

theorem configureAndCompile_calls {compilers : Toolchain.Compilers}
    (hcwd : w.cwd.isAbsolute = true) :
    CallsAlong w (pipeline.job.buildPlan w.cwd compilers)
      (pipeline.watched.configureAndCompile compilers) fun _ => True := by
  unfold configureAndCompile buildFolder
  refine .quiet_bind .path fun folder hf => .quiet_bind .attempt fun _ _ =>
    .quiet_bind .report fun _ _ => .within <| .quiet_bind .cwd fun cwd hc => ?_
  -- The folder is absolute already, so entering it is not seen from the current one again.
  have hc : cwd = w.cwd / pipeline.job.buildFolder := by
    rw [hc, hf]
    exact Workspace.cwd_inside_path hcwd _
  obtain rfl := hc.symm
  exact .call_bind <| .quiet_bind .report fun _ _ => .call_bind .report

theorem buildWith_calls {compilers : Toolchain.Compilers} (hcwd : w.cwd.isAbsolute = true) :
    CallsAlong w (pipeline.job.buildPlan w.cwd compilers) (pipeline.watched.buildWith compilers)
      fun _ => True := by
  unfold buildWith
  exact .ite (fun _ => .quiet_bind disableHeaders_calls fun _ _ => configureAndCompile_calls hcwd)
    fun _ => configureAndCompile_calls hcwd

theorem test_calls (hcwd : w.cwd.isAbsolute = true) :
    CallsAlong w (pipeline.job.testPlan w.cwd) pipeline.watched.test fun _ => True := by
  unfold test
  refine .quiet_bind existingBuildFolder_calls fun folder hf => .within <|
    .quiet_bind .report fun _ _ => .quiet_bind .cwd fun cwd hc => ?_
  have hc : cwd = w.cwd / pipeline.job.buildFolder := by
    rw [hc, hf]
    exact Workspace.cwd_inside_path hcwd _
  obtain rfl := hc.symm
  obtain rfl := hf.symm
  exact .call

/-- What the deployment tool is called with on Windows. -/
theorem deploy_windows (executable : String) (imageFormats : ImageFormats) (folder : Path) :
    Packaging.windows.deploy executable imageFormats folder =
      { program := "windeployqt.exe"
        args := [executable, "--no-compiler-runtime", "--no-angle", "--no-opengl-sw"] ++
          if imageFormats = .removeAll then ["--no-svg"] else []
        folder
        env := [] } := by
  cases imageFormats <;> rfl

/-- What the compressing tool is called with on Windows. -/
theorem compress_windows (archive : Path) (inputs : List String) (folder : Path) :
    Packaging.windows.compress archive inputs folder =
      { program := "7z", args := ["a", "-mx=3", archive.text] ++ inputs, folder, env := [] } := rfl

/-- The literal plan of an archive run, in the words of the packaging. -/
theorem archivePlan_eq (job : Job) (root : Path) :
    job.archivePlan root =
      [Packaging.windows.deploy "exotracker-qt.exe" job.policy.imageFormats (root / "archive-root"),
        Packaging.windows.compress ((root / job.archiveName).addExtension "7z") ["."]
          (root / "archive-root")] ++
      (if job.policy.debugSymbols = .compress then
        [Packaging.windows.compress
          (((root / job.archiveName).addExtension "pdb").addExtension "7z")
          [(root / job.buildFolder / "exotracker-qt.pdb").text] root] else []) := by
  have happlication : ∀ text : String, text ++ "." ++ "7z" = text ++ ".7z" := fun text => by
    rw [String.append_assoc]
    rfl
  have hsymbols : ∀ text : String, text ++ "." ++ "pdb" ++ "." ++ "7z" = text ++ ".pdb.7z" :=
    fun text => by
      simp only [String.append_assoc]
      rfl
  simp only [deploy_windows, compress_windows, Path.addExtension, hsymbols, happlication]
  rfl

/-- Making a release calls the two tools of its packaging, whatever the packaging is. -/
theorem archive_calls_plan {packaging : Packaging} (hcwd : w.cwd.isAbsolute = true) :
    CallsAlong w (packaging.plan pipeline.job w.cwd) (pipeline.watched.archive packaging)
      fun _ => True := by
  have hstaging : (w.inside (w.path ⟨stagingFolder⟩)).cwd = w.cwd / "archive-root" :=
    Workspace.cwd_inside_path hcwd _
  unfold archive applicationStem
  refine .quiet_bind .cwd fun root hr => .quiet_bind existingBuildFolder_calls fun folder hf =>
    .quiet_bind .path fun base hb => .quiet_bind .report fun _ _ =>
    .quiet_bind .path fun staging hs => .quiet_bind recreateFolder_calls fun _ _ => ?_
  obtain rfl := hr.symm
  obtain rfl := hf.symm
  obtain rfl := hb.symm
  obtain rfl := hs.symm
  -- The plan is split where the stage leaves the staging folder.
  refine .bind (.within (hstaging ▸ assemble_calls)) fun _ _ => ?_
  refine .quiet_bind artifact_calls fun application _ => .quiet_bind .report fun _ _ => ?_
  cases packaging.symbols "exotracker-qt" with
  | none => exact .pure trivial
  | some name =>
      exact .bind_quiet publishSymbols_calls fun _ _ => .quiet_bind .report fun _ _ => .pure trivial

theorem archive_calls (hcwd : w.cwd.isAbsolute = true) :
    CallsAlong w (pipeline.job.archivePlan w.cwd) (pipeline.watched.archive .windows)
      fun _ => True := by
  rw [archivePlan_eq]
  exact archive_calls_plan hcwd

/-! ### Every stage follows its plan -/

/-- What can be said of the calls of the stages before any of them runs. The plans depend on the
job, on the current folder and, for a build, on the compilers that the disk has at the start. -/
structure FollowsPlans (pipeline : Pipeline σ) (s : Session σ) : Prop where
  build : ∀ compilers,
    pipeline.compilersOn s.bench.disk s.workspace.cwd = .ok compilers →
      Follows (pipeline.job.buildPlan s.workspace.cwd compilers) (pipeline.watched.build s.watched)
  build_without_compilers : ∀ failure,
    pipeline.compilersOn s.bench.disk s.workspace.cwd = .error failure →
      ∃ t, pipeline.watched.build s.watched = .error failure t ∧ t.bench.memory.seen = []
  test : Follows (pipeline.job.testPlan s.workspace.cwd) (pipeline.watched.test s.watched)
  archive : Follows (pipeline.job.archivePlan s.workspace.cwd)
    (pipeline.watched.archive .windows s.watched)

/-- A build that finds its compilers follows the plan with them, and one that does not makes no
call. -/
theorem build_runs {s : Session σ} (hcwd : s.workspace.cwd.isAbsolute = true) :
    Runs s.workspace (fun d m => d = s.bench.disk ∧ m.seen = []) pipeline.watched.build
      (fun _ _ m => ∃ compilers,
        pipeline.compilersOn s.bench.disk s.workspace.cwd = .ok compilers ∧
          Completes (pipeline.job.buildPlan s.workspace.cwd compilers) m.seen)
      (fun failure _ m => match pipeline.compilersOn s.bench.disk s.workspace.cwd with
        | .ok compilers => StopsIn (pipeline.job.buildPlan s.workspace.cwd compilers) failure m.seen
        | .error cause => failure = cause ∧ m.seen = []) := by
  rw [build_eq]
  refine .bind (resolveCompilers_runs.weaken (fun _ _ h => h) (fun _ _ _ h => h)
      ?_) fun compilers => .assuming fun h => ?_
  · intro failure d m h
    obtain ⟨hnone, -, hseen⟩ := h
    change pipeline.compilersOn s.bench.disk s.workspace.cwd = .error failure at hnone
    rw [hnone]
    exact ⟨rfl, hseen⟩
  · change pipeline.compilersOn s.bench.disk s.workspace.cwd = .ok compilers at h
    rw [h]
    refine (buildWith_calls hcwd []).weaken (fun _ _ h => h.2) ?_ ?_
    · intro _ d m hmade
      obtain ⟨-, made, hmade, hseen⟩ := hmade
      exact ⟨compilers, rfl, by rwa [hseen, List.nil_append]⟩
    · intro failure d m hmade
      obtain ⟨made, hmade, hseen⟩ := hmade
      rwa [hseen, List.nil_append]

theorem build_follows {s : Session σ} {compilers : Toolchain.Compilers}
    (hcwd : s.workspace.cwd.isAbsolute = true)
    (h : pipeline.compilersOn s.bench.disk s.workspace.cwd = .ok compilers) :
    Follows (pipeline.job.buildPlan s.workspace.cwd compilers)
      (pipeline.watched.build s.watched) := by
  refine Follows.of_runs ((build_runs hcwd).weaken (fun _ _ h => h) ?_ ?_) ⟨rfl, rfl⟩
  · intro _ d m hmade
    obtain ⟨found, hfound, hmade⟩ := hmade
    rw [h] at hfound
    cases hfound
    exact hmade
  · intro failure d m hmade
    rw [h] at hmade
    exact hmade

theorem build_of_compilersOn_error {s : Session σ} {failure : Failure}
    (hcwd : s.workspace.cwd.isAbsolute = true)
    (h : pipeline.compilersOn s.bench.disk s.workspace.cwd = .error failure) :
    ∃ t, pipeline.watched.build s.watched = .error failure t ∧ t.bench.memory.seen = [] := by
  have hruns : Runs _ _ pipeline.watched.build _ _ := build_runs hcwd
  have hrun := hruns.ending s.watched rfl ⟨rfl, rfl⟩
  cases hending : pipeline.watched.build s.watched with
  | ok a t =>
      rw [hending] at hrun
      obtain ⟨-, compilers, hfound, -⟩ := hrun
      rw [h] at hfound
      cases hfound
  | error cause t =>
      rw [hending] at hrun
      unfold Session.Meets at hrun
      rw [h] at hrun
      obtain ⟨-, rfl, hseen⟩ := hrun
      exact ⟨t, rfl, hseen⟩

/-- **Every stage follows its plan.** Whatever is on the disk, whatever the tools do and wherever a
run stops, the calls of a build, of a test run and of making a release are a beginning of a plan
that is fixed before the first of them. A call is made only if all before it succeeded; if one
fails, its failure is that of the stage, and if the stage succeeds, the whole plan was made. -/
theorem followsPlans (pipeline : Pipeline σ) (s : Session σ)
    (hcwd : s.workspace.cwd.isAbsolute = true) : pipeline.FollowsPlans s where
  build _ h := build_follows hcwd h
  build_without_compilers _ h := build_of_compilersOn_error hcwd h
  test := .of_callsAlong (test_calls hcwd)
  archive := .of_callsAlong (archive_calls hcwd)

theorem followsPlans_of_failing_tool :
    PlainTools.session.workspace.cwd.isAbsolute = true ∧
      (PlainTools.pipeline (some "7z")).FollowsPlans PlainTools.session :=
  ⟨by decide, followsPlans _ _ (by decide)⟩

end Pipeline

end ReleasePipeline
