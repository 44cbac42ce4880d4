import ReleasePipeline.CommandLine.Run
import ReleasePipeline.Proofs.Stage.Endings
import ReleasePipeline.Proofs.Stage.Plan
import ReleasePipeline.Proofs.Stage.Unwatched

/-!
# ReleasePipeline.Proofs.Stage.Refusals

A job that cannot be run as it was asked for is refused before anything is done. Refusals are the
failures that tell a user to change the job or to build first: a malformed or missing variable, a
compiler that is not found, a build folder that is not there, a system without releases. They all
come out of a part of a stage that only looks (`Looks`), and what follows such a part can fail only
as the disk or a tool does (`FailsOnly`). So a run that ends in a refusal has called no tool and
left the disk as it was.
-/

namespace ReleasePipeline

/-- Whether a failure refuses the job, rather than telling what the disk or a tool did. -/
def Failure.isRefusal : Failure → Bool
  | .invalidSetting .. => true
  | .missingVariable .. => true
  | .compilerNotFound .. => true
  | .buildFolderMissing .. => true
  | .unsupportedSystem .. => true
  | .spawnFailed .. => false
  | .toolFailed .. => false
  | .diskFailed .. => false

/-- A runner whose failures are about the tools it runs. -/
def Runner.NeverRefuses (runner : Runner σ) : Prop :=
  runner.FailsOnly fun failure _ => failure.isRefusal = false

theorem Runner.NeverRefuses.watched {runner : Runner σ} (h : runner.NeverRefuses) :
    runner.watched.NeverRefuses := by
  intro call bench failure after hrun
  unfold Runner.watched at hrun
  cases hinner : runner call { bench with memory := bench.memory.inner } with
  | ok u inner =>
      rw [hinner] at hrun
      cases hrun
  | error cause inner =>
      rw [hinner] at hrun
      obtain ⟨rfl, -⟩ := EStateM.Result.error.inj hrun
      exact h call _ _ inner hinner

theorem Bench.modify_eq (change : Bench σ → Bench σ) (bench : Bench σ) :
    (modify change : EStateM Failure (Bench σ) PUnit) bench = .ok ⟨⟩ (change bench) := rfl

theorem Bench.disk_report (bench : Bench σ) (event : Event) :
    (bench.report event).disk = bench.disk := rfl

/-- A call of the program's own runner fails only where starting a child fails, or the child. -/
theorem Child.runner_error {processFolder : Path} {env : Child.Environment} {call : ToolCall}
    {bench after : Bench σ} {failure : Failure}
    (h : Child.runner processFolder env call bench = .error failure after) :
    (∃ cause, failure = .spawnFailed call.program cause) ∨
      ∃ code, failure = .toolFailed call.program code := by
  simp only [Child.runner, bind, EStateM.bind, Bench.modify_eq, get, getThe, MonadStateOf.get,
    Stage.get_eq, Bench.disk_report] at h
  cases hstart : Child.start bench.disk processFolder env call with
  | error cause =>
      rw [hstart] at h
      cases h
      exact .inl ⟨cause, rfl⟩
  | ok started =>
      obtain ⟨program, script, folder⟩ := started
      rw [hstart] at h
      cases hstatus : Child.statusOf script.ending with
      | code n =>
          cases n with
          | zero =>
              simp only [hstatus] at h
              cases h
          | succ n =>
              simp only [hstatus] at h
              cases h
              exact .inr ⟨_, rfl⟩
      | signal n =>
          simp only [hstatus] at h
          cases h
          exact .inr ⟨_, rfl⟩

theorem Child.runner_neverRefuses (processFolder : Path) (env : Child.Environment) :
    (Child.runner processFolder env : Runner σ).NeverRefuses := by
  intro call bench failure after hrun
  rcases Child.runner_error hrun with ⟨cause, rfl⟩ | ⟨code, rfl⟩ <;> rfl

namespace Stage

/-! ### Looking -/

theorem cwd_bind (f : Path → Stage σ α) (s : Session σ) :
    (Stage.cwd >>= f) s = f s.workspace.cwd s := rfl

/-- A part of a stage that looks around and changes nothing, whether it ends well or not. -/
def Looks (stage : Stage σ α) : Prop :=
  ∀ w disk memory, Runs w (fun d m => d = disk ∧ m = memory) stage
    (fun _ d m => d = disk ∧ m = memory) fun _ d m => d = disk ∧ m = memory

namespace Looks

theorem throw {failure : Failure} : Looks (MonadExcept.throw failure : Stage σ α) :=
  fun _ _ _ => .throw fun _ _ h => h

theorem cwd : Looks (Stage.cwd : Stage σ Path) :=
  fun _ _ _ => Runs.cwd.weaken (fun _ _ h => h) (fun _ _ _ h => h.2) fun _ _ _ h => h

end Looks

/-- A stage that has changed nothing when it refuses the job. -/
def RefusesFirst (stage : Stage σ α) : Prop :=
  ∀ w disk memory, Runs w (fun d m => d = disk ∧ m = memory) stage (fun _ _ _ => True)
    fun failure d m => failure.isRefusal = true → d = disk ∧ m = memory

namespace RefusesFirst

variable {x : Stage σ α} {f : α → Stage σ β}

theorem of_looks (hx : Looks x) : RefusesFirst x :=
  fun _ _ _ => (hx _ _ _).weaken (fun _ _ h => h) (fun _ _ _ _ => trivial) fun _ _ _ h _ => h

/-- What follows a part that may refuse must not refuse any more. -/
theorem bind (hx : RefusesFirst x)
    (hf : ∀ a, FailsOnly (fun failure _ => failure.isRefusal = false) (f a)) :
    RefusesFirst (x >>= f) := by
  refine fun w disk memory => (hx w disk memory).bind fun a => ?_
  refine (hf a w).weaken (fun _ _ h => h) (fun _ _ _ h => h) ?_
  intro failure d m hno hrefusal
  rw [hno] at hrefusal
  cases hrefusal

theorem look_bind (hx : Looks x) (hf : ∀ a, RefusesFirst (f a)) : RefusesFirst (x >>= f) := by
  refine fun w disk memory => Runs.bind ?_ fun a => hf a w disk memory
  exact (hx w disk memory).weaken (fun _ _ h => h) (fun _ _ _ h => h) fun _ _ _ h _ => h

end RefusesFirst

end Stage

/-- What is left of a run under watch in which nothing was done: no call was made, and the disk, the
workspace and the memory of the runner are those of the session it started from. -/
structure NothingDone (s : Session σ) (t : Session (Watched σ)) : Prop where
  no_call : t.bench.memory.seen = []
  disk : t.bench.disk = s.bench.disk
  memory : t.bench.memory.inner = s.bench.memory
  workspace : t.workspace = s.workspace

theorem Stage.RefusesFirst.nothingDone {stage : Stage (Watched σ) α} {s : Session σ}
    {t : Session (Watched σ)} {failure : Failure} (h : RefusesFirst stage)
    (hrun : stage s.watched = .error failure t) (hrefusal : failure.isRefusal = true) :
    NothingDone s t := by
  have hends := (h s.workspace s.bench.disk s.watched.bench.memory).ending s.watched rfl ⟨rfl, rfl⟩
  rw [hrun] at hends
  obtain ⟨hworkspace, hrest⟩ := hends
  obtain ⟨hdisk, hmemory⟩ := hrest hrefusal
  exact ⟨by rw [hmemory]; rfl, hdisk, by rw [hmemory]; rfl, hworkspace⟩

namespace Pipeline

open Stage

variable {pipeline : Pipeline σ} {packaging : Packaging} {s : Session σ}

/-! ### Finding the build folder -/

/-- The build folder is looked for where the job says, seen from the current folder. -/
theorem existingBuildFolder_eq (pipeline : Pipeline σ) (s : Session σ) :
    pipeline.existingBuildFolder s =
      if Disk.isFolder s.bench.disk (s.workspace.path ⟨pipeline.job.buildFolder⟩) then
        .ok (s.workspace.path ⟨pipeline.job.buildFolder⟩) s
      else .error (.buildFolderMissing (s.workspace.path ⟨pipeline.job.buildFolder⟩)) s := by
  unfold existingBuildFolder buildFolder
  simp only [Stage.path, Stage.disk, bind, EStateM.bind, get, getThe, MonadStateOf.get,
    Stage.get_eq, pure, EStateM.pure]
  split <;> rfl

theorem existingBuildFolder_bind (f : Path → Stage σ α) :
    (pipeline.existingBuildFolder >>= f) s =
      if Disk.isFolder s.bench.disk (s.workspace.path ⟨pipeline.job.buildFolder⟩) then
        f (s.workspace.path ⟨pipeline.job.buildFolder⟩) s
      else .error (.buildFolderMissing (s.workspace.path ⟨pipeline.job.buildFolder⟩)) s := by
  change EStateM.bind pipeline.existingBuildFolder f s = _
  unfold EStateM.bind
  rw [existingBuildFolder_eq]
  generalize s.workspace.path ⟨pipeline.job.buildFolder⟩ = folder
  cases Disk.isFolder s.bench.disk folder <;> rfl

/-- A test run without a build folder is refused on the spot. -/
theorem test_apply (pipeline : Pipeline σ) (s : Session σ) :
    pipeline.test s =
      if Disk.isFolder s.bench.disk (s.workspace.path ⟨pipeline.job.buildFolder⟩) then
        pipeline.testIn (s.workspace.path ⟨pipeline.job.buildFolder⟩) s
      else .error (.buildFolderMissing (s.workspace.path ⟨pipeline.job.buildFolder⟩)) s :=
  existingBuildFolder_bind _

/-- Making a release without a build folder is refused on the spot. -/
theorem archive_apply (pipeline : Pipeline σ) (packaging : Packaging) (s : Session σ) :
    pipeline.archive packaging s =
      if Disk.isFolder s.bench.disk (s.workspace.path ⟨pipeline.job.buildFolder⟩) then
        pipeline.archiveFrom packaging s.workspace.cwd
          (s.workspace.path ⟨pipeline.job.buildFolder⟩) s
      else .error (.buildFolderMissing (s.workspace.path ⟨pipeline.job.buildFolder⟩)) s := by
  rw [archive_eq, cwd_bind]
  exact existingBuildFolder_bind _

theorem existingBuildFolder_looks : Looks pipeline.existingBuildFolder := by
  intro w disk memory
  constructor
  rintro s rfl hs
  rw [existingBuildFolder_eq]
  generalize s.workspace.path ⟨pipeline.job.buildFolder⟩ = folder
  cases Disk.isFolder s.bench.disk folder <;> exact ⟨rfl, hs⟩

/-- A stage that starts in the build folder reports it as missing exactly if it is none. -/
theorem failure?_eq_missing_iff {stage : Stage σ α} {rest : Stage σ α} {folder missing : Path}
    (happly : stage s = if Disk.isFolder s.bench.disk folder then rest s
      else .error (.buildFolderMissing folder) s)
    (hrest : FailsOnly (fun failure _ => failure.isRefusal = false) rest) :
    failure? stage s = some (.buildFolderMissing missing) ↔
      missing = folder ∧ Disk.isFolder s.bench.disk folder = false := by
  unfold failure?
  rw [happly]
  cases Disk.isFolder s.bench.disk folder with
  | false => simp [eq_comm]
  | true =>
      simp only [if_true, Bool.true_eq_false, and_false, iff_false]
      cases hrun : rest s with
      | ok a t => exact nofun
      | error failure t =>
          rintro ⟨⟩
          cases hrest.of_error hrun

/-! ### The stages refuse first -/

variable (hrunner : pipeline.runner.NeverRefuses)

include hrunner

theorem build_refusesFirst : RefusesFirst pipeline.build := by
  rw [build_eq]
  refine .bind (.of_looks fun w disk memory => ?_) (buildWith_failsOnly (fun _ _ _ _ => rfl) hrunner)
  exact (resolveCompilers_runs (P := fun _ m => m = memory)).weaken (fun _ _ h => h)
    (fun _ _ _ h => h.2) fun _ _ _ h => h.2

theorem test_refusesFirst : RefusesFirst pipeline.test := by
  rw [test_eq]
  exact .bind (.of_looks existingBuildFolder_looks) (testIn_failsOnly (fun _ _ _ _ => rfl) hrunner)

theorem archive_refusesFirst : RefusesFirst (pipeline.archive packaging) := by
  rw [archive_eq]
  exact .look_bind .cwd fun root => .bind (.of_looks existingBuildFolder_looks)
    (archiveFrom_failsOnly (fun _ _ _ _ => rfl) hrunner root)

open CommandLine in
theorem runStage_refusesFirst (system : String) (stage : StageName) :
    RefusesFirst (runStage pipeline system stage) := by
  cases stage with
  | build => exact .bind (build_refusesFirst hrunner) fun _ => .pure
  | test => exact .bind (test_refusesFirst hrunner) fun _ => .pure
  | archive =>
      unfold runStage
      cases Packaging.ofSystem system with
      | ok packaging => exact .bind (archive_refusesFirst hrunner) fun _ => .pure
      | error failure => exact .of_looks .throw

end Pipeline

/-! ### The program refuses first -/

namespace CommandLine

variable {context : Context} {lookup : String → Option Bytes} {runner : Runner σ}
  {stage : StageName} {bench : Bench σ}

/-- A dispatch that refuses the job has changed nothing but the log. -/
theorem dispatch_refused {f : RunFailure} (hrunner : runner.NeverRefuses)
    (h : (dispatch context lookup runner stage bench).result = .error f)
    (hrefusal : f.failure.isRefusal = true) :
    (dispatch context lookup runner stage bench).bench.disk = bench.disk ∧
      (dispatch context lookup runner stage bench).bench.memory = bench.memory := by
  unfold dispatch at h ⊢
  cases hjob : Job.ofRawVariables lookup with
  | error failure => exact ⟨rfl, rfl⟩
  | ok job =>
      rw [hjob] at h
      dsimp only at h ⊢
      cases hopen : Workspace.open? context.folder context.folder with
      | error failure => exact ⟨rfl, rfl⟩
      | ok workspace =>
          rw [hopen] at h
          dsimp only at h ⊢
          -- The stage starts with the events of the job added, which no assertion is about.
          have hstage : Stage.RefusesFirst (runStage ⟨job, context.host, context.searchPath, runner⟩
            context.system stage) := Pipeline.runStage_refusesFirst hrunner context.system stage
          have hends := (hstage workspace bench.disk bench.memory).ending
            ⟨workspace, bench.report (.jobRead job.toText job.buildFolder job.archiveName)⟩ rfl
            ⟨rfl, rfl⟩
          split at h
          · cases h
          · rename_i failure t hrun
            rw [hrun] at hends
            cases h
            exact hends.2 hrefusal

end CommandLine

namespace Pipeline

open CommandLine

/-! ### Refusals change nothing -/

/-- What can be said of a refusal, whichever way the job is run: under watch, nothing was done. The
test run and the release report a missing build folder exactly if its path names no folder. -/
structure RefusesBeforeActing (pipeline : Pipeline σ) (packaging : Packaging) (s : Session σ) :
    Prop where
  build : ∀ failure t, pipeline.watched.build s.watched = .error failure t →
    failure.isRefusal = true → NothingDone s t
  test : ∀ failure t, pipeline.watched.test s.watched = .error failure t →
    failure.isRefusal = true → NothingDone s t
  archive : ∀ failure t, pipeline.watched.archive packaging s.watched = .error failure t →
    failure.isRefusal = true → NothingDone s t
  dispatch : ∀ context lookup stage f,
    let ended := dispatch context lookup pipeline.runner.watched stage s.watched.bench
    ended.result = .error f → f.failure.isRefusal = true →
      ended.bench.memory.seen = [] ∧ ended.bench.disk = s.bench.disk ∧
        ended.bench.memory.inner = s.bench.memory
  test_missing : ∀ folder, Stage.failure? pipeline.test s = some (.buildFolderMissing folder) ↔
    folder = s.workspace.cwd / pipeline.job.buildFolder ∧
      Disk.isFolder s.bench.disk (s.workspace.cwd / pipeline.job.buildFolder) = false
  archive_missing : ∀ folder,
    Stage.failure? (pipeline.archive packaging) s = some (.buildFolderMissing folder) ↔
      folder = s.workspace.cwd / pipeline.job.buildFolder ∧
        Disk.isFolder s.bench.disk (s.workspace.cwd / pipeline.job.buildFolder) = false

/-- **A refused job leaves everything as it was.** Whatever the disk, the variables and the search
path are, if a stage or the program that runs it ends in a refusal, then no tool was called, the
disk is the very same and the workspace is in the folder that it was in. -/
theorem refusesBeforeActing (pipeline : Pipeline σ) (packaging : Packaging) (s : Session σ)
    (hrunner : pipeline.runner.NeverRefuses) : pipeline.RefusesBeforeActing packaging s := by
  have hwatched : pipeline.watched.runner.NeverRefuses := hrunner.watched
  constructor
  case build => exact fun _ _ hrun => (build_refusesFirst hwatched).nothingDone hrun
  case test => exact fun _ _ hrun => (test_refusesFirst hwatched).nothingDone hrun
  case archive => exact fun _ _ hrun => (archive_refusesFirst hwatched).nothingDone hrun
  case dispatch =>
    intro context lookup stage f ended hresult hrefusal
    obtain ⟨hdisk, hmemory⟩ := dispatch_refused hwatched hresult hrefusal
    exact ⟨congrArg Watched.seen hmemory, hdisk, congrArg Watched.inner hmemory⟩
  case test_missing =>
    exact fun _ => failure?_eq_missing_iff (test_apply pipeline s)
      (testIn_failsOnly (fun _ _ _ _ => rfl) hrunner _)
  case archive_missing =>
    exact fun _ => failure?_eq_missing_iff (archive_apply pipeline packaging s)
      (archiveFrom_failsOnly (fun _ _ _ _ => rfl) hrunner _ _)

/-- With the runner of the program, on a project that has a build folder and a job that names no
compilers. -/
theorem refusesBeforeActing_of_children :
    let pipeline : Pipeline Unit :=
      { PlainTools.pipeline none with runner := Child.runner ⟨"/project"⟩ [] }
    pipeline.runner.NeverRefuses ∧ pipeline.RefusesBeforeActing .windows PlainTools.session ∧
      Stage.failure? pipeline.build PlainTools.session = some (.missingVariable "CC") :=
  ⟨Child.runner_neverRefuses _ _, refusesBeforeActing _ _ _ (Child.runner_neverRefuses _ _), rfl⟩

end Pipeline

end ReleasePipeline
