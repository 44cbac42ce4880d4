import ReleasePipeline.Proofs.Job.Complaints
import ReleasePipeline.Proofs.Stage.Refusals
import ReleasePipeline.Proofs.Stage.Reports

/-!
# ReleasePipeline.Proofs.CommandLine.Status

What the exit status of the program tells. It is zero exactly if the stage that was asked for ended
well, it is the code of the one child that failed if a status can carry that code, and one in every
other case. That a stage stops at its first failed call is known from `Stage.Reports`; here the
failure is followed on its way out, from the end of a child over the runner and the dispatch to the
status.

Children are taken as they come: `Children` may do anything to the disk and end in any way, and the
program's own runner is that of one kind of them (`Child.runner_eq`).
-/

namespace ReleasePipeline

/-! ### Children -/

/-- What becomes of a child: it cannot be started, exits with a code or is killed by a signal. -/
inductive ChildEnd where
  | notStarted (cause : Fault)
  | exited (code : Int)
  | killed
  deriving DecidableEq, Repr

/-- The failure that the end of a child is reported as, if it is one. -/
def ChildEnd.failure? (program : String) : ChildEnd → Option Failure
  | .notStarted cause => some (.spawnFailed program cause)
  | .exited code => if code = 0 then none else some (.toolFailed program (some code))
  | .killed => some (.toolFailed program none)

/-- The end of a child as the system reports it. -/
def ChildEnd.ofStatus : Status → ChildEnd
  | .code n => .exited n
  | .signal _ => .killed

/-- What children do when they are called. -/
abbrev Children (σ : Type) := ToolCall → Bench σ → ChildEnd × Bench σ

/-- The runner that has children carry out the calls. -/
def Children.runner (children : Children σ) : Runner σ := fun call bench =>
  match (children call bench).1.failure? call.program with
  | none => .ok () (children call bench).2
  | some failure => .error failure (children call bench).2

/-- The children that the program starts. -/
def Child.children (processFolder : Path) (env : Child.Environment) : Children σ :=
  fun call bench =>
    let bench := bench.report (.childStarted call.folder call.commandLine)
    match Child.start bench.disk processFolder env call with
    | .error cause => (.notStarted cause, bench)
    | .ok (program, script, folder) =>
      let status := Child.statusOf script.ending
      let disk :=
        Child.appendRecord bench.disk script.record (Child.recordLine env call program folder)
      (.ofStatus status, { bench with disk }.report (.childEnded call.program status))

/-- The program's runner reports what becomes of its children. -/
theorem Child.runner_eq (processFolder : Path) (env : Child.Environment) :
    (Child.runner processFolder env : Runner σ) = (Child.children processFolder env).runner := by
  funext call bench
  simp only [Child.runner, Children.runner, Child.children, bind, EStateM.bind, Bench.modify_eq,
    get, getThe, MonadStateOf.get, Stage.get_eq]
  cases Child.start (bench.report (.childStarted call.folder call.commandLine)).disk processFolder
      env call with
  | error cause => rfl
  | ok started =>
      obtain ⟨program, script, folder⟩ := started
      dsimp only
      cases Child.statusOf script.ending with
      | code n =>
          cases n with
          | zero => rfl
          | succ n => rfl
      | signal n => rfl

/-- A sighting of children at work shows how the child ended. -/
theorem Children.shows_iff {children : Children σ} {x : Sighting} :
    children.runner.Shows x ↔ ∃ bench : Bench σ, bench.disk = x.before ∧
      (children x.call bench).2.disk = x.after ∧
        x.failure = (children x.call bench).1.failure? x.call.program := by
  unfold Runner.Shows Children.runner
  constructor
  · rintro ⟨bench, after, hbefore, hafter, hrun⟩
    refine ⟨bench, hbefore, ?_⟩
    cases hfailure : x.failure with
    | none =>
        rw [hfailure] at hrun
        cases hend : (children x.call bench).1.failure? x.call.program with
        | none =>
            rw [hend] at hrun
            cases hrun
            exact ⟨hafter, rfl⟩
        | some failure =>
            rw [hend] at hrun
            cases hrun
    | some failure =>
        rw [hfailure] at hrun
        cases hend : (children x.call bench).1.failure? x.call.program with
        | none =>
            rw [hend] at hrun
            cases hrun
        | some cause =>
            rw [hend] at hrun
            cases hrun
            exact ⟨hafter, rfl⟩
  · obtain ⟨call, before, after, failure⟩ := x
    intro ⟨bench, hbefore, hafter, hfailure⟩
    obtain rfl : failure = (children call bench).1.failure? call.program := hfailure
    refine ⟨bench, (children call bench).2, hbefore, hafter, ?_⟩
    cases (children call bench).1.failure? call.program <;> rfl

/-! ### Failures of other kinds -/

/-- A failure that refuses the settings of a job. -/
def Failure.IsInvalidSetting (failure : Failure) : Prop :=
  ∃ setting value reason, failure = .invalidSetting setting value reason

namespace Job

/-- A part of reading a job fails only over a setting. -/
def ReadsSettings (x : Except Failure α) : Prop :=
  ∀ failure, x = .error failure → failure.IsInvalidSetting

theorem readsSettings_ofRawVariables (lookup : String → Option Bytes) :
    ReadsSettings (ofRawVariables lookup) := by
  intro failure h
  obtain ⟨setting, -, value, reason, -, rfl⟩ := exists_of_ofRawVariables_error h
  exact ⟨setting, value, reason, rfl⟩

end Job

theorem Workspace.open?_error {processFolder root : Path} {failure : Failure}
    (h : open? processFolder root = .error failure) :
    failure = .diskFailed "resolve" root .emptyPath := by
  unfold open? at h
  split at h
  · cases h
  · cases h
    rfl

/-! ### Exit statuses -/

namespace Failure

theorem exitStatus_le (failure : Failure) : failure.exitStatus ≤ 255 := by
  unfold exitStatus
  split
  · split <;> omega
  · omega

theorem exitStatus_of_code {program : String} {code : Int} (hlow : 1 ≤ code) (hhigh : code ≤ 255) :
    ((toolFailed program (some code)).exitStatus : Int) = code := by
  simp only [exitStatus, hlow, hhigh, and_self, if_true]
  omega

/-- Any failure but a tool's with a code that a status can carry gives one. -/
theorem exitStatus_eq_one {failure : Failure}
    (h : ∀ program code, failure = .toolFailed program (some code) → ¬(1 ≤ code ∧ code ≤ 255)) :
    failure.exitStatus = 1 := by
  unfold exitStatus
  split
  · exact if_neg (h _ _ rfl)
  · rfl

end Failure

namespace Stage

/-- What is made of the value of a stage has no part in whether it succeeds. -/
theorem succeeds_bind_pure (x : Stage σ α) (f : α → β) (s : Session σ) :
    succeeds (x >>= fun a => Pure.pure (f a)) s = succeeds x s := by
  cases hx : x s with
  | ok a t =>
      have hbind : (x >>= fun a => Pure.pure (f a)) s = .ok (f a) t := by
        change EStateM.bind x _ s = _
        rw [EStateM.bind, hx]
        rfl
      rw [succeeds, succeeds, hbind, hx]
  | error failure t =>
      have hbind : (x >>= fun a => Pure.pure (f a)) s = .error failure t := by
        change EStateM.bind x _ s = _
        rw [EStateM.bind, hx]
      rw [succeeds, succeeds, hbind, hx]

end Stage

/-- The bench with nothing seen yet. -/
def Bench.watched (bench : Bench σ) : Bench (Watched σ) :=
  ⟨bench.disk, bench.events, ⟨[], bench.memory⟩⟩

/-- What an exit status tells of a run, by the calls that were seen. Zero stands for success and for
nothing else. A call that fails with a code from 1 to 255 is the first to fail and the last of all,
and the status is its code; every other way to fail gives one. -/
structure StatusTells (runner : Runner σ) (succeeded : Prop) (seen : List Sighting)
    (status : Nat) : Prop where
  shows : ∀ x ∈ seen, runner.Shows x
  le : status ≤ 255
  zero_iff : status = 0 ↔ succeeded
  zero : status = 0 → ∀ x ∈ seen, x.failure = none
  code : ∀ done x rest program code, seen = done ++ x :: rest →
    x.failure = some (.toolFailed program (some code)) → 1 ≤ code → code ≤ 255 →
      (status : Int) = code ∧ (∀ y ∈ done, y.failure = none) ∧ rest = []
  one : status ≠ 0 → (∀ x ∈ seen, ∀ program code,
    x.failure = some (.toolFailed program (some code)) → ¬(1 ≤ code ∧ code ≤ 255)) → status = 1

namespace StatusTells

variable {runner : Runner σ} {succeeded : Prop} {seen : List Sighting}

theorem of_succeeded (h : Succeeded runner seen) (hsucceeded : succeeded) :
    StatusTells runner succeeded seen 0 where
  shows x hx := (h x hx).1
  le := Nat.zero_le _
  zero_iff := iff_of_true rfl hsucceeded
  zero _ x hx := (h x hx).2
  code done x rest program code hseen hx _ _ := by
    have hnone := (h x (by simp [hseen])).2
    rw [hx] at hnone
    cases hnone
  one hzero _ := absurd rfl hzero

theorem of_stopsWith {failure : Failure} (h : StopsWith runner failure seen)
    (hfailed : ¬succeeded) : StatusTells runner succeeded seen failure.exitStatus where
  shows := h.shows
  le := failure.exitStatus_le
  zero_iff := iff_of_false (Nat.ne_of_gt failure.exitStatus_pos) hfailed
  zero hzero := absurd hzero (Nat.ne_of_gt failure.exitStatus_pos)
  code done x rest program code hseen hx hlow hhigh := by
    obtain ⟨rfl, hdone, hrest⟩ := h.of_failed hseen hx
    exact ⟨Failure.exitStatus_of_code hlow hhigh, hdone, hrest⟩
  one _ hcodes := by
    refine Failure.exitStatus_eq_one ?_
    rintro program code rfl
    obtain ⟨x, hx, hfailure⟩ := h.exists_of_isToolReport rfl
    exact hcodes x hx program code hfailure

end StatusTells

namespace CommandLine

variable {context : Context} {lookup : String → Option Bytes} {runner : Runner σ}
  {stage : StageName} {bench : Bench σ}

/-! ### The status of a dispatched stage -/

/-- The pipeline that a job is run with. -/
def Context.pipeline (context : Context) (job : Job) (runner : Runner σ) : Pipeline σ :=
  ⟨job, context.host, context.searchPath, runner⟩

/-- The session that a stage is started in once its job is read. -/
def startOf (job : Job) (workspace : Workspace) (bench : Bench σ) : Session σ :=
  ⟨workspace, bench.report (.jobRead job.toText job.buildFolder job.archiveName)⟩

/-- Whether a stage ends with a value. -/
def EndsWell (pipeline : Pipeline σ) (system : String) (s : Session σ) : StageName → Prop
  | .build => Stage.succeeds pipeline.build s = true
  | .test => Stage.succeeds pipeline.test s = true
  | .archive => ∃ packaging, Packaging.ofSystem system = .ok packaging ∧
      Stage.succeeds (pipeline.archive packaging) s = true

/-- The stage that was asked for ends well: the job is read, its workspace is opened, and the stage
ends with a value. -/
def StageSucceeds (context : Context) (lookup : String → Option Bytes) (runner : Runner σ)
    (stage : StageName) (bench : Bench σ) : Prop :=
  ∃ job workspace, Job.ofRawVariables lookup = .ok job ∧
    Workspace.open? context.folder context.folder = .ok workspace ∧
      EndsWell (context.pipeline job runner) context.system (startOf job workspace bench) stage

/-- The calls of a dispatched stage, oldest first. -/
def callsSeen (context : Context) (lookup : String → Option Bytes) (runner : Runner σ)
    (stage : StageName) (bench : Bench σ) : List Sighting :=
  (dispatch context lookup runner.watched stage bench.watched).bench.memory.seen

theorem succeeds_runStage (pipeline : Pipeline σ) (system : String) (s : Session σ)
    (stage : StageName) :
    Stage.succeeds (runStage pipeline system stage) s = true ↔ EndsWell pipeline system s stage := by
  unfold EndsWell
  cases stage with
  | build => exact Bool.eq_iff_iff.mp (Stage.succeeds_bind_pure pipeline.build _ s)
  | test => exact Bool.eq_iff_iff.mp (Stage.succeeds_bind_pure pipeline.test _ s)
  | archive =>
      unfold runStage
      cases Packaging.ofSystem system with
      | ok packaging =>
          simp only [Except.ok.injEq, exists_eq_left']
          exact Bool.eq_iff_iff.mp (Stage.succeeds_bind_pure (pipeline.archive packaging) _ s)
      | error failure =>
          simp only [reduceCtorEq, false_and, exists_false, iff_false]
          exact Bool.false_ne_true

/-- A job that is read in a workspace that is opened is run. -/
theorem dispatch_of_job {job : Job} {workspace : Workspace}
    (hjob : Job.ofRawVariables lookup = .ok job)
    (hopen : Workspace.open? context.folder context.folder = .ok workspace) :
    dispatch context lookup runner stage bench =
      match runStage (context.pipeline job runner) context.system stage
          (startOf job workspace bench) with
      | .ok output s => ⟨.ok output, s.bench⟩
      | .error failure s => ⟨.error ⟨failure, false⟩, s.bench⟩ := by
  unfold dispatch
  rw [hjob]
  dsimp only
  rw [hopen]
  rfl

/-- A job that cannot be run fails without a failure of a tool. -/
theorem dispatch_cases (context : Context) (lookup : String → Option Bytes) (runner : Runner σ)
    (stage : StageName) (bench : Bench σ) :
    (∃ job workspace, Job.ofRawVariables lookup = .ok job ∧
      Workspace.open? context.folder context.folder = .ok workspace) ∨
    ∃ f, (dispatch context lookup runner stage bench).result = .error f ∧
      (dispatch context lookup runner stage bench).bench.memory = bench.memory ∧
        f.failure.isToolReport = false ∧ ¬StageSucceeds context lookup runner stage bench := by
  unfold dispatch
  cases hjob : Job.ofRawVariables lookup with
  | error failure =>
      obtain ⟨setting, value, reason, rfl⟩ := Job.readsSettings_ofRawVariables lookup failure hjob
      refine .inr ⟨_, rfl, rfl, rfl, ?_⟩
      rintro ⟨job, workspace, hread, -⟩
      rw [hjob] at hread
      cases hread
  | ok job =>
      dsimp only
      cases hopen : Workspace.open? context.folder context.folder with
      | error failure =>
          refine .inr ⟨_, rfl, rfl, ?_, ?_⟩
          · rw [Workspace.open?_error hopen]
            rfl
          · rintro ⟨other, workspace, -, hopened, -⟩
            rw [hopen] at hopened
            cases hopened
      | ok workspace => exact .inl ⟨job, workspace, rfl, rfl⟩

theorem exists_result_iff :
    (∃ output, (dispatch context lookup runner stage bench).result = .ok output) ↔
      StageSucceeds context lookup runner stage bench := by
  rcases dispatch_cases context lookup runner stage bench with
    ⟨job, workspace, hjob, hopen⟩ | ⟨f, hresult, -, -, hfails⟩
  · have hends : StageSucceeds context lookup runner stage bench ↔
        Stage.succeeds (runStage (context.pipeline job runner) context.system stage)
          (startOf job workspace bench) = true := by
      rw [succeeds_runStage, StageSucceeds, hjob, hopen]
      simp
    rw [hends, dispatch_of_job hjob hopen, Stage.succeeds]
    cases runStage (context.pipeline job runner) context.system stage
      (startOf job workspace bench) <;> simp
  · rw [hresult]
    exact iff_of_false nofun hfails

/-- Under watch, a dispatched stage reports what its tools report. -/
theorem dispatch_reports (context : Context) (lookup : String → Option Bytes) (stage : StageName)
    {bench : Bench (Watched σ)} (h : Succeeded runner bench.memory.seen) :
    match (dispatch context lookup runner.watched stage bench).result with
    | .ok _ => Succeeded runner
        (dispatch context lookup runner.watched stage bench).bench.memory.seen
    | .error f => StopsWith runner f.failure
        (dispatch context lookup runner.watched stage bench).bench.memory.seen := by
  rcases dispatch_cases context lookup runner.watched stage bench with
    ⟨job, workspace, hjob, hopen⟩ | ⟨f, hresult, hmemory, hown, -⟩
  · have hstage : Stage.Reports runner
        (runStage (context.pipeline job runner.watched) context.system stage) :=
      @Pipeline.runStage_reports σ (context.pipeline job runner) context.system stage
    have hends := (hstage workspace).ending (startOf job workspace bench) rfl h
    rw [dispatch_of_job hjob hopen]
    cases hrun : runStage (context.pipeline job runner.watched) context.system stage
        (startOf job workspace bench) with
    | ok output s =>
        rw [hrun] at hends
        exact hends.2
    | error failure s =>
        rw [hrun] at hends
        exact hends.2
  · rw [hresult, hmemory]
    exact .ofStage h hown

/-- What the status of a dispatched stage tells. -/
theorem dispatch_statusTells (context : Context) (lookup : String → Option Bytes)
    (runner : Runner σ) (stage : StageName) (bench : Bench σ) :
    StatusTells runner (StageSucceeds context lookup runner stage bench)
      (callsSeen context lookup runner stage bench)
      (exitStatus (dispatch context lookup runner stage bench).result) := by
  have hnone : Succeeded runner bench.watched.memory.seen := .nil
  have hreports := dispatch_reports context lookup stage hnone
  have hsame : (dispatch context lookup runner stage bench).result =
      (dispatch context lookup runner.watched stage bench.watched).result :=
    congrArg Dispatched.result (dispatch_unwatched context lookup runner stage bench.watched)
  rw [← exists_result_iff]
  cases hresult : (dispatch context lookup runner stage bench).result with
  | ok output =>
      rw [← hsame, hresult] at hreports
      exact .of_succeeded hreports ⟨output, rfl⟩
  | error f =>
      rw [← hsame, hresult] at hreports
      exact .of_stopsWith hreports nofun

/-! ### The status of the program -/

/-- What the exit status of the program tells when a stage is asked for. The calls are those of the
children that the program starts; the same holds with a runner of any other kind in their place, and
where that runs children, what is seen of a call shows how the child has ended. -/
structure ExitStatusTells (context : Context) (stage : StageName) : Prop where
  asked : Request.ofArguments [stage.word] = .run stage
  program : ∀ arguments disk, Request.ofArguments arguments = .run stage →
    let runner : Runner Unit := (Child.children context.folder context.env).runner
    let lookup := fun key => context.env.lookup key
    StatusTells runner (StageSucceeds context lookup runner stage ⟨disk, [], ()⟩)
      (callsSeen context lookup runner stage ⟨disk, [], ()⟩) (run context arguments disk).status
  dispatched : ∀ {σ : Type} (lookup : String → Option Bytes) (runner : Runner σ) (bench : Bench σ),
    StatusTells runner (StageSucceeds context lookup runner stage bench)
      (callsSeen context lookup runner stage bench)
      (exitStatus (dispatch context lookup runner stage bench).result)
  children : ∀ {σ : Type} (children : Children σ) (x : Sighting), children.runner.Shows x →
    ∃ bench : Bench σ, bench.disk = x.before ∧
      x.failure = (children x.call bench).1.failure? x.call.program

/-- **The exit status tells the truth.** Whatever the variables and the disk are and whatever the
children do, the program that is asked for a stage ends with zero exactly if that stage ended well,
with the code of the child that failed if a status can carry it, and with one if it failed in any
other way. -/
theorem exitStatusTells (context : Context) (stage : StageName) : ExitStatusTells context stage where
  asked := by cases stage <;> rfl
  program arguments disk h := by
    intro runner lookup
    have hstatus : (run context arguments disk).status = exitStatus (dispatch context lookup
        (Child.runner context.folder context.env) stage ⟨disk, [], ()⟩).result := by
      unfold run
      rw [h]
      dsimp only
      split <;> rfl
    rw [hstatus, Child.runner_eq]
    exact dispatch_statusTells context lookup runner stage ⟨disk, [], ()⟩
  dispatched lookup runner bench := dispatch_statusTells context lookup runner stage bench
  children children x h := by
    obtain ⟨bench, hbefore, -, hfailure⟩ := Children.shows_iff.mp h
    exact ⟨bench, hbefore, hfailure⟩

end CommandLine

end ReleasePipeline
