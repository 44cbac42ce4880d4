import ReleasePipeline.Proofs.Build.OneFolder
import ReleasePipeline.Proofs.Release.PlainTools
import ReleasePipeline.Proofs.Workspace.Nesting

/-!
# ReleasePipeline.Proofs.Workspace.Anchored

Nothing that a workspace hands out depends on the folder of the process. Its root is made absolute
once, when it is opened, and everything after that is seen from a current folder that is absolute
too: the root, a folder that was entered from an absolute one, or one that a guard goes back to.
Guards need not be dropped newest first for this (`Turn`), since any folder that a guard remembers
was current once.

From an absolute current folder the plans of the stages are absolute in all their parts
(`Packaging.CallsAbsolutely`), and so are the artifacts and the build folder that is reported as
missing.
-/

namespace ReleasePipeline

namespace Path

theorem isAbsolute_addExtension {p : Path} (extension : String) (h : p.isAbsolute = true) :
    (p.addExtension extension).isAbsolute = true := by
  unfold addExtension
  rw [String.append_assoc]
  exact isAbsolute_of_text_append h

end Path

/-! ### Histories with guards dropped in any order -/

namespace Visit

/-- The visit after dropping the live guard at a position, counted from the newest. -/
def drop (v : Visit σ) (n : Nat) : Visit σ :=
  match v.live[n]? with
  | some (guard, _) => ⟨Stage.sessionAfter (Stage.leave guard) v.session, v.live.eraseIdx n⟩
  | none => v

end Visit

/-- One turn of a history in which guards are dropped in any order. -/
inductive Turn (σ : Type) where
  | act (act : Act σ)
  /-- Drops a live guard, counted from the newest. -/
  | drop (n : Nat)

namespace Visit

/-- What a turn leaves. -/
def turn (v : Visit σ) : Turn σ → Visit σ
  | .act act => v.perform act
  | .drop n => v.drop n

/-- What a history of turns leaves. -/
def turnAll (v : Visit σ) (history : List (Turn σ)) : Visit σ :=
  history.foldl turn v

theorem root_perform (v : Visit σ) (act : Act σ) :
    (v.perform act).session.workspace.root = v.session.workspace.root := by
  cases act with
  | enter folder =>
      change (v.enter folder).session.workspace.root = _
      rcases enter_cases folder v.session with hok | herror
      · rw [enter_of_ok hok]
        rfl
      · rw [enter_of_error herror]
  | leave =>
      obtain ⟨s, live⟩ := v
      cases live <;> rfl
  | build pipeline =>
      exact congrArg Workspace.root (pipeline.build_goesBack.workspace_sessionAfter v.session)
  | test pipeline =>
      exact congrArg Workspace.root (pipeline.test_goesBack.workspace_sessionAfter v.session)
  | archive pipeline packaging =>
      exact congrArg Workspace.root
        ((pipeline.archive_goesBack packaging).workspace_sessionAfter v.session)
  | disturb bench => rfl

/-- A visit whose root is absolute, and every folder it can come to without entering another. -/
structure Anchored (v : Visit σ) : Prop where
  root : v.session.workspace.root.isAbsolute = true
  absolute : Absolute v

theorem Anchored.turn {v : Visit σ} (h : Anchored v) (turn : Turn σ) : Anchored (v.turn turn) := by
  cases turn with
  | act act =>
      refine ⟨?_, h.absolute.perform act⟩
      change (v.perform act).session.workspace.root.isAbsolute = true
      rw [root_perform]
      exact h.root
  | drop n =>
      change Anchored (v.drop n)
      unfold drop
      cases hguard : v.live[n]? with
      | none => exact h
      | some entry =>
          -- The folder that the guard goes back to was current when the guard was made.
          refine ⟨h.root, h.absolute.previous entry (List.mem_of_getElem? hguard), ?_⟩
          intro other hother
          exact h.absolute.previous other (List.mem_of_mem_eraseIdx hother)

theorem Anchored.turnAll {v : Visit σ} (h : Anchored v) (history : List (Turn σ)) :
    Anchored (v.turnAll history) := by
  induction history generalizing v with
  | nil => exact h
  | cons turn rest ih => exact ih (h.turn turn)

/-- A workspace is anchored once it is opened. -/
theorem Anchored.of_open {processFolder root : Path} {workspace : Workspace}
    (hprocess : processFolder.isAbsolute = true)
    (hopen : Workspace.open? processFolder root = .ok workspace) (bench : Bench σ) :
    Anchored (Visit.mk ⟨workspace, bench⟩ []) := by
  obtain ⟨hroot, hcwd⟩ := isAbsolute_of_open hprocess hopen
  exact ⟨hroot, hcwd, fun entry hentry => absurd hentry List.not_mem_nil⟩

end Visit

/-! ### Calls -/

/-- A call that a packaging makes from absolute paths. The folder of the call is absolute, so is the
archive, and so is the input, if it is not the folder of the call itself. -/
inductive Packaging.CallsAbsolutely (packaging : Packaging) : ToolCall → Prop
  | deploy {executable : String} {imageFormats : ImageFormats} {folder : Path}
      (hfolder : folder.isAbsolute = true) :
      CallsAbsolutely packaging (packaging.deploy executable imageFormats folder)
  | compressHere {archive folder : Path} (harchive : archive.isAbsolute = true)
      (hfolder : folder.isAbsolute = true) :
      CallsAbsolutely packaging (packaging.compress archive ["."] folder)
  | compressFile {archive source folder : Path} (harchive : archive.isAbsolute = true)
      (hsource : source.isAbsolute = true) (hfolder : folder.isAbsolute = true) :
      CallsAbsolutely packaging (packaging.compress archive [source.text] folder)

namespace Packaging

theorem callsAbsolutely_of_mem_plan {packaging : Packaging} {job : Job} {root : Path}
    {call : ToolCall} (hroot : root.isAbsolute = true) (h : call ∈ packaging.plan job root) :
    packaging.CallsAbsolutely call := by
  have hin : ∀ name : String, (root / name).isAbsolute = true := fun name =>
    Path.isAbsolute_join ⟨name⟩ hroot
  have hbase : (root / job.archiveName).isAbsolute = true := hin _
  unfold plan at h
  rcases List.mem_append.mp h with h | h
  · rcases List.mem_cons.mp h with rfl | h
    · exact .deploy (hin _)
    · rw [List.mem_singleton.mp h]
      exact .compressHere (Path.isAbsolute_addExtension _ hbase) (hin _)
  · cases hsymbols : packaging.symbols "exotracker-qt" with
    | none =>
        rw [hsymbols] at h
        cases h
    | some name =>
        rw [hsymbols] at h
        dsimp only at h
        split at h
        · rw [List.mem_singleton.mp h]
          exact .compressFile
            (Path.isAbsolute_addExtension _ (Path.isAbsolute_addExtension _ hbase))
            (Path.isAbsolute_join ⟨name⟩ (hin _)) hroot
        · cases h

end Packaging

/-- What the compressing tool on Windows is given: an absolute archive, and as its input either the
folder that it runs in or an absolute path. -/
def PacksAbsolutely (call : ToolCall) : Prop :=
  (∃ archive, call.args[2]? = some archive ∧ (Path.mk archive).isAbsolute = true) ∧
    (call.args.drop 3 = ["."] ∨
      ∃ source, call.args.drop 3 = [source] ∧ (Path.mk source).isAbsolute = true)

theorem Packaging.CallsAbsolutely.windows {call : ToolCall} (h : windows.CallsAbsolutely call) :
    call.folder.isAbsolute = true ∧ (call.program = "7z" → PacksAbsolutely call) := by
  cases h with
  | deploy hfolder =>
      rw [Pipeline.deploy_windows]
      exact ⟨hfolder, fun hprogram => absurd hprogram (show "windeployqt.exe" ≠ "7z" by decide)⟩
  | compressHere harchive hfolder =>
      exact ⟨hfolder, fun _ => ⟨⟨_, rfl, harchive⟩, .inl rfl⟩⟩
  | compressFile harchive hsource hfolder =>
      exact ⟨hfolder, fun _ => ⟨⟨_, rfl, harchive⟩, .inr ⟨_, rfl, hsource⟩⟩⟩

namespace Pipeline

open Stage

variable {pipeline : Pipeline σ} {packaging : Packaging} {w : Workspace}

/-! ### Artifacts -/

theorem anyFailure_coversDisk : Failure.CoversDisk fun _ (_ : σ) => True :=
  fun _ _ _ _ => trivial

theorem anyFailure_runner (runner : Runner σ) : runner.FailsOnly fun _ _ => True :=
  fun _ _ _ _ _ => trivial

theorem artifact_path {p : Path} :
    Runs w (fun _ _ => True) (artifact p : Stage σ Artifact) (fun a _ _ => a.path = p)
      fun _ _ _ => True := by
  unfold artifact
  exact (FailsOnly.attempt (fun _ _ => trivial) w).bind fun _ =>
    (FailsOnly.attempt (fun _ _ => trivial) w).bind fun _ => .pure fun _ _ _ => rfl

theorem publishApplication_path {folder base : Path} :
    Runs w (fun _ _ => True) (pipeline.publishApplication packaging folder base)
      (fun a _ _ => a.path = base.addExtension packaging.extension) fun _ _ _ => True := by
  unfold publishApplication
  refine (FailsOnly.report w).bind fun _ => (FailsOnly.path w).bind fun _ =>
    (recreateFolder_failsOnly anyFailure_coversDisk _ w).bind fun _ => ?_
  exact (FailsOnly.within (fun _ _ => trivial)
    (assemble_failsOnly anyFailure_coversDisk (anyFailure_runner _) _ _) w).bind fun _ =>
      artifact_path.bind fun application => Runs.report.bind fun _ => .pure fun _ _ h => h

theorem publishSymbols_path {source base root : Path} (hbase : base.isAbsolute = true) :
    Runs w (fun _ _ => True) (pipeline.publishSymbols packaging source base root)
      (fun a _ _ => a.path.isAbsolute = true) fun _ _ _ => True := by
  have hpublished : (base.addExtension "pdb").isAbsolute = true :=
    Path.isAbsolute_addExtension _ hbase
  have hartifact : ∀ {p : Path}, p.isAbsolute = true → Runs w (fun _ _ => True)
      (artifact p : Stage σ Artifact) (fun a _ _ => a.path.isAbsolute = true) fun _ _ _ => True := by
    intro p hp
    refine artifact_path.weaken (fun _ _ h => h) ?_ fun _ _ _ h => h
    rintro a d m rfl
    exact hp
  unfold publishSymbols
  dsimp only
  cases pipeline.job.policy.debugSymbols with
  | compress =>
      exact (removeIfPresent_failsOnly anyFailure_coversDisk _ w).bind fun _ =>
        (FailsOnly.call (anyFailure_runner _ _) w).bind fun _ =>
          hartifact (Path.isAbsolute_addExtension _ hpublished)
  | rename => exact (FailsOnly.attempt (fun _ _ => trivial) w).bind fun _ => hartifact hpublished

/-- A release whose artifacts are at absolute paths. -/
def PublishesAbsolutely (release : Release) : Prop :=
  release.application.path.isAbsolute = true ∧
    ∀ symbols, release.symbols = some symbols → symbols.path.isAbsolute = true

theorem publishBeside_path {folder base root : Path} {application : Artifact}
    (hbase : base.isAbsolute = true) (happlication : application.path.isAbsolute = true) :
    Runs w (fun _ _ => True) (pipeline.publishBeside packaging folder base root application)
      (fun release _ _ => PublishesAbsolutely release) fun _ _ _ => True := by
  unfold publishBeside
  cases packaging.symbols applicationStem with
  | none => exact .pure fun _ _ _ => ⟨happlication, nofun⟩
  | some name =>
      refine (publishSymbols_path hbase).bind fun symbols => Runs.report.bind fun _ => .pure ?_
      intro d m hsymbols
      refine ⟨happlication, ?_⟩
      rintro _ ⟨⟩
      exact hsymbols

theorem archive_path (hcwd : w.cwd.isAbsolute = true) :
    Runs w (fun _ _ => True) (pipeline.archive packaging)
      (fun release _ _ => PublishesAbsolutely release) fun _ _ _ => True := by
  rw [archive_eq]
  refine (FailsOnly.cwd w).bind fun root =>
    (existingBuildFolder_failsOnly (fun _ _ => trivial) w).bind fun folder => ?_
  unfold archiveFrom
  refine Runs.path.bind fun base => .assuming fun hbase => publishApplication_path.bind fun a => ?_
  have hbase : base.isAbsolute = true := hbase ▸ Path.isAbsolute_join _ hcwd
  refine .of_fact (fun d m h => h) fun hpath => ?_
  have happlication : a.path.isAbsolute = true := by
    rw [hpath]
    exact Path.isAbsolute_addExtension _ hbase
  exact (publishBeside_path hbase happlication).weaken (fun _ _ _ => trivial) (fun _ _ _ h => h)
    fun _ _ _ h => h

/-! ### Missing build folders -/

/-- A stage that reports a build folder as missing by an absolute path, unless that is what a tool
has reported. -/
def MissesAbsolutely (stage : Stage (Watched σ) α) (s : Session σ) : Prop :=
  ∀ folder t, stage s.watched = .error (.buildFolderMissing folder) t →
    folder.isAbsolute = true ∨
      ∃ x ∈ t.bench.memory.seen, x.failure = some (.buildFolderMissing folder)

theorem missesAbsolutely_of_apply {stage rest : Stage (Watched σ) α} {s : Session σ} {folder : Path}
    (happly : stage s.watched = if Disk.isFolder s.watched.bench.disk folder then rest s.watched
      else .error (.buildFolderMissing folder) s.watched)
    (hrest : FailsOnly OfTools rest) (hfolder : folder.isAbsolute = true) :
    MissesAbsolutely stage s := by
  intro missing t hrun
  cases hthere : Disk.isFolder s.watched.bench.disk folder with
  | true => exact .inr (ofTools_of_isFolder happly hrest hthere hrun)
  | false =>
      rw [happly, hthere] at hrun
      cases hrun
      exact .inl hfolder

theorem build_missesAbsolutely (pipeline : Pipeline σ) (s : Session σ) :
    MissesAbsolutely pipeline.watched.build s := by
  intro missing t hrun
  have hbuild : FailsOnly OfTools pipeline.watched.build :=
    build_failsOnly OfTools.coversDisk pipeline.runner.watched_ofTools
      (fun _ _ h => by obtain ⟨_, h⟩ := h; cases h) fun _ _ _ _ h => by obtain ⟨_, h⟩ := h; cases h
  exact .inr (hbuild.of_error hrun ⟨missing, rfl⟩)

theorem test_missesAbsolutely (pipeline : Pipeline σ) {s : Session σ}
    (hcwd : s.workspace.cwd.isAbsolute = true) : MissesAbsolutely pipeline.watched.test s :=
  missesAbsolutely_of_apply (pipeline.watched.test_apply s.watched)
    (testIn_failsOnly OfTools.coversDisk pipeline.runner.watched_ofTools _)
    (Path.isAbsolute_join _ hcwd)

theorem archive_missesAbsolutely (pipeline : Pipeline σ) (packaging : Packaging) {s : Session σ}
    (hcwd : s.workspace.cwd.isAbsolute = true) :
    MissesAbsolutely (pipeline.watched.archive packaging) s :=
  missesAbsolutely_of_apply (pipeline.watched.archive_apply packaging s.watched)
    (archiveFrom_failsOnly OfTools.coversDisk pipeline.runner.watched_ofTools _ _)
    (Path.isAbsolute_join _ hcwd)

end Pipeline

/-! ### The main statement -/

namespace Visit

open Stage

/-- What a visit hands out is absolute, whoever looks at it from whatever folder: its root, its
current folder and every path seen from there; in each run of a stage the folders, programs,
archives and inputs of all calls, whatever came of them; the artifacts of a release; and the build
folder that is missing. -/
structure HandsOutAbsolute (v : Visit σ) : Prop where
  root : v.session.workspace.root.isAbsolute = true
  cwd : v.session.workspace.cwd.isAbsolute = true
  path : ∀ p, (v.session.workspace.path p).isAbsolute = true
  build : ∀ pipeline : Pipeline σ, ∀ x ∈ (pipeline.afterBuild v.session).bench.memory.seen,
    x.call.folder.isAbsolute = true
  test : ∀ pipeline : Pipeline σ, ∀ x ∈ (pipeline.afterTest v.session).bench.memory.seen,
    x.call.folder.isAbsolute = true ∧ (Path.mk x.call.program).isAbsolute = true
  archive : ∀ pipeline : Pipeline σ, ∀ x ∈ (pipeline.afterArchive v.session).bench.memory.seen,
    x.call.folder.isAbsolute = true ∧ (x.call.program = "7z" → PacksAbsolutely x.call)
  archive_symbols : ∀ pipeline : Pipeline σ,
    ∀ x ∈ (pipeline.afterArchive v.session).bench.memory.seen, x.call.program = "7z" →
      x.call.folder = v.session.workspace.cwd →
        ∃ source, x.call.args.drop 3 = [source] ∧ (Path.mk source).isAbsolute = true
  archive_packaged : ∀ (pipeline : Pipeline σ) packaging,
    ∀ x ∈ (sessionAfter (pipeline.watched.archive packaging) v.session.watched).bench.memory.seen,
      packaging.CallsAbsolutely x.call
  artifacts : ∀ (pipeline : Pipeline σ) packaging release t,
    pipeline.archive packaging v.session = .ok release t → Pipeline.PublishesAbsolutely release
  missing : ∀ (pipeline : Pipeline σ) packaging,
    Pipeline.MissesAbsolutely pipeline.watched.build v.session ∧
      Pipeline.MissesAbsolutely pipeline.watched.test v.session ∧
        Pipeline.MissesAbsolutely (pipeline.watched.archive packaging) v.session

theorem Anchored.handsOutAbsolute {v : Visit σ} (h : Anchored v) : HandsOutAbsolute v := by
  have hcwd := h.absolute.cwd
  have hpackaged : ∀ (pipeline : Pipeline σ) (packaging : Packaging),
      ∀ x ∈ (sessionAfter (pipeline.watched.archive packaging) v.session.watched).bench.memory.seen,
        packaging.CallsAbsolutely x.call := by
    intro pipeline packaging x hx
    have hfollows : Follows (packaging.plan pipeline.job v.session.workspace.cwd) _ :=
      .of_callsAlong (Pipeline.archive_calls_plan hcwd)
    exact Packaging.callsAbsolutely_of_mem_plan hcwd (hfollows.call_mem hx)
  constructor
  case root => exact h.root
  case cwd => exact hcwd
  case path => exact fun p => Path.isAbsolute_join p hcwd
  case build =>
    intro pipeline x hx
    obtain ⟨-, prepared, -, hworked⟩ := pipeline.build_account v.session hcwd
    rw [Pipeline.afterBuild] at hx
    rw [(hworked.made x hx).1]
    exact Path.isAbsolute_join _ hcwd
  case test =>
    intro pipeline x hx
    rw [Pipeline.afterTest] at hx
    have hfollows : Follows (pipeline.job.testPlan v.session.workspace.cwd) _ :=
      .of_callsAlong (Pipeline.test_calls hcwd)
    have hfolder : (v.session.workspace.cwd / pipeline.job.buildFolder).isAbsolute = true :=
      Path.isAbsolute_join _ hcwd
    have hprogram : (v.session.workspace.cwd / pipeline.job.buildFolder /
        "exotracker-tests").isAbsolute = true := Path.isAbsolute_join _ hfolder
    have hcall := hfollows.call_mem hx
    rw [Job.testPlan, List.mem_singleton] at hcall
    generalize v.session.workspace.cwd / pipeline.job.buildFolder / "exotracker-tests" = program
      at hcall hprogram
    rw [hcall]
    exact ⟨hfolder, hprogram⟩
  case archive =>
    intro pipeline x hx
    rw [Pipeline.afterArchive] at hx
    exact (hpackaged pipeline .windows x hx).windows
  case archive_symbols =>
    intro pipeline x hx hprogram hfolder
    have hsource : (v.session.workspace.cwd / pipeline.job.buildFolder /
        "exotracker-qt.pdb").isAbsolute = true :=
      Path.isAbsolute_join _ (Path.isAbsolute_join _ hcwd)
    have hinput := Pipeline.archive_packs_symbols hcwd hx hprogram hfolder
    generalize v.session.workspace.cwd / pipeline.job.buildFolder / "exotracker-qt.pdb" = source
      at hinput hsource
    exact ⟨_, hinput, hsource⟩
  case archive_packaged => exact hpackaged
  case artifacts =>
    intro pipeline packaging release t hrun
    exact (Pipeline.archive_path hcwd).meets rfl trivial hrun
  case missing =>
    exact fun pipeline packaging => ⟨pipeline.build_missesAbsolutely v.session,
      pipeline.test_missesAbsolutely hcwd, pipeline.archive_missesAbsolutely packaging hcwd⟩

/-- **Nothing depends on the folder of the process.** Whatever the text of the root is, and whatever
came before on a workspace that was opened there, folders entered by any text, stages run with any
outcome and guards dropped in any order, all that the workspace and the stages hand out from then on
is absolute. -/
theorem handsOutAbsolute_turnAll {processFolder root : Path} {workspace : Workspace}
    (hprocess : processFolder.isAbsolute = true)
    (hopen : Workspace.open? processFolder root = .ok workspace) (bench : Bench σ)
    (history : List (Turn σ)) :
    HandsOutAbsolute ((Visit.mk ⟨workspace, bench⟩ []).turnAll history) :=
  ((Anchored.of_open hprocess hopen bench).turnAll history).handsOutAbsolute

/-- Two guards of which the older one is dropped first. The newer one then goes back into the folder
that it was made in, and the release between the two drops is made at the root. -/
def crossedGuards : List (Turn Unit) :=
  [.act (.enter ⟨"build-windows-Release"⟩), .act (.enter ⟨".."⟩), .drop 1,
    .act (.archive (PlainTools.pipeline none) .windows), .drop 0]

/-- A relative root and guards that cross leave the workspace in the build folder, after a release
of the small project. -/
theorem handsOutAbsolute_of_crossedGuards :
    (Path.mk "/").isAbsolute = true ∧
      Workspace.open? ⟨"/"⟩ ⟨"./project"⟩ = .ok PlainTools.session.workspace ∧
        ((Visit.mk PlainTools.session []).turnAll crossedGuards).session.workspace.cwd =
          ⟨"/project/build-windows-Release"⟩ ∧
        HandsOutAbsolute ((Visit.mk PlainTools.session []).turnAll crossedGuards) := by
  have hprocess : (Path.mk "/").isAbsolute = true := by decide
  have hopen : Workspace.open? ⟨"/"⟩ ⟨"./project"⟩ = .ok PlainTools.session.workspace := by rfl
  exact ⟨hprocess, hopen, by decide +kernel,
    handsOutAbsolute_turnAll hprocess hopen PlainTools.session.bench crossedGuards⟩

end Visit

end ReleasePipeline
