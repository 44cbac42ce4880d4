import ReleasePipeline.CommandLine.Run
import ReleasePipeline.Proofs.Stage.Watched

/-!
# ReleasePipeline.Proofs.Stage.Unwatched

Watching changes nothing. A stage with a watched runner ends as the stage itself does, on the same
disk, with the same events and the same memory of the runner that carries out the calls. So what is
proved of the sightings of a watched run is a statement about the run itself.

A watched session is erased by dropping what was seen. Erasing commutes with every step, because the
only step that looks at the memory is a tool call.
-/

namespace ReleasePipeline

/-- The bench without what was seen. -/
def Bench.unwatched (bench : Bench (Watched σ)) : Bench σ :=
  ⟨bench.disk, bench.events, bench.memory.inner⟩

/-- The session without what was seen. -/
def Session.unwatched (s : Session (Watched σ)) : Session σ :=
  ⟨s.workspace, ⟨s.bench.disk, s.bench.events, s.bench.memory.inner⟩⟩

@[simp] theorem Session.unwatched_watched (s : Session σ) : s.watched.unwatched = s := rfl

@[simp] theorem Session.workspace_unwatched (s : Session (Watched σ)) :
    s.unwatched.workspace = s.workspace := rfl

@[simp] theorem Session.disk_unwatched (s : Session (Watched σ)) :
    s.unwatched.bench.disk = s.bench.disk := rfl

namespace Stage

/-- An ending without what was seen. -/
def unwatched : EStateM.Result ε (Session (Watched σ)) α → EStateM.Result ε (Session σ) α
  | .ok a s => .ok a s.unwatched
  | .error failure s => .error failure s.unwatched

/-- A stage that does under watch what another does on its own. -/
structure ErasesTo (x : Stage (Watched σ) α) (y : Stage σ α) : Prop where
  commutes : ∀ s, unwatched (x s) = y s.unwatched

namespace ErasesTo

/-! ### Rules -/

theorem bind {x : Stage (Watched σ) α} {y : Stage σ α} {f : α → Stage (Watched σ) β}
    {g : α → Stage σ β} (hxy : ErasesTo x y) (hfg : ∀ a, ErasesTo (f a) (g a)) :
    ErasesTo (x >>= f) (y >>= g) := by
  refine ⟨fun s => ?_⟩
  change unwatched (EStateM.bind x f s) = EStateM.bind y g s.unwatched
  unfold EStateM.bind
  rw [← hxy.commutes s]
  cases x s with
  | ok a t => exact (hfg a).commutes t
  | error failure t => rfl

theorem pure {a : α} : ErasesTo (Pure.pure a : Stage (Watched σ) α) (Pure.pure a) :=
  ⟨fun _ => rfl⟩

theorem throw {failure : Failure} :
    ErasesTo (MonadExcept.throw failure : Stage (Watched σ) α) (MonadExcept.throw failure) :=
  ⟨fun _ => rfl⟩

theorem ite {c : Prop} [Decidable c] {x x' : Stage (Watched σ) α} {y y' : Stage σ α}
    (h : ErasesTo x y) (h' : ErasesTo x' y') :
    ErasesTo (if c then x else x') (if c then y else y') := by
  split
  · exact h
  · exact h'

theorem report {event : Event} :
    ErasesTo (Stage.report event : Stage (Watched σ) Unit) (Stage.report event) :=
  ⟨fun _ => rfl⟩

theorem disk : ErasesTo (Stage.disk : Stage (Watched σ) Node) Stage.disk :=
  ⟨fun _ => rfl⟩

theorem cwd : ErasesTo (Stage.cwd : Stage (Watched σ) Path) Stage.cwd :=
  ⟨fun _ => rfl⟩

theorem path {p : Path} : ErasesTo (Stage.path p : Stage (Watched σ) Path) (Stage.path p) :=
  ⟨fun _ => rfl⟩

theorem onDisk {op : DiskM α} :
    ErasesTo (Stage.onDisk op : Stage (Watched σ) (Except Fault α)) (Stage.onDisk op) := by
  refine ⟨fun s => ?_⟩
  unfold Stage.onDisk Session.unwatched
  dsimp only
  cases op s.bench.disk <;> rfl

theorem attempt {action : String} {p : EntryPath} {op : DiskM α} :
    ErasesTo (Stage.attempt action p op : Stage (Watched σ) α) (Stage.attempt action p op) := by
  unfold Stage.attempt
  refine .bind .onDisk fun outcome => ?_
  cases outcome with
  | ok a => exact .pure
  | error fault => exact .throw

/-- A watched runner has the runner carry out the call on the very same bench. -/
theorem call {runner : Runner σ} {c : ToolCall} :
    ErasesTo (Stage.call runner.watched c) (Stage.call runner c) := by
  refine ⟨fun s => ?_⟩
  unfold Stage.call Runner.watched Session.unwatched
  dsimp only
  cases runner c ⟨s.bench.disk, s.bench.events, s.bench.memory.inner⟩ <;> rfl

theorem within {folder : Path} {x : Stage (Watched σ) α} {y : Stage σ α} (h : ErasesTo x y) :
    ErasesTo (Stage.within folder x) (Stage.within folder y) := by
  refine ⟨fun s => ?_⟩
  cases hfolder : Disk.isFolder s.bench.disk (s.workspace.path folder) with
  | false =>
      rw [within_of_not_isFolder hfolder, within_of_not_isFolder (s := s.unwatched) hfolder]
      rfl
  | true =>
      have hbody : unwatched (x (s.entered folder)) = y (s.unwatched.entered folder) :=
        h.commutes (s.entered folder)
      rw [within_of_isFolder hfolder, within_of_isFolder (s := s.unwatched) hfolder, ← hbody]
      cases x (s.entered folder) <;> rfl

theorem sessionAfter {x : Stage (Watched σ) α} {y : Stage σ α} (h : ErasesTo x y)
    (s : Session (Watched σ)) :
    (Stage.sessionAfter x s).unwatched = Stage.sessionAfter y s.unwatched := by
  unfold Stage.sessionAfter
  rw [← h.commutes s]
  cases x s <;> rfl

theorem ok {x : Stage (Watched σ) α} {y : Stage σ α} {s t : Session σ} {a : α} (h : ErasesTo x y)
    (hrun : y s = .ok a t) : ∃ t', x s.watched = .ok a t' ∧ t'.unwatched = t := by
  have hsame : unwatched (x s.watched) = y s := h.commutes s.watched
  rw [hrun] at hsame
  cases hx : x s.watched with
  | ok b t' =>
      rw [hx] at hsame
      cases hsame
      exact ⟨t', rfl, rfl⟩
  | error failure t' =>
      rw [hx] at hsame
      cases hsame

/-- What is shown of a run under watch, and is about the disk, holds of the run itself. -/
theorem runs {w : Workspace} {x : Stage (Watched σ) α} {y : Stage σ α} {P : Node → Prop}
    {Q : α → Node → Prop} {E : Failure → Node → Prop} (h : ErasesTo x y)
    (hx : Runs w (fun d m => P d ∧ m.seen = []) x (fun a d _ => Q a d) fun failure d _ => E failure d) :
    Runs w (fun d _ => P d) y (fun a d _ => Q a d) fun failure d _ => E failure d := by
  constructor
  intro s hw hs
  have hends := hx.ending s.watched hw ⟨hs, rfl⟩
  have hsame : unwatched (x s.watched) = y s := h.commutes s.watched
  rw [← hsame]
  cases hrun : x s.watched with
  | ok a t =>
      rw [hrun] at hends
      exact hends
  | error failure t =>
      rw [hrun] at hends
      exact hends

end ErasesTo

end Stage

namespace Pipeline

open Stage

/-! ### Parts of stages -/

variable {pipeline : Pipeline σ}

theorem existingBuildFolder_erases :
    ErasesTo pipeline.watched.existingBuildFolder pipeline.existingBuildFolder := by
  unfold existingBuildFolder buildFolder
  exact .bind .path fun _ => .bind .disk fun _ => .ite .pure .throw

theorem resolveCompiler_erases {setting : String} {selector : Option String} :
    ErasesTo (pipeline.watched.resolveCompiler setting selector)
      (pipeline.resolveCompiler setting selector) := by
  unfold resolveCompiler
  refine .bind .disk fun disk => .bind .cwd fun cwd => ?_
  dsimp only [watched]
  cases Toolchain.resolve disk pipeline.host.folder pipeline.host.home pipeline.searchPath cwd
      setting selector with
  | ok found => exact .bind .report fun _ => .pure
  | error failure => exact .throw

theorem disableHeaders_erases :
    ErasesTo (disableHeaders : Stage (Watched σ) Unit) disableHeaders := by
  unfold disableHeaders
  exact .bind .path fun _ => .bind .report fun _ => .bind .attempt fun _ => .attempt

theorem recreateFolder_erases {folder : Path} :
    ErasesTo (recreateFolder folder : Stage (Watched σ) Unit) (recreateFolder folder) := by
  unfold recreateFolder
  refine .bind .onDisk fun ending => ?_
  dsimp only
  cases ending with
  | ok _ => exact .bind .report fun _ => .attempt
  | error fault => exact .ite .attempt (.bind .throw fun _ => .attempt)

theorem removeIfPresent_erases {p : Path} :
    ErasesTo (removeIfPresent p : Stage (Watched σ) Unit) (removeIfPresent p) := by
  unfold removeIfPresent
  refine .bind .onDisk fun ending => ?_
  cases ending with
  | ok _ => exact .pure
  | error fault => exact .ite .pure .throw

theorem transfer_erases {source target : Path} {mode : ExecutableTransfer} :
    ErasesTo (transfer source target mode : Stage (Watched σ) Unit)
      (transfer source target mode) := by
  unfold transfer
  cases mode with
  | copy => exact .bind .report fun _ => .attempt
  | move => exact .bind .report fun _ => .attempt

theorem prunePlugins_erases {folder : Path} {svgStem : String} {names : List EntryName} :
    ErasesTo (prunePlugins folder svgStem names : Stage (Watched σ) Unit)
      (prunePlugins folder svgStem names) := by
  induction names with
  | nil => exact .pure
  | cons name rest ih =>
      rw [prunePlugins, prunePlugins]
      exact .ite (.bind .report fun _ => .bind .attempt fun _ => ih) ih

theorem pruneImageFormats_erases {listing : Disk.ListingOrder} {folder : Path} {svgStem : String}
    {imageFormats : ImageFormats} :
    ErasesTo (pruneImageFormats listing folder svgStem imageFormats : Stage (Watched σ) Unit)
      (pruneImageFormats listing folder svgStem imageFormats) := by
  unfold pruneImageFormats
  refine .bind .disk fun _ => .ite ?_ .report
  cases imageFormats with
  | removeAll => exact .attempt
  | keepSvg => exact .bind .attempt fun _ => prunePlugins_erases

theorem artifact_erases {p : Path} :
    ErasesTo (artifact p : Stage (Watched σ) Artifact) (artifact p) := by
  unfold artifact
  exact .bind .attempt fun _ => .bind .attempt fun _ => .pure

theorem assemble_erases {packaging : Packaging} {buildFolder archive : Path} :
    ErasesTo (pipeline.watched.assemble packaging buildFolder archive)
      (pipeline.assemble packaging buildFolder archive) := by
  unfold assemble
  exact .bind .cwd fun _ => .bind transfer_erases fun _ => .bind .report fun _ => .bind .call fun _ =>
    .bind pruneImageFormats_erases fun _ => .bind removeIfPresent_erases fun _ => .call

theorem publishSymbols_erases {packaging : Packaging} {source base root : Path} :
    ErasesTo (pipeline.watched.publishSymbols packaging source base root)
      (pipeline.publishSymbols packaging source base root) := by
  unfold publishSymbols
  dsimp only [watched]
  cases pipeline.job.policy.debugSymbols with
  | compress =>
      exact .bind removeIfPresent_erases fun _ => .bind .call fun _ => artifact_erases
  | rename => exact .bind .attempt fun _ => artifact_erases

/-! ### Whole stages -/

theorem configureAndCompile_erases {compilers : Toolchain.Compilers} :
    ErasesTo (pipeline.watched.configureAndCompile compilers)
      (pipeline.configureAndCompile compilers) := by
  unfold configureAndCompile buildFolder
  exact .bind .path fun _ => .bind .attempt fun _ => .bind .report fun _ => .within <|
    .bind .cwd fun _ => .bind .call fun _ => .bind .report fun _ => .bind .call fun _ => .report

theorem build_erases : ErasesTo pipeline.watched.build pipeline.build := by
  rw [build_eq, build_eq]
  unfold resolveCompilers buildWith
  refine .bind (.bind resolveCompiler_erases fun _ => .bind resolveCompiler_erases fun _ => .pure)
    fun compilers => ?_
  exact .ite (.bind disableHeaders_erases fun _ => configureAndCompile_erases)
    configureAndCompile_erases

theorem test_erases : ErasesTo pipeline.watched.test pipeline.test := by
  unfold test
  exact .bind existingBuildFolder_erases fun _ => .within <| .bind .report fun _ =>
    .bind .cwd fun _ => .call

theorem archive_erases {packaging : Packaging} :
    ErasesTo (pipeline.watched.archive packaging) (pipeline.archive packaging) := by
  unfold archive
  refine .bind .cwd fun _ => .bind existingBuildFolder_erases fun _ => .bind .path fun _ =>
    .bind .report fun _ => .bind .path fun _ => .bind recreateFolder_erases fun _ =>
    .bind (.within assemble_erases) fun _ => .bind artifact_erases fun _ => .bind .report fun _ => ?_
  cases packaging.symbols applicationStem with
  | none => exact .pure
  | some name => exact .bind publishSymbols_erases fun _ => .bind .report fun _ => .pure

/-! ### The sessions that watched runs leave -/

def afterBuild (pipeline : Pipeline σ) (s : Session σ) : Session (Watched σ) :=
  sessionAfter pipeline.watched.build s.watched

def afterTest (pipeline : Pipeline σ) (s : Session σ) : Session (Watched σ) :=
  sessionAfter pipeline.watched.test s.watched

def afterArchive (pipeline : Pipeline σ) (s : Session σ) : Session (Watched σ) :=
  sessionAfter (pipeline.watched.archive .windows) s.watched

end Pipeline

/-! ### The program -/

namespace CommandLine

open Stage

theorem runStage_erases {pipeline : Pipeline σ} {system : String} {stage : StageName} :
    ErasesTo (runStage pipeline.watched system stage) (runStage pipeline system stage) := by
  cases stage with
  | build => exact .bind Pipeline.build_erases fun _ => .pure
  | test => exact .bind Pipeline.test_erases fun _ => .pure
  | archive =>
      unfold runStage
      cases Packaging.ofSystem system with
      | ok packaging => exact .bind Pipeline.archive_erases fun _ => .pure
      | error failure => exact .throw

/-- So does the program that runs one of them. -/
theorem dispatch_unwatched (context : Context) (lookup : String → Option Bytes) (runner : Runner σ)
    (stage : StageName) (bench : Bench (Watched σ)) :
    dispatch context lookup runner stage bench.unwatched =
      ⟨(dispatch context lookup runner.watched stage bench).result,
        (dispatch context lookup runner.watched stage bench).bench.unwatched⟩ := by
  unfold dispatch
  cases hjob : Job.ofRawVariables lookup with
  | error failure => rfl
  | ok job =>
      dsimp only
      cases hopen : Workspace.open? context.folder context.folder with
      | error failure => rfl
      | ok workspace =>
          dsimp only
          generalize Event.jobRead job.toText job.buildFolder job.archiveName = event
          have hends : runStage ⟨job, context.host, context.searchPath, runner⟩ context.system stage
              ⟨workspace, bench.unwatched.report event⟩ =
              unwatched (runStage ⟨job, context.host, context.searchPath, runner.watched⟩
                context.system stage ⟨workspace, bench.report event⟩) :=
            (runStage_erases.commutes ⟨workspace, bench.report event⟩).symm
          rw [hends]
          cases runStage ⟨job, context.host, context.searchPath, runner.watched⟩ context.system stage
              ⟨workspace, bench.report event⟩ <;> rfl

end CommandLine

end ReleasePipeline
