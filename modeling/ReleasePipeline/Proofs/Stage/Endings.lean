import ReleasePipeline.Proofs.Stage.Runs
import ReleasePipeline.Stage.Build
import ReleasePipeline.Stage.Release
import ReleasePipeline.Stage.UnitTests

/-!
# ReleasePipeline.Proofs.Stage.Endings

How stages can fail. `FailsOnly` names the failures that a part of a stage may end with, whatever it
starts from, and asserts that the part goes back to the workspace it started in. What is allowed may
depend on the memory of the runner at that moment. Every early return of every stage is looked at
here and nowhere else: with all failures allowed, what is left of `FailsOnly` is that stages go back,
and with some of them ruled out it says which part of a stage a failure cannot come from.

A stage looks before it acts. `test` and `archive` are split where the build folder has been found,
as `build` is where it has its compilers, and only what comes before the split can refuse the job.
-/

namespace ReleasePipeline

namespace Stage

/-- Wherever a stage starts, it goes back there, and if it fails, then in a way that is allowed. -/
def FailsOnly (allowed : Failure → σ → Prop) (stage : Stage σ α) : Prop :=
  ∀ w, Runs w (fun _ _ => True) stage (fun _ _ _ => True) fun failure _ m => allowed failure m

namespace FailsOnly

variable {allowed : Failure → σ → Prop}

/-! ### Rules -/

theorem bind {x : Stage σ α} {f : α → Stage σ β} (hx : FailsOnly allowed x)
    (hf : ∀ a, FailsOnly allowed (f a)) : FailsOnly allowed (x >>= f) :=
  fun _ => (hx _).bind fun a => hf a _

theorem pure {a : α} : FailsOnly allowed (Pure.pure a : Stage σ α) :=
  fun _ => Runs.pure fun _ _ _ => trivial

theorem throw {failure : Failure} (h : ∀ m, allowed failure m) :
    FailsOnly allowed (MonadExcept.throw failure : Stage σ α) :=
  fun _ => Runs.throw fun _ m _ => h m

theorem report {event : Event} : FailsOnly allowed (Stage.report event : Stage σ Unit) :=
  fun _ => Runs.report

theorem disk : FailsOnly allowed (Stage.disk : Stage σ Node) :=
  fun _ => Runs.disk.weaken (fun _ _ h => h) (fun _ _ _ _ => trivial) fun _ _ _ h => h

theorem cwd : FailsOnly allowed (Stage.cwd : Stage σ Path) :=
  fun _ => Runs.cwd.weaken (fun _ _ h => h) (fun _ _ _ _ => trivial) fun _ _ _ h => h

theorem path {p : Path} : FailsOnly allowed (Stage.path p : Stage σ Path) :=
  fun _ => Runs.path.weaken (fun _ _ h => h) (fun _ _ _ _ => trivial) fun _ _ _ h => h

theorem onDisk {op : DiskM α} :
    FailsOnly allowed (Stage.onDisk op : Stage σ (Except Fault α)) :=
  fun _ => Runs.onDisk fun d _ _ => by cases op d <;> trivial

theorem attempt {action : String} {p : EntryPath} {op : DiskM α}
    (h : ∀ fault m, allowed (.diskFailed action p fault) m) :
    FailsOnly allowed (Stage.attempt action p op : Stage σ α) :=
  fun _ => Runs.attempt fun d m _ => by
    cases op d with
    | ok a d' => trivial
    | error fault d' => exact h fault m

theorem call {runner : Runner σ} {c : ToolCall}
    (h : ∀ bench failure after,
      runner c bench = .error failure after → allowed failure after.memory) :
    FailsOnly allowed (Stage.call runner c) :=
  fun _ => Runs.call fun bench _ => by
    cases hrun : runner c bench with
    | ok u after => trivial
    | error failure after => exact h bench failure after hrun

/-- A folder is left again even if the body changes the current folder for good. -/
theorem within {folder : Path} {body : Stage σ α}
    (henter : ∀ p m, allowed (.diskFailed "enter" p .notFound) m) (h : FailsOnly allowed body) :
    FailsOnly allowed (Stage.within folder body) :=
  fun _ => Runs.within (fun _ m _ _ => henter _ m)
    ((h _).weaken (fun _ _ _ => trivial) (fun _ _ _ h => h) fun _ _ _ h => h)

theorem ite {c : Prop} [Decidable c] {x y : Stage σ α} (hx : FailsOnly allowed x)
    (hy : FailsOnly allowed y) : FailsOnly allowed (if c then x else y) := by
  split
  · exact hx
  · exact hy

/-- What a stage that fails can have failed with. -/
theorem of_error {stage : Stage σ α} {s t : Session σ} {failure : Failure}
    (h : FailsOnly allowed stage) (hrun : stage s = .error failure t) :
    allowed failure t.bench.memory :=
  (h s.workspace).meets_error rfl trivial hrun

end FailsOnly

end Stage

/-- Failures among which are all those of the disk. -/
def Failure.CoversDisk (allowed : Failure → σ → Prop) : Prop :=
  ∀ action p fault m, allowed (.diskFailed action p fault) m

/-- A runner that fails only in ways that are allowed. -/
def Runner.FailsOnly (runner : Runner σ) (allowed : Failure → σ → Prop) : Prop :=
  ∀ call bench failure after,
    runner call bench = .error failure after → allowed failure after.memory

namespace Pipeline

open Stage

variable {pipeline : Pipeline σ} {packaging : Packaging} {allowed : Failure → σ → Prop}

/-! ### After the build folder is found -/

/-- What a test run does in the build folder. -/
def testIn (pipeline : Pipeline σ) (folder : Path) : Stage σ Unit :=
  Stage.within folder do
    let program := folder / testProgram
    Stage.report (.runningTests program)
    Stage.call pipeline.runner (testCall program (← Stage.cwd))

theorem test_eq (pipeline : Pipeline σ) :
    pipeline.test = pipeline.existingBuildFolder >>= pipeline.testIn := rfl

/-- What making a release does with the build folder up to the application's artifact. -/
def publishApplication (pipeline : Pipeline σ) (packaging : Packaging) (buildFolder base : Path) :
    Stage σ Artifact := do
  Stage.report (.assembling packaging.name base pipeline.job.policy)
  let staging ← Stage.path ⟨stagingFolder⟩
  recreateFolder staging
  let archive := base.addExtension packaging.extension
  Stage.within staging (pipeline.assemble packaging buildFolder archive)
  let application ← artifact archive
  Stage.report (.archiveReady application.path application.sha256)
  return application

/-- What making a release publishes beside the application. -/
def publishBeside (pipeline : Pipeline σ) (packaging : Packaging) (buildFolder base root : Path)
    (application : Artifact) : Stage σ Release :=
  match packaging.symbols applicationStem with
  | none => return ⟨application, none⟩
  | some name => do
    let symbols ← pipeline.publishSymbols packaging (buildFolder / name) base root
    Stage.report (.symbolsReady symbols.path symbols.sha256)
    return ⟨application, some symbols⟩

/-- What making a release does with the build folder. -/
def archiveFrom (pipeline : Pipeline σ) (packaging : Packaging) (root buildFolder : Path) :
    Stage σ Release := do
  let base ← Stage.path ⟨pipeline.job.archiveName⟩
  let application ← pipeline.publishApplication packaging buildFolder base
  pipeline.publishBeside packaging buildFolder base root application

theorem archive_eq (pipeline : Pipeline σ) (packaging : Packaging) :
    pipeline.archive packaging = Stage.cwd >>= fun root =>
      pipeline.existingBuildFolder >>= pipeline.archiveFrom packaging root := by
  unfold archive archiveFrom publishApplication publishBeside
  cases packaging.symbols applicationStem with
  | none => simp only [bind_assoc, pure_bind]
  | some name => simp only [bind_assoc, pure_bind]

/-- On Windows, debug symbols are published beside every application. -/
theorem publishBeside_windows {buildFolder base root : Path} {application : Artifact} :
    pipeline.publishBeside .windows buildFolder base root application =
      pipeline.publishSymbols .windows (buildFolder / "exotracker-qt.pdb") base root >>=
        fun symbols => Stage.report (.symbolsReady symbols.path symbols.sha256) >>= fun _ =>
          Pure.pure ⟨application, some symbols⟩ := rfl

/-! ### How the parts of stages fail -/

theorem existingBuildFolder_failsOnly (h : ∀ folder m, allowed (.buildFolderMissing folder) m) :
    FailsOnly allowed pipeline.existingBuildFolder := by
  unfold existingBuildFolder buildFolder
  exact .bind .path fun folder => .bind .disk fun _ => .ite .pure (.throw (h folder))

theorem resolveCompiler_failsOnly {setting : String} {selector : Option String}
    (hmissing : ∀ m, allowed (.missingVariable setting) m)
    (hlookup : ∀ program cause m, allowed (.compilerNotFound setting program cause) m) :
    FailsOnly allowed (pipeline.resolveCompiler setting selector) := by
  unfold resolveCompiler
  refine .bind .disk fun disk => .bind .cwd fun cwd => ?_
  dsimp only [Toolchain.resolve]
  cases selector with
  | none => exact .throw hmissing
  | some program =>
      dsimp only
      cases Toolchain.find disk pipeline.host.folder pipeline.host.home pipeline.searchPath cwd
          program with
      | ok p => exact .bind .report fun _ => .pure
      | error cause => exact .throw (hlookup program cause)

theorem resolveCompilers_failsOnly (hmissing : ∀ setting m, allowed (.missingVariable setting) m)
    (hlookup : ∀ setting program cause m, allowed (.compilerNotFound setting program cause) m) :
    FailsOnly allowed pipeline.resolveCompilers := by
  unfold resolveCompilers
  exact .bind (resolveCompiler_failsOnly (hmissing _) (hlookup _)) fun _ =>
    .bind (resolveCompiler_failsOnly (hmissing _) (hlookup _)) fun _ => .pure

section

variable (hdisk : Failure.CoversDisk allowed)

include hdisk

theorem disableHeaders_failsOnly : FailsOnly allowed (disableHeaders : Stage σ Unit) := by
  unfold disableHeaders
  exact .bind .path fun _ => .bind .report fun _ => .bind (.attempt (hdisk _ _)) fun _ =>
    .attempt (hdisk _ _)

theorem recreateFolder_failsOnly (folder : Path) :
    FailsOnly allowed (recreateFolder folder : Stage σ Unit) := by
  unfold recreateFolder
  have hmake : FailsOnly allowed (Stage.attempt "create" folder (Disk.makeFolder folder) :
      Stage σ Unit) := .attempt (hdisk _ _)
  refine .bind .onDisk fun ending => ?_
  dsimp only
  cases ending with
  | ok _ => exact .bind .report fun _ => hmake
  | error fault => exact .ite hmake (.bind (.throw (hdisk _ _ _)) fun _ => hmake)

theorem removeIfPresent_failsOnly (p : Path) :
    FailsOnly allowed (removeIfPresent p : Stage σ Unit) := by
  unfold removeIfPresent
  refine .bind .onDisk fun ending => ?_
  cases ending with
  | ok _ => exact .pure
  | error fault => exact .ite .pure (.throw (hdisk _ _ _))

theorem transfer_failsOnly (source target : Path) (mode : ExecutableTransfer) :
    FailsOnly allowed (transfer source target mode : Stage σ Unit) := by
  unfold transfer
  cases mode <;> exact .bind .report fun _ => .attempt (hdisk _ _)

theorem prunePlugins_failsOnly (folder : Path) (svgStem : String) (names : List EntryName) :
    FailsOnly allowed (prunePlugins folder svgStem names : Stage σ Unit) := by
  induction names with
  | nil => exact .pure
  | cons name rest ih =>
      rw [prunePlugins]
      exact .ite (.bind .report fun _ => .bind (.attempt (hdisk _ _)) fun _ => ih) ih

theorem pruneImageFormats_failsOnly (listing : Disk.ListingOrder) (folder : Path)
    (svgStem : String) (imageFormats : ImageFormats) :
    FailsOnly allowed (pruneImageFormats listing folder svgStem imageFormats : Stage σ Unit) := by
  unfold pruneImageFormats
  refine .bind .disk fun _ => .ite ?_ .report
  cases imageFormats with
  | removeAll => exact .attempt (hdisk _ _)
  | keepSvg =>
      exact .bind (.attempt (hdisk _ _)) fun _ => prunePlugins_failsOnly hdisk folder svgStem _

theorem artifact_failsOnly (p : Path) : FailsOnly allowed (artifact p : Stage σ Artifact) := by
  unfold artifact
  exact .bind (.attempt (hdisk _ _)) fun _ => .bind (.attempt (hdisk _ _)) fun _ => .pure

variable (hrunner : pipeline.runner.FailsOnly allowed)

include hrunner

theorem assemble_failsOnly (buildFolder archive : Path) :
    FailsOnly allowed (pipeline.assemble packaging buildFolder archive) := by
  unfold assemble
  exact .bind .cwd fun _ => .bind (transfer_failsOnly hdisk _ _ _) fun _ => .bind .report fun _ =>
    .bind (.call (hrunner _)) fun _ => .bind (pruneImageFormats_failsOnly hdisk _ _ _ _) fun _ =>
    .bind (removeIfPresent_failsOnly hdisk _) fun _ => .call (hrunner _)

theorem publishApplication_failsOnly (buildFolder base : Path) :
    FailsOnly allowed (pipeline.publishApplication packaging buildFolder base) := by
  unfold publishApplication
  exact .bind .report fun _ => .bind .path fun _ => .bind (recreateFolder_failsOnly hdisk _) fun _ =>
    .bind (.within (fun _ => hdisk _ _ _) (assemble_failsOnly hdisk hrunner _ _)) fun _ =>
    .bind (artifact_failsOnly hdisk _) fun _ => .bind .report fun _ => .pure

theorem publishSymbols_failsOnly (source base root : Path) :
    FailsOnly allowed (pipeline.publishSymbols packaging source base root) := by
  unfold publishSymbols
  dsimp only
  cases pipeline.job.policy.debugSymbols with
  | compress =>
      exact .bind (removeIfPresent_failsOnly hdisk _) fun _ => .bind (.call (hrunner _)) fun _ =>
        artifact_failsOnly hdisk _
  | rename => exact .bind (.attempt (hdisk _ _)) fun _ => artifact_failsOnly hdisk _

theorem publishBeside_failsOnly (buildFolder base root : Path) (application : Artifact) :
    FailsOnly allowed (pipeline.publishBeside packaging buildFolder base root application) := by
  unfold publishBeside
  cases packaging.symbols applicationStem with
  | none => exact .pure
  | some name =>
      exact .bind (publishSymbols_failsOnly hdisk hrunner _ _ _) fun _ => .bind .report fun _ => .pure

/-! ### How the stages fail -/

theorem configureAndCompile_failsOnly (compilers : Toolchain.Compilers) :
    FailsOnly allowed (pipeline.configureAndCompile compilers) := by
  unfold configureAndCompile buildFolder
  exact .bind .path fun _ => .bind (.attempt (hdisk _ _)) fun _ => .bind .report fun _ =>
    .within (fun _ => hdisk _ _ _) <| .bind .cwd fun _ => .bind (.call (hrunner _)) fun _ =>
    .bind .report fun _ => .bind (.call (hrunner _)) fun _ => .report

/-- With its compilers, a build fails only as the disk or a tool does. -/
theorem buildWith_failsOnly (compilers : Toolchain.Compilers) :
    FailsOnly allowed (pipeline.buildWith compilers) := by
  unfold buildWith
  exact .ite (.bind (disableHeaders_failsOnly hdisk) fun _ =>
    configureAndCompile_failsOnly hdisk hrunner compilers)
    (configureAndCompile_failsOnly hdisk hrunner compilers)

/-- With the build folder, a test run fails only as the disk or a tool does. -/
theorem testIn_failsOnly (folder : Path) : FailsOnly allowed (pipeline.testIn folder) := by
  unfold testIn
  exact .within (fun _ => hdisk _ _ _) <| .bind .report fun _ => .bind .cwd fun _ =>
    .call (hrunner _)

/-- With the build folder, making a release fails only as the disk or a tool does. -/
theorem archiveFrom_failsOnly (root buildFolder : Path) :
    FailsOnly allowed (pipeline.archiveFrom packaging root buildFolder) := by
  unfold archiveFrom
  exact .bind .path fun _ => .bind (publishApplication_failsOnly hdisk hrunner _ _) fun _ =>
    publishBeside_failsOnly hdisk hrunner _ _ _ _

theorem build_failsOnly (hmissing : ∀ setting m, allowed (.missingVariable setting) m)
    (hlookup : ∀ setting program cause m, allowed (.compilerNotFound setting program cause) m) :
    FailsOnly allowed pipeline.build := by
  rw [build_eq]
  exact .bind (resolveCompilers_failsOnly hmissing hlookup) (buildWith_failsOnly hdisk hrunner)

theorem test_failsOnly (hmissing : ∀ folder m, allowed (.buildFolderMissing folder) m) :
    FailsOnly allowed pipeline.test := by
  rw [test_eq]
  exact .bind (existingBuildFolder_failsOnly hmissing) (testIn_failsOnly hdisk hrunner)

theorem archive_failsOnly (hmissing : ∀ folder m, allowed (.buildFolderMissing folder) m) :
    FailsOnly allowed (pipeline.archive packaging) := by
  rw [archive_eq]
  exact .bind .cwd fun root => .bind (existingBuildFolder_failsOnly hmissing)
    (archiveFrom_failsOnly hdisk hrunner root)

end

end Pipeline

end ReleasePipeline
