import ReleasePipeline.CommandLine.Run
import ReleasePipeline.Proofs.Stage.Endings
import ReleasePipeline.Proofs.Stage.Plan

/-!
# ReleasePipeline.Proofs.Stage.Reports

Stages report what their tools report. A stage goes on after a call only if the call succeeded, and
it ends with the failure of a tool only if that was its last call (`StopsWith`). So of all calls of a
run at most one has failed, it is the last one, and its failure is the run's.

`Reports` is the shape in which this is shown. Parts that make no call fit into it as they are known
already, by following an empty plan and by the failures that they end with (`Reports.of_quiet`), so
only the places where tools are called are looked at here.
-/

namespace ReleasePipeline

/-- Whether a failure is what becomes of a child process. -/
def Failure.isToolReport : Failure → Bool
  | .spawnFailed .. => true
  | .toolFailed .. => true
  | _ => false

/-- A sighting shows what a runner does on some bench. -/
def Runner.Shows (runner : Runner σ) (x : Sighting) : Prop :=
  ∃ bench after : Bench σ, bench.disk = x.before ∧ after.disk = x.after ∧
    runner x.call bench = match x.failure with
      | none => .ok () after
      | some failure => .error failure after

/-- Calls of a runner that have all succeeded. -/
def Succeeded (runner : Runner σ) (seen : List Sighting) : Prop :=
  ∀ x ∈ seen, runner.Shows x ∧ x.failure = none

/-- What the calls of a runner are like when a stage stops with a failure. -/
inductive StopsWith (runner : Runner σ) (failure : Failure) : List Sighting → Prop
  /-- The last call has failed with it, after all others succeeded. -/
  | ofCall {done : List Sighting} {last : Sighting} (hdone : Succeeded runner done)
      (hshows : runner.Shows last) (hlast : last.failure = some failure) :
      StopsWith runner failure (done ++ [last])
  /-- All calls have succeeded, and the failure is none of a tool. -/
  | ofStage {seen : List Sighting} (hseen : Succeeded runner seen)
      (hown : failure.isToolReport = false) : StopsWith runner failure seen

variable {runner : Runner σ} {failure : Failure} {seen : List Sighting}

theorem Succeeded.nil : Succeeded runner [] :=
  fun _ hx => absurd hx List.not_mem_nil

theorem StopsWith.shows (h : StopsWith runner failure seen) : ∀ x ∈ seen, runner.Shows x := by
  cases h with
  | ofCall hdone hshows _ =>
      exact List.forall_mem_append.mpr
        ⟨fun x hx => (hdone x hx).1, List.forall_mem_singleton.mpr hshows⟩
  | ofStage hseen _ => exact fun x hx => (hseen x hx).1

/-- A call that failed is the first to fail and the last of all, and its failure is the one that the
stage stops with. -/
theorem StopsWith.of_failed (h : StopsWith runner failure seen) {done rest : List Sighting}
    {x : Sighting} {cause : Failure} (hseen : seen = done ++ x :: rest)
    (hx : x.failure = some cause) :
    cause = failure ∧ (∀ y ∈ done, y.failure = none) ∧ rest = [] := by
  cases h with
  | ofStage hsucceeded _ =>
      have hnone := (hsucceeded x (by simp [hseen])).2
      rw [hx] at hnone
      cases hnone
  | @ofCall before last hdone _ hlast =>
      rcases List.eq_nil_or_concat rest with rfl | ⟨front, other, rfl⟩
      · obtain ⟨rfl, hsame⟩ := List.append_inj' hseen rfl
        cases hsame
        rw [hx] at hlast
        exact ⟨Option.some.inj hlast, fun y hy => (hdone y hy).2, rfl⟩
      · -- The failed call would be among those that succeeded.
        rw [List.concat_eq_append, ← List.cons_append, ← List.append_assoc] at hseen
        obtain ⟨rfl, -⟩ := List.append_inj' hseen rfl
        have hnone := (hdone x (by simp)).2
        rw [hx] at hnone
        cases hnone

/-- A failure of a tool is that of a call. -/
theorem StopsWith.exists_of_isToolReport (h : StopsWith runner failure seen)
    (hreport : failure.isToolReport = true) : ∃ x ∈ seen, x.failure = some failure := by
  cases h with
  | ofCall _ _ hlast => exact ⟨_, List.mem_append_right _ (List.mem_singleton.mpr rfl), hlast⟩
  | ofStage _ hown =>
      rw [hreport] at hown
      cases hown

namespace Stage

/-- A stage that goes on only after good calls, and stops with what its last call reports or with a
failure of its own. -/
def Reports (runner : Runner σ) (stage : Stage (Watched σ) α) : Prop :=
  ∀ w, Runs w (fun _ m => Succeeded runner m.seen) stage (fun _ _ m => Succeeded runner m.seen)
    fun failure _ m => StopsWith runner failure m.seen

namespace Reports

/-! ### Rules -/

theorem bind {x : Stage (Watched σ) α} {f : α → Stage (Watched σ) β} (hx : Reports runner x)
    (hf : ∀ a, Reports runner (f a)) : Reports runner (x >>= f) :=
  fun w => (hx w).bind fun a => hf a w

theorem pure {a : α} : Reports runner (Pure.pure a : Stage (Watched σ) α) :=
  fun _ => Runs.pure fun _ _ h => h

theorem throw (h : failure.isToolReport = false) :
    Reports runner (MonadExcept.throw failure : Stage (Watched σ) α) :=
  fun _ => Runs.throw fun _ _ hseen => .ofStage hseen h

/-- A part that makes no call stops with failures of its own. -/
theorem of_quiet {x : Stage (Watched σ) α} {value : Workspace → α → Prop}
    (hcalls : ∀ w, CallsAlong w [] x (value w))
    (hfails : FailsOnly (fun failure _ => failure.isToolReport = false) x) :
    Reports runner x := by
  have hnone : ∀ {plan made : List Sighting}, made.map Sighting.call <+: [] → plan ++ made = plan :=
    fun h => by
      rw [List.map_eq_nil_iff.mp (List.prefix_nil.mp h), List.append_nil]
  intro w
  constructor
  intro s hw hs
  have hends := (hcalls w s.bench.memory.seen).ending s hw rfl
  cases hrun : x s with
  | ok a t =>
      rw [hrun] at hends
      obtain ⟨hworkspace, -, made, hmade, hseen⟩ := hends
      rw [hnone (hmade.calls_eq ▸ List.prefix_rfl)] at hseen
      exact ⟨hworkspace, show Succeeded runner t.bench.memory.seen from hseen ▸ hs⟩
  | error failure t =>
      rw [hrun] at hends
      obtain ⟨hworkspace, made, hmade, hseen⟩ := hends
      rw [hnone hmade.calls_prefix] at hseen
      exact ⟨hworkspace, .ofStage (hseen ▸ hs) (hfails.of_error hrun)⟩

theorem report {event : Event} :
    Reports runner (Stage.report event : Stage (Watched σ) Unit) :=
  of_quiet (fun _ => .report) .report

theorem cwd : Reports runner (Stage.cwd : Stage (Watched σ) Path) :=
  of_quiet (fun _ => .cwd) .cwd

theorem path {p : Path} : Reports runner (Stage.path p : Stage (Watched σ) Path) :=
  of_quiet (fun _ => .path) .path

theorem attempt {action : String} {p : EntryPath} {op : DiskM α} :
    Reports runner (Stage.attempt action p op : Stage (Watched σ) α) :=
  of_quiet (fun _ => .attempt) (.attempt fun _ _ => rfl)

theorem call {c : ToolCall} : Reports runner (Stage.call runner.watched c) := by
  refine fun w => Runs.call fun bench h => ?_
  unfold Runner.watched
  cases hrun : runner c { bench with memory := bench.memory.inner } with
  | ok u after =>
      exact List.forall_mem_append.mpr
        ⟨h, List.forall_mem_singleton.mpr ⟨⟨_, after, rfl, rfl, hrun⟩, rfl⟩⟩
  | error failure after => exact .ofCall h ⟨_, after, rfl, rfl, hrun⟩ rfl

theorem within {folder : Path} {body : Stage (Watched σ) α} (h : Reports runner body) :
    Reports runner (Stage.within folder body) :=
  fun _ => .within (fun _ _ hseen _ => .ofStage hseen rfl)
    ((h _).weaken (fun _ _ h => h.2) (fun _ _ _ h => h) fun _ _ _ h => h)

theorem ite {c : Prop} [Decidable c] {x y : Stage (Watched σ) α} (hx : Reports runner x)
    (hy : Reports runner y) : Reports runner (if c then x else y) := by
  split
  · exact hx
  · exact hy

end Reports

end Stage

theorem Packaging.ofSystem_error {system : String} (h : ofSystem system = .error failure) :
    failure = .unsupportedSystem system := by
  unfold ofSystem at h
  split at h
  · cases h
  · cases h
    rfl

namespace Pipeline

open Stage

variable {pipeline : Pipeline σ} {packaging : Packaging}

theorem coversDisk_own :
    Failure.CoversDisk fun failure (_ : Watched σ) => failure.isToolReport = false :=
  fun _ _ _ _ => rfl

/-! ### Parts of stages -/

theorem resolveCompiler_calls {w : Workspace} {setting : String} {selector : Option String} :
    CallsAlong w [] (pipeline.watched.resolveCompiler setting selector) fun _ => True := by
  unfold resolveCompiler
  refine .quiet_bind .disk fun disk _ => .quiet_bind .cwd fun cwd _ => ?_
  dsimp only [watched]
  cases Toolchain.resolve disk pipeline.host.folder pipeline.host.home pipeline.searchPath cwd
      setting selector with
  | ok found => exact .quiet_bind .report fun _ _ => .pure trivial
  | error failure => exact .throw

theorem resolveCompiler_reports {setting : String} {selector : Option String} :
    Reports pipeline.runner (pipeline.watched.resolveCompiler setting selector) :=
  .of_quiet (fun _ => resolveCompiler_calls)
    (resolveCompiler_failsOnly (fun _ => rfl) fun _ _ _ => rfl)

theorem existingBuildFolder_reports :
    Reports pipeline.runner pipeline.watched.existingBuildFolder :=
  .of_quiet (fun _ => existingBuildFolder_calls) (existingBuildFolder_failsOnly fun _ _ => rfl)

theorem removeIfPresent_reports {runner : Runner σ} {p : Path} :
    Reports runner (removeIfPresent p : Stage (Watched σ) Unit) :=
  .of_quiet (fun _ => removeIfPresent_calls) (removeIfPresent_failsOnly coversDisk_own p)

theorem artifact_reports {runner : Runner σ} {p : Path} :
    Reports runner (artifact p : Stage (Watched σ) Artifact) :=
  .of_quiet (fun _ => artifact_calls) (artifact_failsOnly coversDisk_own p)

theorem configureAndCompile_reports {compilers : Toolchain.Compilers} :
    Reports pipeline.runner (pipeline.watched.configureAndCompile compilers) := by
  unfold configureAndCompile buildFolder
  exact .bind .path fun _ => .bind .attempt fun _ => .bind .report fun _ => .within <|
    .bind .cwd fun _ => .bind .call fun _ => .bind .report fun _ => .bind .call fun _ => .report

theorem assemble_reports {buildFolder archive : Path} :
    Reports pipeline.runner (pipeline.watched.assemble packaging buildFolder archive) := by
  unfold assemble
  refine .bind .cwd fun _ => .bind (.of_quiet (fun _ => transfer_calls)
    (transfer_failsOnly coversDisk_own _ _ _)) fun _ => .bind .report fun _ => .bind .call fun _ => ?_
  exact .bind (.of_quiet (fun _ => pruneImageFormats_calls)
    (pruneImageFormats_failsOnly coversDisk_own _ _ _ _)) fun _ =>
      .bind removeIfPresent_reports fun _ => .call

theorem publishSymbols_reports {source base root : Path} :
    Reports pipeline.runner (pipeline.watched.publishSymbols packaging source base root) := by
  unfold publishSymbols
  dsimp only [watched]
  cases pipeline.job.policy.debugSymbols with
  | compress =>
      exact .bind removeIfPresent_reports fun _ => .bind .call fun _ => artifact_reports
  | rename => exact .bind .attempt fun _ => artifact_reports

/-! ### Whole stages -/

theorem build_reports : Reports pipeline.runner pipeline.watched.build := by
  rw [build_eq]
  unfold resolveCompilers buildWith
  refine .bind (.bind resolveCompiler_reports fun _ => .bind resolveCompiler_reports fun _ => .pure)
    fun compilers => ?_
  exact .ite (.bind (.of_quiet (fun _ => disableHeaders_calls) (disableHeaders_failsOnly coversDisk_own))
    fun _ => configureAndCompile_reports) configureAndCompile_reports

theorem test_reports : Reports pipeline.runner pipeline.watched.test := by
  unfold test
  exact .bind existingBuildFolder_reports fun _ => .within <| .bind .report fun _ =>
    .bind .cwd fun _ => .call

theorem archive_reports : Reports pipeline.runner (pipeline.watched.archive packaging) := by
  unfold archive
  refine .bind .cwd fun _ => .bind existingBuildFolder_reports fun _ => .bind .path fun _ =>
    .bind .report fun _ => .bind .path fun _ => .bind (.of_quiet (fun _ => recreateFolder_calls)
      (recreateFolder_failsOnly coversDisk_own _)) fun _ => .bind (.within assemble_reports) fun _ =>
    .bind artifact_reports fun _ => .bind .report fun _ => ?_
  cases packaging.symbols applicationStem with
  | none => exact .pure
  | some name => exact .bind publishSymbols_reports fun _ => .bind .report fun _ => .pure

open CommandLine in
theorem runStage_reports {system : String} {stage : StageName} :
    Reports pipeline.runner (runStage pipeline.watched system stage) := by
  cases stage with
  | build => exact .bind build_reports fun _ => .pure
  | test => exact .bind test_reports fun _ => .pure
  | archive =>
      unfold runStage
      cases hsystem : Packaging.ofSystem system with
      | ok packaging => exact .bind archive_reports fun _ => .pure
      | error failure =>
          rw [Packaging.ofSystem_error hsystem]
          exact .throw rfl

end Pipeline

end ReleasePipeline
