import ReleasePipeline.Proofs.Disk.Growing
import ReleasePipeline.Proofs.Release.Steps
import ReleasePipeline.Proofs.Release.Tools
import ReleasePipeline.Proofs.Stage.Plan
import ReleasePipeline.Proofs.Stage.Unwatched

/-!
# ReleasePipeline.Proofs.Stage.Account

An account of everything that a build and a test run do to the disk. Before its first call a run
prepares: a test run does nothing at all, and a build may append to the hook file and makes its
build folder (`Pipeline.Prepares`). From then on only tools change the disk, since each call finds
it as the call before left it, and the run leaves it as the last call did (`Linked`). All calls are
made in the build folder, which was a folder when the first of them was made (`WorkedIn`).

Nothing is assumed of the tools, and the account is the same wherever a run ends.
-/

namespace ReleasePipeline

open Disk Node

/-! ### Calls in a row -/

/-- Calls with no change to the disk between them, from the disk that the first of them finds to the
one that the last of them leaves. -/
inductive Linked : Node → List Sighting → Node → Prop where
  | nil (d : Node) : Linked d [] d
  | cons {x : Sighting} {rest : List Sighting} {final : Node} (h : Linked x.after rest final) :
      Linked x.before (x :: rest) final

namespace Linked

variable {start final : Node} {seen : List Sighting} {x : Sighting}

theorem concat (h : Linked start seen x.before) : Linked start (seen ++ [x]) x.after := by
  generalize hbefore : x.before = d at h
  induction h with
  | nil d => exact hbefore ▸ .cons (.nil x.after)
  | cons _ ih => exact .cons (ih hbefore)

/-- What every call keeps holds in the end. -/
theorem keeps {P : Node → Prop} (h : Linked start seen final) (hstart : P start)
    (hstep : ∀ x ∈ seen, P x.before → P x.after) : P final := by
  induction h with
  | nil => exact hstart
  | cons _ ih =>
      refine ih (hstep _ (List.mem_cons_self ..) hstart) fun x hx => ?_
      exact hstep x (List.mem_cons_of_mem _ hx)

end Linked

/-- The calls of a runner that were made in a folder, from a prepared disk on. -/
structure WorkedIn (folder : Path) (runner : Runner σ) (prepared final : Node)
    (seen : List Sighting) : Prop where
  linked : Linked prepared seen final
  made : ∀ x ∈ seen, x.call.folder = folder ∧ runner.Made x.call x
  entered : seen ≠ [] → isFolder prepared folder = true

theorem WorkedIn.nil {folder : Path} {runner : Runner σ} {d : Node} : WorkedIn folder runner d d [] :=
  ⟨.nil d, fun _ hx => absurd hx List.not_mem_nil, fun h => absurd rfl h⟩

namespace Stage.Runs

variable {w : Workspace} {runner : Runner σ} {folder : Path} {prepared : Node}

/-- A further call in the folder. -/
theorem call_workedIn {c : ToolCall} (hfolder : isFolder prepared folder = true)
    (hc : c.folder = folder) :
    Runs w (Seeing (WorkedIn folder runner prepared)) (Stage.call runner.watched c)
      (fun _ => Seeing (WorkedIn folder runner prepared))
      fun _ => Seeing (WorkedIn folder runner prepared) := by
  have hcall : ∀ (seen : List Sighting) (x : Sighting),
      WorkedIn folder runner prepared x.before seen → runner.Made c x →
        WorkedIn folder runner prepared x.after (seen ++ [x]) := fun seen x h hmade => by
    refine ⟨h.linked.concat, ?_, fun _ => hfolder⟩
    refine List.forall_mem_append.mpr ⟨h.made, List.forall_mem_singleton.mpr ?_⟩
    rw [hmade.call_eq]
    exact ⟨hc, hmade⟩
  exact .sighted (fun seen x h hmade _ => hcall seen x h hmade)
    fun seen x _ h hmade _ => hcall seen x h hmade

end Stage.Runs

namespace Pipeline

open Stage

variable {pipeline : Pipeline σ} {w : Workspace} {start : Node}

/-! ### Preparing -/

/-- Whether a build from a disk appends to the hook file: it is to go without precompiled headers, it
finds both compilers, and the file can be opened. -/
def appends (pipeline : Pipeline σ) (disk : Node) (cwd : Path) : Bool :=
  pipeline.job.withoutPch && (pipeline.compilersOn disk cwd).isOk &&
    opens disk (cwd / "cmake_user_begin.cmake")

/-- The change that a build makes to the hook file, if any. -/
def Directs (pipeline : Pipeline σ) (cwd : Path) (d e : Node) : Prop :=
  if pipeline.appends d cwd then
    Appended (cwd / "cmake_user_begin.cmake").location (Utf8.encode "set(USE_PCH FALSE)\n") d e
  else e = d

/-- All that a build does to a disk before its first call. -/
def Prepares (pipeline : Pipeline σ) (cwd : Path) (d e : Node) : Prop :=
  ∃ directed, pipeline.Directs cwd d directed ∧ Grown (cwd / pipeline.job.buildFolder).road directed e

/-- What is accounted for after a build. -/
def Accounts (pipeline : Pipeline σ) (cwd : Path) (start final : Node) (seen : List Sighting) : Prop :=
  ∃ prepared, pipeline.Prepares cwd start prepared ∧
    WorkedIn (cwd / pipeline.job.buildFolder) pipeline.runner prepared final seen

theorem Prepares.accounts {cwd : Path} {d : Node} (h : pipeline.Prepares cwd start d) :
    pipeline.Accounts cwd start d [] :=
  ⟨d, h, .nil⟩

theorem disableHeaders_runs {P : Assertion σ} :
    Runs w (fun d m => d = start ∧ P start m) disableHeaders
      (fun _ d m => (opens start (w.cwd / "cmake_user_begin.cmake") = true ∧
        Appended (w.cwd / "cmake_user_begin.cmake").location (Utf8.encode "set(USE_PCH FALSE)\n")
          start d) ∧ P start m)
      (fun _ d m => (opens start (w.cwd / "cmake_user_begin.cmake") = false ∧ d = start) ∧
        P start m) := by
  unfold disableHeaders
  refine .bind .path fun hook => .assuming fun hhook => .bind .report fun _ => ?_
  subst hhook
  refine .bind (M := fun l d m => openForWriting (w.path ⟨hookFile⟩) false start = .ok l d ∧ P start m)
    (.attempt ?_) fun l => .attempt ?_
  · rintro d m ⟨rfl, hP⟩
    cases hopen : openForWriting (w.path ⟨hookFile⟩) false d with
    | ok l e => exact ⟨rfl, hP⟩
    | error fault e => exact ⟨opens_of_error hopen, hP⟩
  · rintro d m ⟨hopen, hP⟩
    obtain ⟨e, hrun, hdone⟩ := appendAt_of_opened hopen (Utf8.encode headersDirective)
    rw [hrun]
    exact ⟨⟨opens_of_ok hopen, hdone⟩, hP⟩

theorem makeFolders_prepares {folder : Path} (hfolder : folder = w.cwd / pipeline.job.buildFolder) :
    Runs w (Seeing fun d seen => pipeline.Directs w.cwd start d ∧ seen = [])
      (Stage.attempt "create" folder (makeFolders folder) : Stage (Watched σ) Unit)
      (fun _ => Seeing fun d seen => pipeline.Prepares w.cwd start d ∧ seen = [])
      fun _ => Seeing fun d seen => pipeline.Prepares w.cwd start d ∧ seen = [] := by
  refine .attempt ?_
  rintro d m ⟨hdirects, hseen⟩
  have hgrows := makeFolders_grows folder d
  cases hrun : makeFolders folder d with
  | ok u e =>
      rw [hrun] at hgrows
      exact ⟨⟨d, hdirects, hfolder ▸ hgrows⟩, hseen⟩
  | error fault e =>
      rw [hrun] at hgrows
      exact ⟨⟨d, hdirects, hfolder ▸ hgrows⟩, hseen⟩

/-- Making the build folder and working in it. -/
theorem configureAndCompile_accounts {compilers : Toolchain.Compilers}
    (hcwd : w.cwd.isAbsolute = true) :
    Runs w (Seeing fun d seen => pipeline.Directs w.cwd start d ∧ seen = [])
      (pipeline.watched.configureAndCompile compilers)
      (fun _ => Seeing (pipeline.Accounts w.cwd start))
      fun _ => Seeing (pipeline.Accounts w.cwd start) := by
  have hquiet : ∀ (d : Node) (seen : List Sighting),
      pipeline.Prepares w.cwd start d ∧ seen = [] → pipeline.Accounts w.cwd start d seen := by
    rintro d _ ⟨hprepares, rfl⟩
    exact hprepares.accounts
  unfold configureAndCompile buildFolder
  refine .bind .path fun folder => .assuming fun hfolder => ?_
  have hpath : w.path folder = folder := by
    rw [hfolder]
    exact Workspace.cwd_inside_path hcwd _
  have hfolder : folder = w.cwd / pipeline.job.buildFolder := hfolder
  refine .bind ((makeFolders_prepares hfolder).weaken (fun _ _ h => h) (fun _ _ _ h => h)
    fun _ _ _ h => hquiet _ _ h) fun _ => .bind .report fun _ => .within ?_ ?_
  · intro d m h _
    exact hquiet d m.seen h
  · refine .bind .cwd fun cwd => .assuming fun hinside => ?_
    have hinside : cwd = folder := hinside.trans hpath
    subst hinside
    -- What the disk is when the folder is entered is what was prepared.
    refine .weaken (show Runs _ (fun d m => ∃ prepared,
        (pipeline.Prepares w.cwd start prepared ∧ isFolder prepared cwd = true) ∧
          WorkedIn cwd pipeline.runner prepared d m.seen) _ _ _ from
        .of_exists fun prepared => .assuming fun hprepared => ?_) ?_ (fun _ _ _ h => h)
      fun _ _ _ h => h
    · have hworks : ∀ d seen, WorkedIn cwd pipeline.runner prepared d seen →
          pipeline.Accounts w.cwd start d seen :=
        fun d seen h => ⟨prepared, hprepared.1, hfolder ▸ h⟩
      refine .bind ((Runs.call_workedIn hprepared.2 rfl).weaken (fun _ _ h => h) (fun _ _ _ h => h)
        fun _ _ _ h => hworks _ _ h) fun _ => .bind .report fun _ => ?_
      refine .bind ((Runs.call_workedIn hprepared.2 rfl).weaken (fun _ _ h => h) (fun _ _ _ h => h)
        fun _ _ _ h => hworks _ _ h) fun _ => ?_
      exact Runs.report.weaken (fun _ _ h => h) (fun _ _ _ h => hworks _ _ h) fun _ _ _ h => h
    · rintro d m ⟨hentered, hprepares, hseen⟩
      rw [hpath] at hentered
      exact ⟨d, ⟨hprepares, hentered⟩, hseen ▸ .nil⟩

/-! ### Whole stages -/

/-- A build without compilers, or with precompiled headers, leaves the hook file alone. -/
theorem directs_refl {cwd : Path} (h : pipeline.job.withoutPch = false ∨
    (pipeline.compilersOn start cwd).isOk = false) : pipeline.Directs cwd start start := by
  have happends : pipeline.appends start cwd = false := by
    unfold appends
    rcases h with h | h <;> simp [h]
  rw [Directs, happends]
  rfl

theorem build_accounts (hcwd : w.cwd.isAbsolute = true) :
    Runs w (Seeing fun d seen => d = start ∧ seen = []) pipeline.watched.build
      (fun _ => Seeing (pipeline.Accounts w.cwd start))
      fun _ => Seeing (pipeline.Accounts w.cwd start) := by
  have hquiet : ∀ {d : Node} {seen : List Sighting}, pipeline.Directs w.cwd start d → seen = [] →
      pipeline.Accounts w.cwd start d seen := by
    rintro d _ hdirects rfl
    exact Prepares.accounts ⟨d, hdirects, .refl d⟩
  rw [build_eq]
  refine .bind (resolveCompilers_runs.weaken (fun _ _ h => h) (fun _ _ _ h => h) ?_)
    fun compilers => .assuming fun hcompilers => ?_
  · rintro failure d m ⟨hnone, rfl, hseen⟩
    have hnone : pipeline.compilersOn d w.cwd = .error failure := hnone
    exact hquiet (directs_refl (.inr (by rw [hnone]; rfl))) hseen
  · have hcompilers : pipeline.compilersOn start w.cwd = .ok compilers := hcompilers
    unfold buildWith
    refine .ite (fun hpch => ?_) fun hpch => ?_
    · have hpch : pipeline.job.withoutPch = true := hpch
      have happends : pipeline.appends start w.cwd = opens start (w.cwd / "cmake_user_begin.cmake") := by
        rw [appends, hpch, hcompilers]
        rfl
      refine .bind ((disableHeaders_runs (P := fun _ m => m.seen = [])).weaken
        (fun _ _ h => h) (fun _ _ _ h => h) ?_) fun _ =>
        (configureAndCompile_accounts hcwd).weaken ?_ (fun _ _ _ h => h) fun _ _ _ h => h
      · rintro failure d m ⟨⟨hopens, rfl⟩, hseen⟩
        refine hquiet ?_ hseen
        rw [Directs, happends, hopens]
        rfl
      · rintro d m ⟨⟨hopens, hdone⟩, hseen⟩
        refine ⟨?_, hseen⟩
        rw [Directs, happends, hopens]
        exact hdone
    · refine (configureAndCompile_accounts hcwd).weaken ?_ (fun _ _ _ h => h) fun _ _ _ h => h
      rintro d m ⟨rfl, hseen⟩
      exact ⟨directs_refl (.inl (Bool.not_eq_true _ ▸ hpch)), hseen⟩

/-- A test run prepares nothing. -/
theorem test_accounts (hcwd : w.cwd.isAbsolute = true) :
    Runs w (Seeing fun d seen => d = start ∧ seen = []) pipeline.watched.test
      (fun _ => Seeing (WorkedIn (w.cwd / pipeline.job.buildFolder) pipeline.runner start))
      fun _ => Seeing (WorkedIn (w.cwd / pipeline.job.buildFolder) pipeline.runner start) := by
  have hquiet : ∀ {d : Node} {seen : List Sighting}, d = start ∧ seen = [] →
      WorkedIn (w.cwd / pipeline.job.buildFolder) pipeline.runner start d seen := by
    rintro d _ ⟨rfl, rfl⟩
    exact .nil
  unfold test
  refine .bind (.existingBuildFolder fun d m h _ => hquiet h) fun folder =>
    .of_fact (fun d m h => h.1.1) fun hfolder => .within (fun d m h _ => hquiet h.2) ?_
  have hpath : w.path folder = folder := by
    rw [hfolder]
    exact Workspace.cwd_inside_path hcwd _
  have hfolder : w.cwd / pipeline.job.buildFolder = folder := hfolder.symm
  rw [hpath, hfolder]
  refine .bind .report fun _ => .bind .cwd fun cwd => .assuming fun hinside => ?_
  have hinside : cwd = folder := hinside.trans hpath
  subst hinside
  refine .of_fact (φ := isFolder start cwd = true) ?_ fun hentered => ?_
  · rintro d m ⟨hentered, -, rfl, -⟩
    exact hentered
  · refine (Runs.call_workedIn hentered rfl).weaken ?_ (fun _ _ _ h => h) fun _ _ _ h => h
    rintro d m ⟨-, -, hquiet⟩
    obtain ⟨rfl, hseen⟩ := hquiet
    change WorkedIn cwd pipeline.runner d d m.seen
    rw [hseen]
    exact .nil

/-- The account of a build. -/
theorem build_account (pipeline : Pipeline σ) (s : Session σ)
    (hcwd : s.workspace.cwd.isAbsolute = true) :
    let t := sessionAfter pipeline.watched.build s.watched
    t.workspace = s.workspace ∧
      pipeline.Accounts s.workspace.cwd s.bench.disk t.bench.disk t.bench.memory.seen :=
  Runs.sessionAfter (w := s.workspace) (build_accounts hcwd) s.watched rfl ⟨rfl, rfl⟩

/-- The account of a test run. -/
theorem test_account (pipeline : Pipeline σ) (s : Session σ)
    (hcwd : s.workspace.cwd.isAbsolute = true) :
    let t := sessionAfter pipeline.watched.test s.watched
    t.workspace = s.workspace ∧
      WorkedIn (s.workspace.cwd / pipeline.job.buildFolder) pipeline.runner s.bench.disk
        t.bench.disk t.bench.memory.seen :=
  Runs.sessionAfter (w := s.workspace) (test_accounts hcwd) s.watched rfl ⟨rfl, rfl⟩

end Pipeline

end ReleasePipeline
