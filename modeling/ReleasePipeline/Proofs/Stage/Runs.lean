import ReleasePipeline.Proofs.Path.Joining
import ReleasePipeline.Stage.Build

/-!
# ReleasePipeline.Proofs.Stage.Runs

How a stage runs, from any session that satisfies a precondition: it ends with a value or with a
failure, and each ending has a postcondition of its own. `Runs` fixes the workspace that the stage
starts in and asserts that the stage leaves the very same one, whichever way it ends. So every rule
below is a piece of the proof that stages go back to the folder they came from, and
`Runs.within`, the one rule for a step that changes the current folder, has the body run in the
folder that was entered.

Assertions speak of the disk and of the runner's memory. The events a stage reports are not among
them, since no step reads them.
-/

namespace ReleasePipeline

/-- What is asserted of a session, its workspace and its events aside. -/
abbrev Assertion (σ : Type) := Node → σ → Prop

/-- An assertion of a session. -/
def Session.Meets (s : Session σ) (P : Assertion σ) : Prop :=
  P s.bench.disk s.bench.memory

namespace Workspace

/-- The workspace inside a folder. -/
def inside (w : Workspace) (folder : Path) : Workspace :=
  { w with cwd := w.path folder }

/-- In a workspace at an absolute folder, a path that was already seen from there stays as it is. -/
theorem cwd_inside_path {w : Workspace} (hcwd : w.cwd.isAbsolute = true) (p : Path) :
    (w.inside (w.path p)).cwd = w.cwd / p :=
  Path.join_join w.cwd p.text hcwd

/-- Going back from inside a folder. -/
theorem leave_inside {w entered : Workspace} {folder : Path} (h : entered = w.inside folder) :
    entered.leave ⟨w.cwd⟩ = w := by
  subst h
  rfl

end Workspace

/-- The session inside a folder. -/
def Session.entered (s : Session σ) (folder : Path) : Session σ :=
  ⟨s.workspace.inside folder, s.bench.report (.entered (s.workspace.path folder))⟩

/-- The session after going back through a guard. -/
def Session.left (s : Session σ) (guard : Guard) : Session σ :=
  ⟨s.workspace.leave guard, s.bench.report (.returned guard.previous)⟩

namespace Stage

/-! ### Entering a folder -/

theorem get_eq {s : α} : (EStateM.get s : EStateM.Result Failure α α) = .ok s s :=
  rfl

theorem enter_of_isFolder {s : Session σ} {folder : Path}
    (h : Disk.isFolder s.bench.disk (s.workspace.path folder) = true) :
    enter folder s = .ok ⟨s.workspace.cwd⟩ (s.entered folder) := by
  have henter : s.workspace.enter s.bench.disk folder =
      .ok (⟨s.workspace.cwd⟩, s.workspace.inside folder) := by
    rw [Workspace.enter]
    exact if_pos h
  unfold enter
  simp only [bind, EStateM.bind, get, getThe, MonadStateOf.get, get_eq, henter]
  rfl

theorem enter_of_not_isFolder {s : Session σ} {folder : Path}
    (h : Disk.isFolder s.bench.disk (s.workspace.path folder) = false) :
    enter folder s = .error (.diskFailed "enter" (s.workspace.path folder) .notFound) s := by
  have henter : s.workspace.enter s.bench.disk folder =
      .error (.diskFailed "enter" (s.workspace.path folder) .notFound) := by
    rw [Workspace.enter]
    exact if_neg (by simp [h])
  unfold enter
  simp only [bind, EStateM.bind, get, getThe, MonadStateOf.get, get_eq, henter]
  rfl

theorem within_of_not_isFolder {s : Session σ} {folder : Path} {body : Stage σ α}
    (h : Disk.isFolder s.bench.disk (s.workspace.path folder) = false) :
    within folder body s = .error (.diskFailed "enter" (s.workspace.path folder) .notFound) s := by
  change EStateM.bind (enter folder) _ s = _
  simp only [EStateM.bind, enter_of_not_isFolder h]

/-- What is done inside a folder ends as its body does, one step back. -/
theorem within_of_isFolder {s : Session σ} {folder : Path} {body : Stage σ α}
    (h : Disk.isFolder s.bench.disk (s.workspace.path folder) = true) :
    within folder body s = match body (s.entered folder) with
      | .ok a t => .ok a (t.left ⟨s.workspace.cwd⟩)
      | .error failure t => .error failure (t.left ⟨s.workspace.cwd⟩) := by
  change EStateM.bind (enter folder) _ s = _
  simp only [EStateM.bind, enter_of_isFolder h]
  rfl

/-- The session after a part of a stage, whichever way it ended. -/
def sessionAfter (stage : Stage σ α) (s : Session σ) : Session σ :=
  match stage s with
  | .ok _ t => t
  | .error _ t => t

theorem sessionAfter_bind_ok {x : Stage σ α} {f : α → Stage σ β} {s t : Session σ} {a : α}
    (h : x s = .ok a t) : sessionAfter (x >>= f) s = sessionAfter (f a) t := by
  unfold sessionAfter
  change (match EStateM.bind x f s with | .ok _ t => t | .error _ t => t) = _
  rw [EStateM.bind, h]

theorem sessionAfter_bind_error {x : Stage σ α} {f : α → Stage σ β} {s t : Session σ}
    {failure : Failure} (h : x s = .error failure t) : sessionAfter (x >>= f) s = t := by
  unfold sessionAfter
  change (match EStateM.bind x f s with | .ok _ t => t | .error _ t => t) = _
  rw [EStateM.bind, h]

/-- Whether a part of a stage ends with a value. -/
def succeeds (stage : Stage σ α) (s : Session σ) : Bool :=
  match stage s with
  | .ok _ _ => true
  | .error _ _ => false

/-- The failure that a part of a stage ends with. -/
def failure? (stage : Stage σ α) (s : Session σ) : Option Failure :=
  match stage s with
  | .ok _ _ => none
  | .error failure _ => some failure

theorem exists_of_succeeds {stage : Stage σ α} {s : Session σ} (h : succeeds stage s = true) :
    ∃ a t, stage s = .ok a t := by
  unfold succeeds at h
  cases hrun : stage s with
  | ok a t => exact ⟨a, t, rfl⟩
  | error failure t =>
      rw [hrun] at h
      cases h

/-! ### Runs -/

/-- From a workspace and a precondition, a stage goes back to that workspace and meets one
postcondition if it ends with a value and another if it ends with a failure. -/
structure Runs (w : Workspace) (P : Assertion σ) (stage : Stage σ α) (Q : α → Assertion σ)
    (E : Failure → Assertion σ) : Prop where
  ending : ∀ s, s.workspace = w → s.Meets P →
    match stage s with
    | .ok a t => t.workspace = w ∧ t.Meets (Q a)
    | .error failure t => t.workspace = w ∧ t.Meets (E failure)

namespace Runs

variable {w : Workspace} {P P' : Assertion σ} {Q Q' : α → Assertion σ}
  {E E' : Failure → Assertion σ}

theorem meets {stage : Stage σ α} {s t : Session σ} {a : α} (h : Runs w P stage Q E)
    (hw : s.workspace = w) (hs : s.Meets P) (hrun : stage s = .ok a t) : t.Meets (Q a) := by
  have h := h.ending s hw hs
  rw [hrun] at h
  exact h.2

theorem meets_error {stage : Stage σ α} {s t : Session σ} {failure : Failure}
    (h : Runs w P stage Q E) (hw : s.workspace = w) (hs : s.Meets P)
    (hrun : stage s = .error failure t) : t.Meets (E failure) := by
  have h := h.ending s hw hs
  rw [hrun] at h
  exact h.2

/-- What cannot fail ends with a value. -/
theorem exists_ok {stage : Stage σ α} {s : Session σ}
    (h : Runs w P stage Q fun _ _ _ => False) (hw : s.workspace = w) (hs : s.Meets P) :
    ∃ a t, stage s = .ok a t ∧ t.Meets (Q a) := by
  have h := h.ending s hw hs
  cases hrun : stage s with
  | ok a t =>
      rw [hrun] at h
      exact ⟨a, t, rfl, h.2⟩
  | error failure t =>
      rw [hrun] at h
      exact h.2.elim

/-- What cannot end with a value fails. -/
theorem exists_error {stage : Stage σ α} {s : Session σ}
    (h : Runs w P stage (fun _ _ _ => False) E) (hw : s.workspace = w) (hs : s.Meets P) :
    ∃ failure t, stage s = .error failure t ∧ t.Meets (E failure) := by
  have h := h.ending s hw hs
  cases hrun : stage s with
  | ok a t =>
      rw [hrun] at h
      exact h.2.elim
  | error failure t =>
      rw [hrun] at h
      exact ⟨failure, t, rfl, h.2⟩

theorem sessionAfter {stage : Stage σ α} {Q : Assertion σ}
    (h : Runs w P stage (fun _ => Q) fun _ => Q) (s : Session σ) (hw : s.workspace = w)
    (hs : s.Meets P) :
    (Stage.sessionAfter stage s).workspace = w ∧ (Stage.sessionAfter stage s).Meets Q := by
  have h := h.ending s hw hs
  unfold Stage.sessionAfter
  cases hrun : stage s with
  | ok a t =>
      rw [hrun] at h
      exact h
  | error failure t =>
      rw [hrun] at h
      exact h

/-! ### Structural rules -/

theorem bind {x : Stage σ α} {f : α → Stage σ β} {M : α → Assertion σ} {Q : β → Assertion σ}
    (hx : Runs w P x M E) (hf : ∀ a, Runs w (M a) (f a) Q E) : Runs w P (x >>= f) Q E := by
  constructor
  intro s hw hs
  have h := hx.ending s hw hs
  -- A failure of the first part is the ending of the whole.
  change match EStateM.bind x f s with
    | .ok b t => t.workspace = w ∧ t.Meets (Q b)
    | .error failure t => t.workspace = w ∧ t.Meets (E failure)
  unfold EStateM.bind
  cases hrun : x s with
  | ok a t =>
      rw [hrun] at h
      exact (hf a).ending t h.1 h.2
  | error failure t =>
      rw [hrun] at h
      exact h

theorem pure {a : α} (h : ∀ d m, P d m → Q a d m) : Runs w P (Pure.pure a) Q E :=
  ⟨fun _ hw hs => ⟨hw, h _ _ hs⟩⟩

theorem throw {failure : Failure} (h : ∀ d m, P d m → E failure d m) :
    Runs w P (MonadExcept.throw failure : Stage σ α) Q E :=
  ⟨fun _ hw hs => ⟨hw, h _ _ hs⟩⟩

theorem throw_bind {failure : Failure} {f : α → Stage σ β} {Q : β → Assertion σ}
    (h : ∀ d m, P d m → E failure d m) :
    Runs w P ((MonadExcept.throw failure : Stage σ α) >>= f) Q E :=
  ⟨fun _ hw hs => ⟨hw, h _ _ hs⟩⟩

/-- Consequence: less is asserted before and more after. -/
theorem weaken {x : Stage σ α} (h : Runs w P' x Q' E') (hP : ∀ d m, P d m → P' d m)
    (hQ : ∀ a d m, Q' a d m → Q a d m) (hE : ∀ failure d m, E' failure d m → E failure d m) :
    Runs w P x Q E := by
  constructor
  intro s hw hs
  have h := h.ending s hw (hP _ _ hs)
  cases hrun : x s with
  | ok a t =>
      rw [hrun] at h
      exact ⟨h.1, hQ _ _ _ h.2⟩
  | error failure t =>
      rw [hrun] at h
      exact ⟨h.1, hE _ _ _ h.2⟩

/-- What follows from the precondition and does not depend on the session may be assumed. -/
theorem of_fact {x : Stage σ α} {φ : Prop} (hφ : ∀ d m, P d m → φ) (h : φ → Runs w P x Q E) :
    Runs w P x Q E :=
  ⟨fun s hw hs => (h (hφ _ _ hs)).ending s hw hs⟩

/-- A precondition that does not depend on the session may be assumed. -/
theorem assuming {x : Stage σ α} {φ : Prop} (h : φ → Runs w P x Q E) :
    Runs w (fun d m => φ ∧ P d m) x Q E :=
  ⟨fun s hw hs => (h hs.1).ending s hw hs.2⟩

/-- A witness of the precondition may be fixed. -/
theorem of_exists {ι : Type} {x : Stage σ α} {R : ι → Assertion σ}
    (h : ∀ i, Runs w (R i) x Q E) : Runs w (fun d m => ∃ i, R i d m) x Q E := by
  constructor
  intro s hw hs
  obtain ⟨i, hi⟩ := hs
  exact (h i).ending s hw hi

theorem ite {c : Prop} [Decidable c] {x y : Stage σ α} (hx : c → Runs w P x Q E)
    (hy : ¬c → Runs w P y Q E) : Runs w P (if c then x else y) Q E := by
  split
  · exact hx ‹_›
  · exact hy ‹_›

/-! ### Steps -/

theorem report {event : Event} : Runs w P (Stage.report event) (fun _ => P) E :=
  ⟨fun _ hw hs => ⟨hw, hs⟩⟩

theorem disk : Runs w P Stage.disk (fun a d m => a = d ∧ P d m) E :=
  ⟨fun _ hw hs => ⟨hw, rfl, hs⟩⟩

theorem cwd : Runs w P Stage.cwd (fun a d m => a = w.cwd ∧ P d m) E :=
  ⟨fun _ hw hs => ⟨hw, congrArg Workspace.cwd hw, hs⟩⟩

theorem path {p : Path} : Runs w P (Stage.path p) (fun a d m => a = w.path p ∧ P d m) E :=
  ⟨fun _ hw hs => ⟨hw, congrArg (·.path p) hw, hs⟩⟩

/-- An operation on the disk, its outcome as a value. -/
theorem onDisk {op : DiskM α} {Q : Except Fault α → Assertion σ}
    (h : ∀ d m, P d m → match op d with
      | .ok a d' => Q (.ok a) d' m
      | .error fault d' => Q (.error fault) d' m) :
    Runs w P (Stage.onDisk op) Q E := by
  constructor
  intro s hw hs
  have h := h _ _ hs
  unfold Stage.onDisk
  cases hop : op s.bench.disk with
  | ok a d =>
      rw [hop] at h
      exact ⟨hw, h⟩
  | error fault d =>
      rw [hop] at h
      exact ⟨hw, h⟩

/-- What is asserted when the outcome of an operation is looked at: one thing of a value, another of
a fault. -/
def ofOutcome (Q : α → Assertion σ) (F : Fault → Assertion σ) : Except Fault α → Assertion σ
  | .ok a => Q a
  | .error fault => F fault

/-- An operation on the disk that is a failure of the stage if it ends with a fault. -/
theorem attempt {action : String} {p : EntryPath} {op : DiskM α}
    (h : ∀ d m, P d m → match op d with
      | .ok a d' => Q a d' m
      | .error fault d' => E (.diskFailed action p fault) d' m) :
    Runs w P (Stage.attempt action p op) Q E := by
  refine bind (M := ofOutcome Q fun fault => E (.diskFailed action p fault))
    (onDisk ?_) ?_
  · intro d m hd
    have h := h d m hd
    cases hop : op d <;> rw [hop] at h <;> exact h
  · intro outcome
    cases outcome with
    | ok a => exact pure fun _ _ h => h
    | error fault => exact throw fun _ _ h => h

/-- A tool call. The runner sees the whole bench, its events too. -/
theorem call {runner : Runner σ} {c : ToolCall} {Q : Unit → Assertion σ}
    (h : ∀ bench : Bench σ, P bench.disk bench.memory → match runner c bench with
      | .ok () after => Q () after.disk after.memory
      | .error failure after => E failure after.disk after.memory) :
    Runs w P (Stage.call runner c) Q E := by
  constructor
  intro s hw hs
  have h := h _ hs
  unfold Stage.call
  cases hrun : runner c s.bench with
  | ok u after =>
      rw [hrun] at h
      exact ⟨hw, h⟩
  | error failure after =>
      rw [hrun] at h
      exact ⟨hw, h⟩

/-! ### Folders -/

/-- Something done inside a folder. If the folder is none, the stage fails before the body starts;
else the body runs there, and both its endings go back. -/
theorem within {folder : Path} {body : Stage σ α}
    (hno : ∀ d m, P d m → Disk.isFolder d (w.path folder) = false →
      E (.diskFailed "enter" (w.path folder) .notFound) d m)
    (hbody : Runs (w.inside folder) (fun d m => Disk.isFolder d (w.path folder) = true ∧ P d m) body
      Q E) :
    Runs w P (Stage.within folder body) Q E := by
  constructor
  intro s hw hs
  subst hw
  cases hfolder : Disk.isFolder s.bench.disk (s.workspace.path folder) with
  | false =>
      rw [within_of_not_isFolder hfolder]
      exact ⟨rfl, hno _ _ hs hfolder⟩
  | true =>
      have h := hbody.ending (s.entered folder) rfl ⟨hfolder, hs⟩
      rw [within_of_isFolder hfolder]
      cases hrun : body (s.entered folder) with
      | ok a t =>
          rw [hrun] at h
          exact ⟨Workspace.leave_inside h.1, h.2⟩
      | error failure t =>
          rw [hrun] at h
          exact ⟨Workspace.leave_inside h.1, h.2⟩

end Runs

end Stage

/-! ### The halves of a build -/

namespace Pipeline

/-- What a build does with its compilers, once the headers are settled. -/
def configureAndCompile (pipeline : Pipeline σ) (compilers : Toolchain.Compilers) :
    Stage σ Unit := do
  let folder ← pipeline.buildFolder
  Stage.attempt "create" folder (Disk.makeFolders folder)
  Stage.report (.configuring folder pipeline.job.configuration)
  Stage.within folder do
    let cwd ← Stage.cwd
    Stage.call pipeline.runner (configureCall pipeline.job compilers cwd)
    Stage.report .compiling
    Stage.call pipeline.runner (compileCall compilers cwd)
    Stage.report .buildFinished

/-- What a build does once it has its compilers. -/
def buildWith (pipeline : Pipeline σ) (compilers : Toolchain.Compilers) : Stage σ Unit :=
  if pipeline.job.withoutPch then do
    disableHeaders
    pipeline.configureAndCompile compilers
  else pipeline.configureAndCompile compilers

theorem build_eq (pipeline : Pipeline σ) :
    pipeline.build = pipeline.resolveCompilers >>= pipeline.buildWith := rfl

end Pipeline

end ReleasePipeline
