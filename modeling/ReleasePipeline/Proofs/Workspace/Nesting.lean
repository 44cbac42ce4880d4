import ReleasePipeline.Proofs.Path.Joining
import ReleasePipeline.Proofs.Stage.Endings

/-!
# ReleasePipeline.Proofs.Workspace.Nesting

The current folder of a workspace over a whole history: folders are entered and left, stages run,
and the disk changes in between for reasons of its own. Guards nest, so they form a stack, and the
current folder is always the one that the newest live guard entered, or the root.

The invariant is `Nested`: read from the newest guard down, each guard goes back to the folder that
the one below it entered, and the oldest goes back to the root. A stage keeps it trivially, because
every stage goes back to the workspace it started in (`GoesBack`), whatever it fails with.
-/

namespace ReleasePipeline

namespace Stage

/-- Whatever the disk, the memory and the ending, a stage leaves the workspace it started in. -/
def GoesBack (stage : Stage σ α) : Prop :=
  ∀ w, Runs w (fun _ _ => True) stage (fun _ _ _ => True) (fun _ _ _ => True)

namespace GoesBack

theorem workspace_sessionAfter {stage : Stage σ α} (h : GoesBack stage) (s : Session σ) :
    (sessionAfter stage s).workspace = s.workspace :=
  ((h s.workspace).sessionAfter s rfl trivial).1

end GoesBack

end Stage

namespace Pipeline

open Stage

/-! ### The stages go back -/

theorem build_goesBack (pipeline : Pipeline σ) : GoesBack pipeline.build :=
  build_failsOnly (fun _ _ _ _ => trivial) (fun _ _ _ _ _ => trivial) (fun _ _ => trivial)
    fun _ _ _ _ => trivial

theorem test_goesBack (pipeline : Pipeline σ) : GoesBack pipeline.test :=
  test_failsOnly (fun _ _ _ _ => trivial) (fun _ _ _ _ _ => trivial) fun _ _ => trivial

theorem archive_goesBack (pipeline : Pipeline σ) (packaging : Packaging) :
    GoesBack (pipeline.archive packaging) :=
  archive_failsOnly (fun _ _ _ _ => trivial) (fun _ _ _ _ _ => trivial) fun _ _ => trivial

end Pipeline

/-! ### Histories -/

/-- One operation of a history. A stage is run with whatever job, host and runner it is given. -/
inductive Act (σ : Type) where
  /-- Enters a folder, seen from the current one; the guard is kept if there is one. -/
  | enter (folder : Path)
  /-- Goes back through the newest live guard, if there is one. -/
  | leave
  | build (pipeline : Pipeline σ)
  | test (pipeline : Pipeline σ)
  | archive (pipeline : Pipeline σ) (packaging : Packaging)
  /-- The bench changes in any way for a reason outside of the workspace. -/
  | disturb (bench : Bench σ)

/-- A session with the guards that are live, the newest first, each with the folder it entered. -/
structure Visit (σ : Type) where
  session : Session σ
  live : List (Guard × Path)

namespace Visit

/-- A workspace that was just opened at a root. -/
def start (root : Path) (bench : Bench σ) : Visit σ :=
  ⟨⟨⟨root, root⟩, bench⟩, []⟩

/-- The visit after entering a folder, or after trying to. -/
def enter (v : Visit σ) (folder : Path) : Visit σ :=
  match Stage.enter folder v.session with
  | .ok guard s => ⟨s, (guard, v.session.workspace.path folder) :: v.live⟩
  | .error _ s => ⟨s, v.live⟩

/-- The visit after going back through the newest live guard. -/
def leave (v : Visit σ) : Visit σ :=
  match v.live with
  | [] => v
  | (guard, _) :: rest => ⟨Stage.sessionAfter (Stage.leave guard) v.session, rest⟩

/-- What an operation leaves. -/
def perform (v : Visit σ) : Act σ → Visit σ
  | .enter folder => v.enter folder
  | .leave => v.leave
  | .build pipeline => ⟨Stage.sessionAfter pipeline.build v.session, v.live⟩
  | .test pipeline => ⟨Stage.sessionAfter pipeline.test v.session, v.live⟩
  | .archive pipeline packaging =>
    ⟨Stage.sessionAfter (pipeline.archive packaging) v.session, v.live⟩
  | .disturb bench => ⟨{ v.session with bench }, v.live⟩

/-- What a history leaves. -/
def performAll (v : Visit σ) (history : List (Act σ)) : Visit σ :=
  history.foldl perform v

/-- The folder that the newest live guard entered, or the root if none is live. -/
def newest (v : Visit σ) (root : Path) : Path :=
  match v.live with
  | [] => root
  | (_, entered) :: _ => entered

/-! ### The stack of guards -/

/-- Whether guards form a stack on a root, under a current folder. -/
def Nested (root : Path) : List (Guard × Path) → Path → Prop
  | [], cwd => cwd = root
  | (guard, entered) :: rest, cwd => cwd = entered ∧ Nested root rest guard.previous

/-- The invariant of a visit. -/
structure Orderly (root : Path) (v : Visit σ) : Prop where
  root_eq : v.session.workspace.root = root
  nested : Nested root v.live v.session.workspace.cwd

theorem Orderly.start (root : Path) (bench : Bench σ) : Orderly root (Visit.start root bench) :=
  ⟨rfl, rfl⟩

theorem Orderly.workspace_eq {root : Path} {v : Visit σ} (h : Orderly root v) :
    v.session.workspace = ⟨root, v.newest root⟩ := by
  obtain ⟨⟨⟨root', cwd⟩, bench⟩, live⟩ := v
  obtain ⟨rfl, hn⟩ := h
  cases live with
  | nil => exact congrArg (Workspace.mk _) hn
  | cons first rest => exact congrArg (Workspace.mk _) hn.1

/-- Entering either makes the folder current or changes nothing at all. -/
theorem enter_cases (folder : Path) (s : Session σ) :
    Stage.enter folder s = .ok ⟨s.workspace.cwd⟩ (s.entered folder) ∨
      Stage.enter folder s = .error (.diskFailed "enter" (s.workspace.path folder) .notFound) s := by
  cases h : Disk.isFolder s.bench.disk (s.workspace.path folder) with
  | true => exact .inl (Stage.enter_of_isFolder h)
  | false => exact .inr (Stage.enter_of_not_isFolder h)

theorem enter_of_ok {v : Visit σ} {folder : Path} {guard : Guard} {s : Session σ}
    (h : Stage.enter folder v.session = .ok guard s) :
    v.enter folder = ⟨s, (guard, v.session.workspace.path folder) :: v.live⟩ := by
  unfold enter
  rw [h]

theorem enter_of_error {v : Visit σ} {folder : Path} {failure : Failure} {s : Session σ}
    (h : Stage.enter folder v.session = .error failure s) : v.enter folder = ⟨s, v.live⟩ := by
  unfold enter
  rw [h]

/-- Whatever leaves the workspace and the guards alone keeps the invariant. -/
theorem Orderly.of_same {root : Path} {v : Visit σ} (h : Orderly root v) {s : Session σ}
    (hs : s.workspace = v.session.workspace) : Orderly root ⟨s, v.live⟩ :=
  ⟨by rw [hs]; exact h.root_eq, by rw [hs]; exact h.nested⟩

/-- One operation keeps the invariant. -/
theorem Orderly.perform {root : Path} {v : Visit σ} (h : Orderly root v) (act : Act σ) :
    Orderly root (v.perform act) := by
  cases act with
  | enter folder =>
      change Orderly root (v.enter folder)
      -- The new guard remembers the folder that was current, which is what the stack asks of it.
      rcases enter_cases folder v.session with hok | herror
      · rw [enter_of_ok hok]
        exact ⟨h.root_eq, rfl, h.nested⟩
      · rw [enter_of_error herror]
        exact h
  | leave =>
      obtain ⟨s, live⟩ := v
      cases live with
      | nil => exact h
      | cons first rest => exact ⟨h.root_eq, h.nested.2⟩
  | build pipeline => exact h.of_same (pipeline.build_goesBack.workspace_sessionAfter _)
  | test pipeline => exact h.of_same (pipeline.test_goesBack.workspace_sessionAfter _)
  | archive pipeline packaging =>
      exact h.of_same ((pipeline.archive_goesBack packaging).workspace_sessionAfter _)
  | disturb bench => exact h.of_same rfl

/-- A whole history keeps the invariant. -/
theorem Orderly.performAll {root : Path} {v : Visit σ} (h : Orderly root v)
    (history : List (Act σ)) : Orderly root (v.performAll history) := by
  induction history generalizing v with
  | nil => exact h
  | cons act rest ih => exact ih (h.perform act)

/-! ### Absolute folders -/

/-- A workspace that is opened from an absolute folder starts out at an absolute root. -/
theorem isAbsolute_of_open {processFolder root : Path} {workspace : Workspace}
    (hprocess : processFolder.isAbsolute = true)
    (hopen : Workspace.open? processFolder root = .ok workspace) :
    workspace.root.isAbsolute = true ∧ workspace.cwd.isAbsolute = true := by
  unfold Workspace.open? at hopen
  cases habsolute : processFolder.absolute? root with
  | none =>
      rw [habsolute] at hopen
      cases hopen
  | some opened =>
      rw [habsolute] at hopen
      cases hopen
      have hroot : opened.isAbsolute = true := Path.isAbsolute_of_absolute? hprocess habsolute
      exact ⟨hroot, hroot⟩

/-- Every folder that a visit can come to without entering another is absolute. -/
structure Absolute (v : Visit σ) : Prop where
  cwd : v.session.workspace.cwd.isAbsolute = true
  previous : ∀ entry ∈ v.live, entry.1.previous.isAbsolute = true

theorem Absolute.of_same {v : Visit σ} (h : Absolute v) {s : Session σ}
    (hs : s.workspace = v.session.workspace) : Absolute ⟨s, v.live⟩ :=
  ⟨by rw [hs]; exact h.cwd, h.previous⟩

theorem Absolute.perform {v : Visit σ} (h : Absolute v) (act : Act σ) :
    Absolute (v.perform act) := by
  cases act with
  | enter folder =>
      change Absolute (v.enter folder)
      rcases enter_cases folder v.session with hok | herror
      · rw [enter_of_ok hok]
        refine ⟨Path.isAbsolute_join folder h.cwd, ?_⟩
        intro entry hentry
        rcases List.mem_cons.mp hentry with rfl | hentry
        · exact h.cwd
        · exact h.previous entry hentry
      · rw [enter_of_error herror]
        exact h
  | leave =>
      obtain ⟨s, live⟩ := v
      cases live with
      | nil => exact h
      | cons first rest =>
          exact ⟨h.previous first (List.mem_cons_self ..),
            fun entry hentry => h.previous entry (List.mem_cons_of_mem _ hentry)⟩
  | build pipeline => exact h.of_same (pipeline.build_goesBack.workspace_sessionAfter _)
  | test pipeline => exact h.of_same (pipeline.test_goesBack.workspace_sessionAfter _)
  | archive pipeline packaging =>
      exact h.of_same ((pipeline.archive_goesBack packaging).workspace_sessionAfter _)
  | disturb bench => exact h.of_same rfl

/-! ### The main statement -/

/-- **Guards nest.** After any history on a workspace that was opened at a root, the root is still
that root, and the current folder is the one that the newest live guard entered, or the root if no
guard is live. From there, each stage, however it ends, leaves both as they are, and a folder that
cannot be entered leaves the whole session as it is. The beginning of a history is a history, so
this holds between any two operations. -/
theorem workspace_performAll (root : Path) (bench : Bench σ) (history : List (Act σ)) :
    let v := (Visit.start root bench).performAll history
    v.session.workspace = ⟨root, v.newest root⟩ ∧
    (∀ pipeline, (v.perform (.build pipeline)).session.workspace = v.session.workspace) ∧
    (∀ pipeline, (v.perform (.test pipeline)).session.workspace = v.session.workspace) ∧
    (∀ pipeline packaging,
      (v.perform (.archive pipeline packaging)).session.workspace = v.session.workspace) ∧
    ∀ folder, match Stage.enter folder v.session with
      | .ok _ s => s.workspace = ⟨root, v.session.workspace.path folder⟩ ∧
          s.bench.disk = v.session.bench.disk
      | .error _ s => s = v.session := by
  intro v
  have hv : Orderly root v := (Orderly.start root bench).performAll history
  -- What follows holds of any visit with the invariant, so the history is forgotten.
  clear_value v
  refine ⟨hv.workspace_eq, ?_, ?_, ?_, ?_⟩
  · intro pipeline
    exact pipeline.build_goesBack.workspace_sessionAfter v.session
  · intro pipeline
    exact pipeline.test_goesBack.workspace_sessionAfter v.session
  · intro pipeline packaging
    exact (pipeline.archive_goesBack packaging).workspace_sessionAfter v.session
  · intro folder
    rcases enter_cases folder v.session with hok | herror
    · rw [hok]
      exact ⟨congrArg (Workspace.mk · _) hv.root_eq, rfl⟩
    · rw [herror]

end Visit

end ReleasePipeline
