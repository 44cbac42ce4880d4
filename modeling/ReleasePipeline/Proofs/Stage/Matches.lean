import ReleasePipeline.Proofs.Stage.Runs

/-!
# ReleasePipeline.Proofs.Stage.Matches

Two stages run side by side, on two disks that differ. `Matches` asserts that they end alike: both
with a value or both with the same failure. It fixes one workspace for both, and its pre- and
postconditions relate the two disks and the memories of the two runners. The rules follow those for
a single stage (`Stage.Runs`), one for each step, where a step on the one side goes with the same
step on the other. A part that is known to succeed on either side, or to fail on either side, is
matched by what is known of each side alone (`Matches.of_ok`, `Matches.of_error`).
-/

namespace ReleasePipeline

/-- What is asserted of two sessions side by side, workspaces and events aside. -/
abbrev Likeness (σ τ : Type) := Node → σ → Node → τ → Prop

/-- Two sessions side by side. -/
def Session.MeetWith (s : Session σ) (t : Session τ) (P : Likeness σ τ) : Prop :=
  P s.bench.disk s.bench.memory t.bench.disk t.bench.memory

/-- Two endings of one kind: values and states that are related, or one and the same failure. -/
inductive EndAlike {ε S T : Type} (Q : α → β → S → T → Prop) (E : S → T → Prop) :
    EStateM.Result ε S α → EStateM.Result ε T β → Prop where
  | ok {a : α} {b : β} {s : S} {t : T} (h : Q a b s t) : EndAlike Q E (.ok a s) (.ok b t)
  | error {failure : ε} {s : S} {t : T} (h : E s t) :
      EndAlike Q E (.error failure s) (.error failure t)

theorem EndAlike.weaken {ε S T : Type} {Q Q' : α → β → S → T → Prop} {E E' : S → T → Prop}
    {r : EStateM.Result ε S α} {r' : EStateM.Result ε T β} (h : EndAlike Q' E' r r')
    (hQ : ∀ a b s t, Q' a b s t → Q a b s t) (hE : ∀ s t, E' s t → E s t) : EndAlike Q E r r' := by
  cases h with
  | ok h => exact .ok (hQ _ _ _ _ h)
  | error h => exact .error (hE _ _ h)

theorem EndAlike.failure?_eq {x : Stage σ α} {y : Stage τ β} {s : Session σ} {t : Session τ}
    {Q : α → β → Session σ → Session τ → Prop} {E : Session σ → Session τ → Prop}
    (h : EndAlike Q E (x s) (y t)) : Stage.failure? x s = Stage.failure? y t := by
  unfold Stage.failure?
  generalize x s = r at h ⊢
  generalize y t = r' at h ⊢
  cases h with
  | ok => rfl
  | error => rfl

namespace Stage

/-- Both sessions are in a workspace. -/
def BothIn (w : Workspace) (s : Session σ) (t : Session τ) : Prop :=
  s.workspace = w ∧ t.workspace = w

/-- From one workspace and related sessions, two stages end alike and go back to the workspace. -/
structure Matches (w : Workspace) (P : Likeness σ τ) (x : Stage σ α) (y : Stage τ β)
    (Q : α → β → Likeness σ τ) (E : Likeness σ τ) : Prop where
  ending : ∀ s t, BothIn w s t → s.MeetWith t P →
    EndAlike (fun a b s' t' => BothIn w s' t' ∧ s'.MeetWith t' (Q a b))
      (fun s' t' => BothIn w s' t' ∧ s'.MeetWith t' E) (x s) (y t)

namespace Matches

variable {w : Workspace} {P P' : Likeness σ τ} {Q Q' : α → β → Likeness σ τ} {E E' : Likeness σ τ}

/-- If the one stage succeeds, so does the other. -/
theorem meetWith {x : Stage σ α} {y : Stage τ β} {s s' : Session σ} {t : Session τ} {a : α}
    (h : Matches w P x y Q E) (hw : BothIn w s t) (hP : s.MeetWith t P) (hrun : x s = .ok a s') :
    ∃ b t', y t = .ok b t' ∧ s'.MeetWith t' (Q a b) := by
  have h := h.ending s t hw hP
  rw [hrun] at h
  generalize y t = r at h ⊢
  cases h with
  | ok h => exact ⟨_, _, rfl, h.2⟩

/-! ### Structural rules -/

theorem bind {γ δ : Type} {x : Stage σ α} {y : Stage τ β} {f : α → Stage σ γ} {g : β → Stage τ δ}
    {M : α → β → Likeness σ τ} {Q : γ → δ → Likeness σ τ} (hxy : Matches w P x y M E)
    (hfg : ∀ a b, Matches w (M a b) (f a) (g b) Q E) : Matches w P (x >>= f) (y >>= g) Q E := by
  constructor
  intro s t hw hP
  have h := hxy.ending s t hw hP
  change EndAlike _ _ (EStateM.bind x f s) (EStateM.bind y g t)
  unfold EStateM.bind
  generalize x s = r at h ⊢
  generalize y t = r' at h ⊢
  cases h with
  | ok h => exact (hfg _ _).ending _ _ h.1 h.2
  | error h => exact .error h

theorem pure {a : α} {b : β} (h : ∀ d m e n, P d m e n → Q a b d m e n) :
    Matches w P (Pure.pure a : Stage σ α) (Pure.pure b : Stage τ β) Q E :=
  ⟨fun _ _ hw hP => .ok ⟨hw, h _ _ _ _ hP⟩⟩

theorem throw {failure : Failure} (h : ∀ d m e n, P d m e n → E d m e n) :
    Matches w P (MonadExcept.throw failure : Stage σ α) (MonadExcept.throw failure : Stage τ β)
      Q E :=
  ⟨fun _ _ hw hP => .error ⟨hw, h _ _ _ _ hP⟩⟩

/-- Consequence: less is asserted before and more after. -/
theorem weaken {x : Stage σ α} {y : Stage τ β} (h : Matches w P' x y Q' E')
    (hP : ∀ d m e n, P d m e n → P' d m e n)
    (hQ : ∀ a b d m e n, Q' a b d m e n → Q a b d m e n)
    (hE : ∀ d m e n, E' d m e n → E d m e n) : Matches w P x y Q E := by
  constructor
  intro s t hw hst
  exact (h.ending s t hw (hP _ _ _ _ hst)).weaken (fun _ _ _ _ h => ⟨h.1, hQ _ _ _ _ _ _ h.2⟩)
    fun _ _ h => ⟨h.1, hE _ _ _ _ h.2⟩

/-- What follows from the precondition and does not depend on the sessions may be assumed. -/
theorem of_fact {x : Stage σ α} {y : Stage τ β} {φ : Prop} (hφ : ∀ d m e n, P d m e n → φ)
    (h : φ → Matches w P x y Q E) : Matches w P x y Q E :=
  ⟨fun s t hw hP => (h (hφ _ _ _ _ hP)).ending s t hw hP⟩

/-- A precondition that does not depend on the sessions may be assumed. -/
theorem assuming {x : Stage σ α} {y : Stage τ β} {φ : Prop} (h : φ → Matches w P x y Q E) :
    Matches w (fun d m e n => φ ∧ P d m e n) x y Q E :=
  ⟨fun s t hw hP => (h hP.1).ending s t hw hP.2⟩

/-- The disks at the start may be fixed. -/
theorem fix {x : Stage σ α} {y : Stage τ β}
    (h : ∀ d m e n, P d m e n →
      Matches w (fun d' m' e' n' => (d' = d ∧ m' = m) ∧ e' = e ∧ n' = n) x y Q E) :
    Matches w P x y Q E :=
  ⟨fun s t hw hP => (h _ _ _ _ hP).ending s t hw ⟨⟨rfl, rfl⟩, rfl, rfl⟩⟩

theorem ite {c : Prop} [Decidable c] {x x' : Stage σ α} {y y' : Stage τ β}
    (hpos : c → Matches w P x y Q E) (hneg : ¬c → Matches w P x' y' Q E) :
    Matches w P (if c then x else x') (if c then y else y') Q E := by
  split
  · exact hpos ‹_›
  · exact hneg ‹_›

/-- Two stages that succeed on their own. -/
theorem of_ok {x : Stage σ α} {y : Stage τ β} {Px : Assertion σ} {Py : Assertion τ}
    {Qx : α → Assertion σ} {Qy : β → Assertion τ}
    (hx : Runs w Px x Qx fun _ _ _ => False) (hy : Runs w Py y Qy fun _ _ _ => False) :
    Matches w (fun d m e n => Px d m ∧ Py e n) x y (fun a b d m e n => Qx a d m ∧ Qy b e n) E := by
  constructor
  intro s t hw hP
  have hx := hx.ending s hw.1 hP.1
  have hy := hy.ending t hw.2 hP.2
  -- The endings that neither stage has are ruled out by its own triple.
  cases hrunx : x s with
  | error failure s' =>
      rw [hrunx] at hx
      exact hx.2.elim
  | ok a s' =>
      cases hruny : y t with
      | error failure t' =>
          rw [hruny] at hy
          exact hy.2.elim
      | ok b t' =>
          rw [hrunx] at hx
          rw [hruny] at hy
          exact .ok ⟨⟨hx.1, hy.1⟩, hx.2, hy.2⟩

/-- Two stages that fail on their own, with one and the same failure. -/
theorem of_error {x : Stage σ α} {y : Stage τ β} {Px : Assertion σ} {Py : Assertion τ}
    {failure : Failure} {Ex : Assertion σ} {Ey : Assertion τ}
    (hx : Runs w Px x (fun _ _ _ => False) fun cause d m => cause = failure ∧ Ex d m)
    (hy : Runs w Py y (fun _ _ _ => False) fun cause d m => cause = failure ∧ Ey d m) :
    Matches w (fun d m e n => Px d m ∧ Py e n) x y Q (fun d m e n => Ex d m ∧ Ey e n) := by
  constructor
  intro s t hw hP
  have hx := hx.ending s hw.1 hP.1
  have hy := hy.ending t hw.2 hP.2
  cases hrunx : x s with
  | ok a s' =>
      rw [hrunx] at hx
      exact hx.2.elim
  | error cause s' =>
      cases hruny : y t with
      | ok b t' =>
          rw [hruny] at hy
          exact hy.2.elim
      | error cause' t' =>
          rw [hrunx] at hx
          rw [hruny] at hy
          obtain ⟨hs, rfl, hEx⟩ := hx
          obtain ⟨ht, rfl, hEy⟩ := hy
          exact .error ⟨⟨hs, ht⟩, hEx, hEy⟩

/-! ### Steps -/

/-- Events need not be the same, since nothing depends on them. -/
theorem report {event event' : Event} :
    Matches w P (Stage.report event : Stage σ Unit) (Stage.report event' : Stage τ Unit)
      (fun _ _ => P) E :=
  ⟨fun _ _ hw hP => .ok ⟨hw, hP⟩⟩

theorem disk :
    Matches w P (Stage.disk : Stage σ Node) (Stage.disk : Stage τ Node)
      (fun a b d m e n => (a = d ∧ b = e) ∧ P d m e n) E :=
  ⟨fun _ _ hw hP => .ok ⟨hw, ⟨rfl, rfl⟩, hP⟩⟩

theorem cwd :
    Matches w P (Stage.cwd : Stage σ Path) (Stage.cwd : Stage τ Path)
      (fun a b d m e n => (a = w.cwd ∧ b = w.cwd) ∧ P d m e n) E :=
  ⟨fun _ _ hw hP =>
    .ok ⟨hw, ⟨congrArg Workspace.cwd hw.1, congrArg Workspace.cwd hw.2⟩, hP⟩⟩

theorem path {p : Path} :
    Matches w P (Stage.path p : Stage σ Path) (Stage.path p : Stage τ Path)
      (fun a b d m e n => (a = w.path p ∧ b = w.path p) ∧ P d m e n) E :=
  ⟨fun _ _ hw hP =>
    .ok ⟨hw, ⟨congrArg (·.path p) hw.1, congrArg (·.path p) hw.2⟩, hP⟩⟩

/-- Operations on the two disks that end alike; their faults are failures of the stages. -/
theorem attempt {action : String} {p : EntryPath} {op : DiskM α} {op' : DiskM β}
    (h : ∀ d m e n, P d m e n →
      EndAlike (fun a b d' e' => Q a b d' m e' n) (fun d' e' => E d' m e' n) (op d) (op' e)) :
    Matches w P (Stage.attempt action p op) (Stage.attempt action p op') Q E := by
  constructor
  intro s t hw hP
  have h := h _ _ _ _ hP
  unfold Stage.attempt
  change EndAlike _ _ (EStateM.bind (Stage.onDisk op) _ s) (EStateM.bind (Stage.onDisk op') _ t)
  unfold EStateM.bind Stage.onDisk
  generalize op s.bench.disk = r at h ⊢
  generalize op' t.bench.disk = r' at h ⊢
  cases h with
  | ok h => exact .ok ⟨hw, h⟩
  | error h => exact .error ⟨hw, h⟩

/-- Tool calls that end alike. -/
theorem call {runner : Runner σ} {runner' : Runner τ} {c : ToolCall} {Q : Unit → Unit → Likeness σ τ}
    (h : ∀ (b : Bench σ) (b' : Bench τ), P b.disk b.memory b'.disk b'.memory →
      EndAlike (fun _ _ a a' => Q () () a.disk a.memory a'.disk a'.memory)
        (fun a a' => E a.disk a.memory a'.disk a'.memory) (runner c b) (runner' c b')) :
    Matches w P (Stage.call runner c) (Stage.call runner' c) Q E := by
  constructor
  intro s t hw hP
  have h := h _ _ hP
  unfold Stage.call
  generalize runner c s.bench = r at h ⊢
  generalize runner' c t.bench = r' at h ⊢
  cases h with
  | ok h => exact .ok ⟨hw, h⟩
  | error h => exact .error ⟨hw, h⟩

/-! ### Folders -/

/-- Something done inside a folder that both disks have or both have not. -/
theorem within {folder : Path} {x : Stage σ α} {y : Stage τ β}
    (hfolder : ∀ d m e n, P d m e n → Disk.isFolder d (w.path folder) = Disk.isFolder e (w.path folder))
    (hno : ∀ d m e n, P d m e n → E d m e n)
    (hbody : Matches (w.inside folder) (fun d m e n => (Disk.isFolder d (w.path folder) = true ∧
      Disk.isFolder e (w.path folder) = true) ∧ P d m e n) x y Q E) :
    Matches w P (Stage.within folder x) (Stage.within folder y) Q E := by
  constructor
  intro s t hw hP
  have hsame := hfolder _ _ _ _ hP
  obtain ⟨hs, ht⟩ := hw
  subst hs
  -- Both see the folder from the same place, so they enter it together or not at all.
  have hpath : t.workspace.path folder = s.workspace.path folder := by rw [ht]
  cases hd : Disk.isFolder s.bench.disk (s.workspace.path folder) with
  | false =>
      have he : Disk.isFolder t.bench.disk (t.workspace.path folder) = false := by
        rw [hpath, ← hsame, hd]
      rw [within_of_not_isFolder hd, within_of_not_isFolder he, hpath]
      exact .error ⟨⟨rfl, ht⟩, hno _ _ _ _ hP⟩
  | true =>
      have he : Disk.isFolder t.bench.disk (t.workspace.path folder) = true := by
        rw [hpath, ← hsame, hd]
      have h := hbody.ending (s.entered folder) (t.entered folder)
        ⟨rfl, congrArg (·.inside folder) ht⟩ ⟨⟨hd, hsame ▸ hd⟩, hP⟩
      rw [within_of_isFolder hd, within_of_isFolder he]
      generalize x (s.entered folder) = r at h ⊢
      generalize y (t.entered folder) = r' at h ⊢
      cases h with
      | ok h =>
          exact .ok ⟨⟨Workspace.leave_inside h.1.1,
            (congrArg (fun cwd => Workspace.leave _ ⟨cwd⟩) (congrArg Workspace.cwd ht)).trans
              (Workspace.leave_inside h.1.2)⟩, h.2⟩
      | error h =>
          exact .error ⟨⟨Workspace.leave_inside h.1.1,
            (congrArg (fun cwd => Workspace.leave _ ⟨cwd⟩) (congrArg Workspace.cwd ht)).trans
              (Workspace.leave_inside h.1.2)⟩, h.2⟩

end Matches

end Stage

end ReleasePipeline
