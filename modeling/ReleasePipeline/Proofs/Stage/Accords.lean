import ReleasePipeline.Proofs.Stage.Matches

/-!
# ReleasePipeline.Proofs.Stage.Accords

Two stages that need not end alike. `Accords` relates the sessions that two stages leave, however
each of them ends, and asserts more of them if both end with a value. It is what remains of `Matches`
once two runs do different things: the parts that end alike come first (`Accords.bind`), and after
them each run is looked at on its own (`Accords.of_runs`).
-/

namespace ReleasePipeline.Stage

/-- From one workspace and related sessions, the sessions that two stages leave are related, and if
both stages end with a value, these and the sessions satisfy a postcondition. -/
structure Accords (w : Workspace) (P : Likeness σ τ) (x : Stage σ α) (y : Stage τ β)
    (Q : α → β → Likeness σ τ) (E : Likeness σ τ) : Prop where
  after : ∀ s t, BothIn w s t → s.MeetWith t P → (sessionAfter x s).MeetWith (sessionAfter y t) E
  both : ∀ s t, BothIn w s t → s.MeetWith t P → ∀ a s' b t', x s = .ok a s' → y t = .ok b t' →
    s'.MeetWith t' (Q a b)

namespace Accords

variable {w : Workspace} {P P' : Likeness σ τ} {Q Q' : α → β → Likeness σ τ} {E E' : Likeness σ τ}
  {x : Stage σ α} {y : Stage τ β}

theorem of_matches (h : Matches w P x y Q E) (hQ : ∀ a b d m e n, Q a b d m e n → E d m e n) :
    Accords w P x y Q E := by
  constructor
  · intro s t hw hP
    have h := h.ending s t hw hP
    unfold sessionAfter
    generalize x s = r at h ⊢
    generalize y t = r' at h ⊢
    cases h with
    | ok h => exact hQ _ _ _ _ _ _ h.2
    | error h => exact h.2
  · intro s t hw hP a s' b t' hx hy
    have h := h.ending s t hw hP
    rw [hx, hy] at h
    cases h with
    | ok h => exact h.2

/-- Two stages that are looked at on their own. -/
theorem of_runs {Px Ex : Assertion σ} {Py Ey : Assertion τ} {Qx : α → Assertion σ}
    {Qy : β → Assertion τ} (hx : Runs w Px x (fun a d m => Qx a d m ∧ Ex d m) fun _ => Ex)
    (hy : Runs w Py y (fun b d m => Qy b d m ∧ Ey d m) fun _ => Ey) :
    Accords w (fun d m e n => Px d m ∧ Py e n) x y (fun a b d m e n => Qx a d m ∧ Qy b e n)
      fun d m e n => Ex d m ∧ Ey e n := by
  have hafter : ∀ {σ α : Type} {P E : Assertion σ} {Q : α → Assertion σ} {x : Stage σ α}
      {s : Session σ}, Runs w P x (fun a d m => Q a d m ∧ E d m) (fun _ => E) →
      s.workspace = w → s.Meets P → (sessionAfter x s).Meets E := fun h hw hP =>
    ((h.weaken (fun _ _ h => h) (fun _ _ _ h => h.2) fun _ _ _ h => h).sessionAfter _ hw hP).2
  refine ⟨fun s t hw hP => ⟨hafter hx hw.1 hP.1, hafter hy hw.2 hP.2⟩, ?_⟩
  intro s t hw hP a s' b t' hrun hrun'
  exact ⟨(hx.meets hw.1 hP.1 hrun).1, (hy.meets hw.2 hP.2 hrun').1⟩

/-- Parts that end alike, before parts that need not. -/
theorem bind {γ δ : Type} {f : α → Stage σ γ} {g : β → Stage τ δ} {M : α → β → Likeness σ τ}
    {Q : γ → δ → Likeness σ τ} (hxy : Matches w P x y M E)
    (hfg : ∀ a b, Accords w (M a b) (f a) (g b) Q E) : Accords w P (x >>= f) (y >>= g) Q E := by
  constructor
  · intro s t hw hP
    have h := hxy.ending s t hw hP
    generalize hx : x s = r at h
    generalize hy : y t = r' at h
    cases h with
    | ok h =>
        rw [sessionAfter_bind_ok hx, sessionAfter_bind_ok hy]
        exact (hfg _ _).after _ _ h.1 h.2
    | error h =>
        rw [sessionAfter_bind_error hx, sessionAfter_bind_error hy]
        exact h.2
  · intro s t hw hP c s' c' t' hrun hrun'
    have h := hxy.ending s t hw hP
    change EStateM.bind x f s = .ok c s' at hrun
    change EStateM.bind y g t = .ok c' t' at hrun'
    unfold EStateM.bind at hrun hrun'
    generalize x s = r at h hrun
    generalize y t = r' at h hrun'
    cases h with
    | ok h => exact (hfg _ _).both _ _ h.1 h.2 _ _ _ _ hrun hrun'
    | error h => cases hrun

theorem weaken (h : Accords w P' x y Q' E') (hP : ∀ d m e n, P d m e n → P' d m e n)
    (hQ : ∀ a b d m e n, Q' a b d m e n → Q a b d m e n) (hE : ∀ d m e n, E' d m e n → E d m e n) :
    Accords w P x y Q E where
  after s t hw hst := hE _ _ _ _ (h.after s t hw (hP _ _ _ _ hst))
  both s t hw hst a s' b t' hx hy :=
    hQ _ _ _ _ _ _ (h.both s t hw (hP _ _ _ _ hst) a s' b t' hx hy)

/-- What follows from the precondition and does not depend on the sessions may be assumed. -/
theorem of_fact {φ : Prop} (hφ : ∀ d m e n, P d m e n → φ) (h : φ → Accords w P x y Q E) :
    Accords w P x y Q E where
  after s t hw hP := (h (hφ _ _ _ _ hP)).after s t hw hP
  both s t hw hP := (h (hφ _ _ _ _ hP)).both s t hw hP

/-- The sessions at the start may be fixed. -/
theorem fix (h : ∀ d m e n, P d m e n →
      Accords w (fun d' m' e' n' => (d' = d ∧ m' = m) ∧ e' = e ∧ n' = n) x y Q E) :
    Accords w P x y Q E where
  after s t hw hP := (h _ _ _ _ hP).after s t hw ⟨⟨rfl, rfl⟩, rfl, rfl⟩
  both s t hw hP := (h _ _ _ _ hP).both s t hw ⟨⟨rfl, rfl⟩, rfl, rfl⟩

end Accords

end ReleasePipeline.Stage
