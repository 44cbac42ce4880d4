import ReleasePipeline.Proofs.Release.Tools
import ReleasePipeline.Proofs.Stage.Unwatched

/-!
# ReleasePipeline.Proofs.Release.InStep

Two watched runs that make the same calls. Runs side by side are `InStep` as long as both have asked
the same of their tools, which is asserted of both endings: a run that fails has made the calls that
the other made before it failed in the same way.

Most parts of a stage call nothing, and for those nothing has to be shown of the calls
(`Matches.quietly`). What is shown of watched runs holds of the runs themselves (`Matches.unwatch`).

Being in step is the coarsest way to compare what two runs have seen. The rules hold of any other
(`Along`), as long as it can be kept up over a further call (`Continues`), and so do those for the
two tools, which say once what comes of determinism: disks that show the same to a call show the
same after it.
-/

namespace ReleasePipeline

open Disk Node

/-- The calls that a watched runner has seen. -/
def Watched.calls (m : Watched σ) : List ToolCall :=
  m.seen.map Sighting.call

/-- Two disks that are related, after calls that are. -/
def Along (M : List Sighting → List Sighting → Prop) (R : Node → Node → Prop) :
    Likeness (Watched σ) (Watched τ) :=
  fun d m e n => R d e ∧ M m.seen n.seen

/-- Calls that are related stay so if the same call is made on disks that are related. -/
def Continues (M : List Sighting → List Sighting → Prop) (c : ToolCall) (R : Node → Node → Prop) :
    Prop :=
  ∀ xs ys x y, M xs ys → x.call = c → y.call = c → R x.before y.before → M (xs ++ [x]) (ys ++ [y])

/-- The same calls. -/
def SameCalls (xs ys : List Sighting) : Prop :=
  xs.map Sighting.call = ys.map Sighting.call

theorem SameCalls.continues (c : ToolCall) (R : Node → Node → Prop) : Continues SameCalls c R := by
  intro xs ys x y h hx hy _
  unfold SameCalls at h ⊢
  rw [List.map_append, List.map_append, h, List.map_singleton, List.map_singleton, hx, hy]

/-- Two disks that are related, after the same calls. -/
def InStep (R : Node → Node → Prop) : Likeness (Watched σ) (Watched τ) :=
  fun d m e n => R d e ∧ m.calls = n.calls

namespace Stage

variable {w : Workspace}

/-- A part of a stage that makes no call. -/
def Quiet (w : Workspace) (x : Stage (Watched σ) α) : Prop :=
  ∃ value, CallsAlong w [] x value

theorem CallsAlong.quiet {x : Stage (Watched σ) α} {value : α → Prop} (h : CallsAlong w [] x value) :
    Quiet w x :=
  ⟨value, h⟩

/-- Without a call, nothing more is seen. -/
theorem Quiet.seen_eq {x : Stage (Watched σ) α} (h : Quiet w x) {s : Session (Watched σ)}
    (hw : s.workspace = w) :
    match x s with
    | .ok _ t => t.bench.memory.seen = s.bench.memory.seen
    | .error _ t => t.bench.memory.seen = s.bench.memory.seen := by
  obtain ⟨value, h⟩ := h
  have h := (h s.bench.memory.seen).ending s hw rfl
  cases hrun : x s with
  | ok a t =>
      rw [hrun] at h
      obtain ⟨-, -, made, hmade, hseen⟩ := h
      have hnone : made = [] := List.map_eq_nil_iff.mp hmade.calls_eq
      rw [hnone, List.append_nil] at hseen
      exact hseen
  | error failure t =>
      rw [hrun] at h
      obtain ⟨-, made, hmade, hseen⟩ := h
      have hnone : made = [] := List.map_eq_nil_iff.mp (List.prefix_nil.mp hmade.calls_prefix)
      rw [hnone, List.append_nil] at hseen
      exact hseen

namespace Matches

variable {P : Node → Node → Prop} {M : List Sighting → List Sighting → Prop}

/-- Parts that make no call go along with each other. -/
theorem quietly_along {x : Stage (Watched σ) α} {y : Stage (Watched τ) β}
    {Q : α → β → Node → Node → Prop} (hx : Quiet w x) (hy : Quiet w y)
    (h : Matches w (fun d _ e _ => P d e) x y (fun a b d _ e _ => Q a b d e) fun _ _ _ _ => True) :
    Matches w (Along M P) x y (fun a b => Along M (Q a b)) (Along M fun _ _ => True) := by
  constructor
  intro s t hw hP
  obtain ⟨hP, hcalls⟩ := hP
  have h := h.ending s t hw hP
  have hx := hx.seen_eq hw.1
  have hy := hy.seen_eq hw.2
  generalize x s = r at h hx ⊢
  generalize y t = r' at h hy ⊢
  cases h with
  | ok h => exact .ok ⟨h.1, h.2, by rwa [hx, hy]⟩
  | error h => exact .error ⟨h.1, trivial, by rwa [hx, hy]⟩

/-- The same call, which ends alike and leaves disks that are related again. -/
theorem sighted_along {runner : Runner σ} {runner' : Runner τ} {c : ToolCall}
    {Q : Node → Node → Prop} {R : Bench σ → Bench τ → Prop} (hM : Continues M c P)
    (hrun : ∀ b b', P b.disk b'.disk →
      EndAlike (fun _ _ => R) (fun _ _ => True) (runner c b) (runner' c b'))
    (hok : ∀ b b', P b.disk b'.disk → R (runner.after c b) (runner'.after c b') →
      Q (runner.after c b).disk (runner'.after c b').disk) :
    Matches w (Along M P) (Stage.call runner.watched c) (Stage.call runner'.watched c)
      (fun _ _ => Along M Q) (Along M fun _ _ => True) := by
  refine .call ?_
  intro b b' h
  obtain ⟨hP, hcalls⟩ := h
  have hrun := hrun ⟨b.disk, b.events, b.memory.inner⟩ ⟨b'.disk, b'.events, b'.memory.inner⟩ hP
  have hok := hok ⟨b.disk, b.events, b.memory.inner⟩ ⟨b'.disk, b'.events, b'.memory.inner⟩ hP
  unfold Runner.after at hok
  unfold Runner.watched
  generalize runner c ⟨b.disk, b.events, b.memory.inner⟩ = r at hrun hok ⊢
  generalize runner' c ⟨b'.disk, b'.events, b'.memory.inner⟩ = r' at hrun hok ⊢
  cases hrun with
  | ok h => exact .ok ⟨hok h, hM _ _ _ _ hcalls rfl rfl hP⟩
  | error h => exact .error ⟨trivial, hM _ _ _ _ hcalls rfl rfl hP⟩

/-- Parts that make no call stay in step. -/
theorem quietly {x : Stage (Watched σ) α} {y : Stage (Watched τ) β} {Q : α → β → Node → Node → Prop}
    (hx : Quiet w x) (hy : Quiet w y)
    (h : Matches w (fun d _ e _ => P d e) x y (fun a b d _ e _ => Q a b d e) fun _ _ _ _ => True) :
    Matches w (InStep P) x y (fun a b => InStep (Q a b)) (InStep fun _ _ => True) :=
  quietly_along (M := SameCalls) hx hy h

/-! ### The two tools -/

/-- The deployment tool goes by the folder that it runs in, and changes nothing else. -/
theorem deploy_along {runner : Runner σ} (hrunner : runner.Contained) (hkeeps : runner.KeepsFolder)
    (hdet : runner.Deterministic) {c : ToolCall} {Q : Node → Node → Prop}
    (hM : Continues M c P) (hprogram : c.program = "windeployqt.exe")
    (hsame : ∀ d e, P d e → SameAt c.folder d e)
    (hfolder : ∀ d e, P d e → d.entryAt? c.folder.location = some .folder)
    (hok : ∀ d e d' e', P d e → (d.Legal → d'.Legal) →
      AgreeOff (c.folder.location <+: ·) d' d → AgreeOff (c.folder.location <+: ·) e' e →
      (∀ l, c.folder.location <+: l → d'.entryAt? l = e'.entryAt? l) →
      d'.entryAt? c.folder.location = some .folder → Q d' e') :
    Matches w (Along M P) (Stage.call runner.watched c) (Stage.call runner.watched c)
      (fun _ _ => Along M Q) (Along M fun _ _ => True) := by
  refine sighted_along (R := fun after after' => ∀ below,
      after.disk.entryAt? (c.folder.location ++ below) =
        after'.disk.entryAt? (c.folder.location ++ below)) hM
    (fun b b' h => hdet.deploy c b b' hprogram (hsame _ _ h)) ?_
  intro b b' h halike
  have hd := hfolder _ _ h
  have he : b'.disk.entryAt? c.folder.location = some .folder := (hsame _ _ h).here ▸ hd
  refine hok _ _ _ _ h (hrunner.legal c b) (hrunner.deploy c b hprogram hd)
    (hrunner.deploy c b' hprogram he) ?_ (hkeeps c b hprogram hd)
  rintro l ⟨below, rfl⟩
  exact halike below

/-- The compressing tool goes by its inputs and the file at its target, and changes only that. -/
theorem compress_along {runner : Runner σ} (hrunner : runner.Contained)
    (hdet : runner.Deterministic) {c : ToolCall} {archive : String} {Q : Node → Node → Prop}
    (hM : Continues M c P) (hprogram : c.program = "7z") (harchive : c.args[2]? = some archive)
    (hfolder : ∀ d e, P d e → locate d c.folder = locate e c.folder)
    (hinputs : ∀ d e, P d e →
      ∀ input : String, input ∈ c.args.drop 3 → SameAt (c.folder / input) d e)
    (htarget : ∀ d e, P d e → SameFor (c.folder / archive) d e)
    (hok : ∀ d e d' e', P d e → (d.Legal → d'.Legal) →
      AgreeOff (· = (c.folder / archive).location) d' d →
      AgreeOff (· = (c.folder / archive).location) e' e →
      d'.entryAt? (c.folder / archive).location = e'.entryAt? (c.folder / archive).location →
      Q d' e') :
    Matches w (Along M P) (Stage.call runner.watched c) (Stage.call runner.watched c)
      (fun _ _ => Along M Q) (Along M fun _ _ => True) := by
  refine sighted_along (R := fun after after' =>
      after.disk.entryAt? (c.folder / archive).location =
        after'.disk.entryAt? (c.folder / archive).location) hM
    (fun b b' h => hdet.compress c b b' _ hprogram harchive (hfolder _ _ h) (hinputs _ _ h)
      (htarget _ _ h)) ?_
  intro b b' h halike
  exact hok _ _ _ _ h (hrunner.legal c b) (hrunner.compress c b _ hprogram harchive)
    (hrunner.compress c b' _ hprogram harchive) halike

/-- What is shown of runs under watch holds of the runs themselves. -/
theorem unwatch {x : Stage σ α} {y : Stage τ β} {x' : Stage (Watched σ) α}
    {y' : Stage (Watched τ) β} {Q : α → β → Node → Node → Prop} (hx : ErasesTo x' x)
    (hy : ErasesTo y' y)
    (h : Matches w (InStep P) x' y' (fun a b => InStep (Q a b)) (InStep fun _ _ => True)) :
    Matches w (fun d _ e _ => P d e) x y (fun a b d _ e _ => Q a b d e) fun _ _ _ _ => True := by
  constructor
  intro s t hw hP
  have h := h.ending s.watched t.watched hw ⟨hP, rfl⟩
  have hx : unwatched (x' s.watched) = x s := hx.commutes s.watched
  have hy : unwatched (y' t.watched) = y t := hy.commutes t.watched
  rw [← hx, ← hy]
  generalize x' s.watched = r at h ⊢
  generalize y' t.watched = r' at h ⊢
  cases h with
  | ok h => exact .ok ⟨h.1, h.2.1⟩
  | error h => exact .error ⟨h.1, trivial⟩

end Matches

end Stage

end ReleasePipeline
