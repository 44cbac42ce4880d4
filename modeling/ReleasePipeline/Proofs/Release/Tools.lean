import ReleasePipeline.Proofs.Disk.Location
import ReleasePipeline.Proofs.Stage.Matches
import ReleasePipeline.Proofs.Stage.Watched

/-!
# ReleasePipeline.Proofs.Release.Tools

What is assumed of the tools that make a release. Nothing is assumed of how a call ends, so a tool
may fail at any call.

* A runner that `KeepsLegal` brings in no name that no path can have.
* A `Contained` runner moreover changes only what the call is about: the deployment tool the folder
  it runs in, and the compressing tool the archive that is its third argument.
* A `Confined` runner is contained, and leaves that folder a folder and that archive no folder.
* For a `Deterministic` runner the ending of a call and what it leaves there depend only on what the
  call is about: the folder, or the inputs and the file that the archive is to be written to. It may
  well add to an archive that is there.

What a call is about is seen from the folder of the call, and two disks show the same at a path
(`SameAt`, `SameFor`) only if the path leads to the same location on both.
-/

namespace ReleasePipeline

open Disk Node

/-- The bench that a call leaves, however it ends. -/
def Runner.after (runner : Runner σ) (call : ToolCall) (bench : Bench σ) : Bench σ :=
  match runner call bench with
  | .ok () after => after
  | .error _ after => after

/-- A sighting of a call that a runner carried out. -/
structure Runner.Made (runner : Runner σ) (c : ToolCall) (x : Sighting) : Prop where
  call_eq : x.call = c
  ran : ∃ bench : Bench σ, bench.disk = x.before ∧ (runner.after c bench).disk = x.after

/-- What is asserted of a watched run, which is about the disk and the calls so far. -/
def Seeing (P : Node → List Sighting → Prop) : Assertion (Watched σ) :=
  fun d m => P d m.seen

/-- A call under watch is seen with the disk before it and the disk after it, however it ends. -/
theorem Stage.Runs.sighted {w : Workspace} {P Q : Node → List Sighting → Prop}
    {E : Failure → Node → List Sighting → Prop} {runner : Runner σ} {c : ToolCall}
    (hok : ∀ seen x, P x.before seen → runner.Made c x → x.failure = none → Q x.after (seen ++ [x]))
    (herror : ∀ seen x failure, P x.before seen → runner.Made c x → x.failure = some failure →
      E failure x.after (seen ++ [x])) :
    Runs w (Seeing P) (Stage.call runner.watched c) (fun _ => Seeing Q)
      fun failure => Seeing (E failure) := by
  refine .call ?_
  intro bench hP
  unfold Seeing at hP ⊢
  have hmade : ∀ failure, runner.Made c ⟨c, bench.disk,
      (runner.after c ⟨bench.disk, bench.events, bench.memory.inner⟩).disk, failure⟩ :=
    fun failure => ⟨rfl, _, rfl, rfl⟩
  have hok := hok bench.memory.seen _ hP (hmade none) rfl
  have herror := fun failure =>
    herror bench.memory.seen _ failure hP (hmade (some failure)) rfl
  unfold Runner.after at hok herror
  unfold Runner.watched
  cases hrun : runner c ⟨bench.disk, bench.events, bench.memory.inner⟩ with
  | ok u after =>
      rw [hrun] at hok
      exact hok
  | error failure after =>
      rw [hrun] at herror
      exact herror failure

/-- A runner whose tools bring in no name that no path can have. -/
def Runner.KeepsLegal (runner : Runner σ) : Prop :=
  ∀ call bench, bench.disk.Legal → (runner.after call bench).disk.Legal

/-- A runner whose tools change nothing but what their calls are about. -/
structure Runner.Contained (runner : Runner σ) : Prop where
  legal : runner.KeepsLegal
  deploy : ∀ call bench, call.program = "windeployqt.exe" →
    bench.disk.entryAt? call.folder.location = some .folder →
      AgreeOff (call.folder.location <+: ·) (runner.after call bench).disk bench.disk
  compress : ∀ call bench (archive : String), call.program = "7z" → call.args[2]? = some archive →
    AgreeOff (· = (call.folder / archive).location) (runner.after call bench).disk bench.disk

theorem Runner.Contained.made_compress {runner : Runner σ} {c : ToolCall} {x : Sighting}
    {archive : String} (h : runner.Contained) (hx : runner.Made c x) (hprogram : c.program = "7z")
    (harchive : c.args[2]? = some archive) :
    AgreeOff (· = (c.folder / archive).location) x.after x.before := by
  obtain ⟨-, bench, hbefore, hafter⟩ := hx
  rw [← hbefore, ← hafter]
  exact h.compress c bench archive hprogram harchive

/-- A runner whose deployment tool leaves the folder that it runs in a folder. -/
def Runner.KeepsFolder (runner : Runner σ) : Prop :=
  ∀ call bench, call.program = "windeployqt.exe" →
    bench.disk.entryAt? call.folder.location = some .folder →
      (runner.after call bench).disk.entryAt? call.folder.location = some .folder

theorem Runner.KeepsLegal.made {runner : Runner σ} {c : ToolCall} {x : Sighting}
    (h : runner.KeepsLegal) (hx : runner.Made c x) (hbefore : x.before.Legal) : x.after.Legal := by
  obtain ⟨-, bench, hdisk, hafter⟩ := hx
  rw [← hdisk] at hbefore
  exact hafter ▸ h c bench hbefore

/-- A runner whose tools change only what their calls are about, and keep folders and archives
apart. -/
structure Runner.Confined (runner : Runner σ) : Prop where
  legal : runner.KeepsLegal
  deploy : ∀ call bench, call.program = "windeployqt.exe" →
    bench.disk.entryAt? call.folder.location = some .folder →
      AgreeOff (call.folder.location <+: ·) (runner.after call bench).disk bench.disk ∧
      (runner.after call bench).disk.entryAt? call.folder.location = some .folder
  compress : ∀ call bench (archive : String), call.program = "7z" → call.args[2]? = some archive →
    AgreeOff (· = (call.folder / archive).location) (runner.after call bench).disk bench.disk ∧
    (bench.disk.entryAt? (call.folder / archive).location ≠ some .folder →
      (runner.after call bench).disk.entryAt? (call.folder / archive).location ≠ some .folder)

theorem Runner.Confined.contained {runner : Runner σ} (h : runner.Confined) : runner.Contained where
  legal := h.legal
  deploy call bench hprogram hfolder := (h.deploy call bench hprogram hfolder).1
  compress call bench archive hprogram harchive := (h.compress call bench archive hprogram harchive).1

theorem Runner.Confined.keepsFolder {runner : Runner σ} (h : runner.Confined) : runner.KeepsFolder :=
  fun call bench hprogram hfolder => (h.deploy call bench hprogram hfolder).2

/-- Two disks that show the same at a path and below it. -/
structure SameAt (p : Path) (d e : Node) : Prop where
  locate : locate d p = locate e p
  below : ∀ below, d.entryAt? (p.location ++ below) = e.entryAt? (p.location ++ below)

theorem SameAt.here {p : Path} {d e : Node} (h : SameAt p d e) :
    d.entryAt? p.location = e.entryAt? p.location := by
  simpa using h.below []

/-- Two disks that have the same file, or none, at a place that is the same on both. -/
structure SameFor (p : Path) (d e : Node) : Prop where
  place : place d p = place e p
  entry : d.entryAt? p.location = e.entryAt? p.location

/-- A runner whose tools go by what their calls are about, and by nothing else. -/
structure Runner.Deterministic (runner : Runner σ) : Prop where
  deploy : ∀ call b b', call.program = "windeployqt.exe" → SameAt call.folder b.disk b'.disk →
    EndAlike
      (fun _ _ after after' => ∀ below, after.disk.entryAt? (call.folder.location ++ below) =
        after'.disk.entryAt? (call.folder.location ++ below))
      (fun _ _ => True) (runner call b) (runner call b')
  compress : ∀ call b b' (archive : String), call.program = "7z" → call.args[2]? = some archive →
    locate b.disk call.folder = locate b'.disk call.folder →
    (∀ input : String, input ∈ call.args.drop 3 → SameAt (call.folder / input) b.disk b'.disk) →
    SameFor (call.folder / archive) b.disk b'.disk →
    EndAlike
      (fun _ _ after after' => after.disk.entryAt? (call.folder / archive).location =
        after'.disk.entryAt? (call.folder / archive).location)
      (fun _ _ => True) (runner call b) (runner call b')

end ReleasePipeline
