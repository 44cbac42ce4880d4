import ReleasePipeline.Proofs.Job.Names
import ReleasePipeline.Proofs.Release.PlainTools
import ReleasePipeline.Proofs.Stage.Account

/-!
# ReleasePipeline.Proofs.Build.History

What builds and test runs leave behind over a whole history of them. `Trace` bounds what may have
come between two disks, and counts the directives at the end of the hook file: a single run is put
together from three such steps, the one that appends, the one that makes folders and the one that
the tools take, and a history from its runs.
-/

namespace ReleasePipeline

open Disk Node

/-! ### Histories -/

/-- A run of one of the stages that work in the build folder, with a job, a search path and tools of
its own. -/
inductive WorkRun (σ : Type) where
  | build (pipeline : Pipeline σ)
  | test (pipeline : Pipeline σ)

namespace WorkRun

def pipeline : WorkRun σ → Pipeline σ
  | .build pipeline => pipeline
  | .test pipeline => pipeline

/-- The build folder that a run works in. -/
def folder (run : WorkRun σ) (cwd : Path) : Path :=
  cwd / run.pipeline.job.buildFolder

/-- The session that a run leaves, whichever way it ends. -/
def perform (s : Session σ) : WorkRun σ → Session σ
  | .build pipeline => Stage.sessionAfter pipeline.build s
  | .test pipeline => Stage.sessionAfter pipeline.test s

/-- The same run under watch. -/
def observe (s : Session σ) : WorkRun σ → Session (Watched σ)
  | .build pipeline => Stage.sessionAfter pipeline.watched.build s.watched
  | .test pipeline => Stage.sessionAfter pipeline.watched.test s.watched

/-- The session that a history leaves. -/
def performAll (s : Session σ) (history : List (WorkRun σ)) : Session σ :=
  history.foldl perform s

/-- Whether a run appends to the hook file: it is a build without precompiled headers that finds both
compilers and can open the file. -/
def appends (disk : Node) (cwd : Path) : WorkRun σ → Bool
  | .build pipeline => pipeline.appends disk cwd
  | .test _ => false

/-- How many runs of a history append to the hook file, each on the disk that it starts from. -/
def appended (s : Session σ) : List (WorkRun σ) → Nat
  | [] => 0
  | run :: rest =>
    (run.appends s.bench.disk s.workspace.cwd).toNat + appended (run.perform s) rest

/-- The locations in the build folders of a history. -/
def InBuildFolders (history : List (WorkRun σ)) (cwd : Path) (l : Location) : Prop :=
  ∃ run ∈ history, (run.folder cwd).location <+: l

/-- The locations on the way to a build folder that a run of a history makes. -/
def OnRoad (history : List (WorkRun σ)) (cwd : Path) (l : Location) : Prop :=
  ∃ pipeline, .build pipeline ∈ history ∧ l ∈ (cwd / pipeline.job.buildFolder).road

theorem observe_unwatched (s : Session σ) (run : WorkRun σ) :
    (run.observe s).unwatched = run.perform s := by
  cases run with
  | build pipeline =>
      rw [observe, perform, Pipeline.build_erases.sessionAfter, Session.unwatched_watched]
  | test pipeline =>
      rw [observe, perform, Pipeline.test_erases.sessionAfter, Session.unwatched_watched]

end WorkRun

/-! ### Traces -/

/-- The line that switches precompiled headers off, so many times. -/
def directives (count : Nat) : Bytes :=
  (List.replicate count (Utf8.encode "set(USE_PCH FALSE)\n")).flatten

theorem directives_add (m n : Nat) : directives (m + n) = directives m ++ directives n := by
  rw [directives, ← List.replicate_append_replicate, List.flatten_append]
  rfl

/-- What stands at a location is unchanged, or it is a new folder on a road. -/
def KeptAt (road : Location → Prop) (d e : Node) (l : Location) : Prop :=
  e.entryAt? l = d.entryAt? l ∨ d.entryAt? l = none ∧ e.entryAt? l = some .folder ∧ road l

/-- What may have come between two disks outside of some places: new folders on a road, and
directives at the end of the hook file. -/
structure Trace (inside road : Location → Prop) (hook : Location) (count : Nat) (d e : Node) :
    Prop where
  others : ∀ l, ¬inside l → l ≠ hook → KeptAt road d e l
  hook_content : e.contentAt hook = d.contentAt hook ++ directives count
  hook_file : count ≠ 0 → ∃ f, e.entryAt? hook = some (.file f)
  hook_kept : count = 0 → KeptAt road d e hook

section

variable {inside road : Location → Prop} {hook : Location} {m n : Nat} {c d e : Node}

theorem KeptAt.trans {l : Location} (hcd : KeptAt road c d l) (hde : KeptAt road d e l) :
    KeptAt road c e l := by
  rcases hde with hde | ⟨hnone, hfolder, hl⟩
  · unfold KeptAt
    rw [hde]
    exact hcd
  · rcases hcd with hcd | ⟨-, hthere, -⟩
    · exact .inr ⟨hcd ▸ hnone, hfolder, hl⟩
    · rw [hthere] at hnone
      cases hnone

namespace Trace

theorem refl (d : Node) : Trace inside road hook 0 d d :=
  ⟨fun _ _ _ => .inl rfl, (List.append_nil _).symm, fun h => absurd rfl h, fun _ => .inl rfl⟩

theorem trans (hcd : Trace inside road hook m c d) (hde : Trace inside road hook n d e) :
    Trace inside road hook (m + n) c e := by
  refine ⟨fun l hl hhook => (hcd.others l hl hhook).trans (hde.others l hl hhook), ?_, ?_, ?_⟩
  · rw [hde.hook_content, hcd.hook_content, directives_add, List.append_assoc]
  · intro hcount
    by_cases hn : n = 0
    · -- The file is there already, and the second step has left it as it was.
      obtain ⟨f, hfile⟩ := hcd.hook_file (by omega)
      rcases hde.hook_kept hn with hkept | ⟨hnone, -, -⟩
      · exact ⟨f, hkept.trans hfile⟩
      · rw [hfile] at hnone
        cases hnone
    · exact hde.hook_file hn
  · intro hcount
    exact (hcd.hook_kept (by omega)).trans (hde.hook_kept (by omega))

theorem of_appended (h : Appended hook (Utf8.encode "set(USE_PCH FALSE)\n") d e) :
    Trace inside road hook 1 d e := by
  obtain ⟨hno, ⟨f, hfile, hcontent⟩, hagree⟩ := h
  refine ⟨fun l _ hl => .inl (hagree l hl), ?_, fun _ => ⟨f, hfile⟩, nofun⟩
  rw [contentAt, hfile]
  exact hcontent.trans (congrArg _ (List.append_nil _).symm)

theorem of_grown {locations : List Location} (h : Grown locations d e)
    (hroad : ∀ l ∈ locations, road l) : Trace inside road hook 0 d e := by
  have hkept : ∀ l, KeptAt road d e l := fun l =>
    (h l).imp id fun ⟨hnone, hfolder, hl⟩ => ⟨hnone, hfolder, hroad l hl⟩
  exact ⟨fun l _ _ => hkept l, (h.contentAt_eq hook).trans (List.append_nil _).symm,
    fun h => absurd rfl h, fun _ => hkept hook⟩

/-- What tools do inside is not looked at. -/
theorem of_agree (hhook : ¬inside hook) (h : AgreeOff inside e d) :
    Trace inside road hook 0 d e := by
  refine ⟨fun l hl _ => .inl (h l hl), ?_, fun h => absurd rfl h, fun _ => .inl (h hook hhook)⟩
  rw [contentAt, contentAt, h hook hhook]
  exact (List.append_nil _).symm

end Trace

end

namespace WorkRun

/-! ### One run -/

/-- Tools that change nothing outside of the build folders of a history when they are called in the
build folder of their run. -/
def StaysInside (history : List (WorkRun σ)) (cwd : Path) : Prop :=
  ∀ run ∈ history, ∀ call bench, call.folder = run.folder cwd →
    AgreeOff (InBuildFolders history cwd) (run.pipeline.runner.after call bench).disk bench.disk

/-- What a run does itself, it does before its first call: in its build folder it changes nothing
but that it may make folders on its way, and a test run changes nothing at all. After that, the disk
is changed by the calls alone. -/
structure OwnWork (run : WorkRun σ) (s : Session σ) : Prop where
  unwatched : (run.observe s).unwatched = run.perform s
  account : ∃ prepared,
    Linked prepared (run.observe s).bench.memory.seen (run.observe s).bench.disk ∧
    (∀ l, (run.folder s.workspace.cwd).location <+: l →
      KeptAt (· ∈ (run.folder s.workspace.cwd).road) s.bench.disk prepared l) ∧
    ∀ pipeline, run = .test pipeline → prepared = s.bench.disk

section

variable {inside road : Location → Prop} {cwd : Path} {s : Session σ} {run : WorkRun σ}

/-- The hook file is in no build folder. -/
theorem not_inBuildFolders_hook (history : List (WorkRun σ)) (cwd : Path) :
    ¬InBuildFolders history cwd (cwd / "cmake_user_begin.cmake").location := by
  rintro ⟨run, -, h⟩
  rw [folder, Path.location_join_name run.pipeline.job.isName_buildFolder,
    Path.location_join_name (by decide)] at h
  exact not_prefix_of_text_ne (Job.ne_of_head run.pipeline.job.head_buildFolder (by decide)) h

/-- Calls in a row by tools that stay inside. -/
theorem agree_of_workedIn {runner : Runner σ} {folder : Path} {prepared final : Node}
    {seen : List Sighting} (h : WorkedIn folder runner prepared final seen)
    (htools : ∀ call bench, call.folder = folder →
      AgreeOff inside (runner.after call bench).disk bench.disk) : AgreeOff inside final prepared := by
  refine h.linked.keeps (P := fun d => AgreeOff inside d prepared) (.refl _) ?_
  intro x hx hbefore
  obtain ⟨hfolder, -, bench, hdisk, hafter⟩ := h.made x hx
  have hcall := htools x.call bench hfolder
  rw [hdisk, hafter] at hcall
  exact hcall.trans hbefore

theorem trace_of_accounts {pipeline : Pipeline σ} {start final : Node} {seen : List Sighting}
    (h : pipeline.Accounts cwd start final seen)
    (hhook : ¬inside (cwd / "cmake_user_begin.cmake").location)
    (htools : ∀ call bench, call.folder = cwd / pipeline.job.buildFolder →
      AgreeOff inside (pipeline.runner.after call bench).disk bench.disk)
    (hroad : ∀ l ∈ (cwd / pipeline.job.buildFolder).road, road l) :
    Trace inside road (cwd / "cmake_user_begin.cmake").location
      (pipeline.appends start cwd).toNat start final := by
  obtain ⟨prepared, ⟨directed, hdirects, hgrown⟩, hworked⟩ := h
  have htail : Trace inside road (cwd / "cmake_user_begin.cmake").location 0 directed final :=
    (Trace.of_grown hgrown hroad).trans (.of_agree hhook (agree_of_workedIn hworked htools))
  unfold Pipeline.Directs at hdirects
  cases happends : pipeline.appends start cwd with
  | true =>
      rw [if_pos happends] at hdirects
      exact (Trace.of_appended hdirects).trans htail
  | false =>
      rw [if_neg (by rw [happends]; exact nofun)] at hdirects
      exact hdirects ▸ htail

/-- The trace of one run. -/
theorem perform_trace (hcwd : s.workspace.cwd.isAbsolute = true)
    (hhook : ¬inside (s.workspace.cwd / "cmake_user_begin.cmake").location)
    (htools : ∀ call bench, call.folder = run.folder s.workspace.cwd →
      AgreeOff inside (run.pipeline.runner.after call bench).disk bench.disk)
    (hroad : ∀ pipeline, run = .build pipeline →
      ∀ l ∈ (s.workspace.cwd / pipeline.job.buildFolder).road, road l) :
    (run.perform s).workspace = s.workspace ∧
      Trace inside road (s.workspace.cwd / "cmake_user_begin.cmake").location
        (run.appends s.bench.disk s.workspace.cwd).toNat s.bench.disk (run.perform s).bench.disk := by
  rw [← observe_unwatched, Session.workspace_unwatched, Session.disk_unwatched]
  cases run with
  | build pipeline =>
      obtain ⟨hworkspace, haccounts⟩ := pipeline.build_account s hcwd
      rw [observe]
      exact ⟨hworkspace, trace_of_accounts haccounts hhook htools (hroad pipeline rfl)⟩
  | test pipeline =>
      obtain ⟨hworkspace, hworked⟩ := pipeline.test_account s hcwd
      rw [observe]
      exact ⟨hworkspace, .of_agree hhook (agree_of_workedIn hworked htools)⟩

theorem ownWork (hcwd : s.workspace.cwd.isAbsolute = true) (run : WorkRun σ) : OwnWork run s := by
  refine ⟨run.observe_unwatched s, ?_⟩
  cases run with
  | build pipeline =>
      obtain ⟨-, prepared, ⟨directed, hdirects, hgrown⟩, hworked⟩ := pipeline.build_account s hcwd
      rw [observe]
      refine ⟨prepared, hworked.linked, fun l hl => ?_, fun _ h => by cases h⟩
      have hhook : l ≠ (s.workspace.cwd / "cmake_user_begin.cmake").location := by
        rintro rfl
        exact not_inBuildFolders_hook [.build pipeline] _ ⟨_, List.mem_singleton.mpr rfl, hl⟩
      have hsame : directed.entryAt? l = s.bench.disk.entryAt? l := by
        unfold Pipeline.Directs at hdirects
        split at hdirects
        · exact hdirects.agree l hhook
        · rw [hdirects]
      rw [KeptAt, ← hsame]
      exact hgrown l
  | test pipeline =>
      obtain ⟨-, hworked⟩ := pipeline.test_account s hcwd
      rw [observe]
      exact ⟨s.bench.disk, hworked.linked, fun _ _ => .inl rfl, fun _ _ => rfl⟩

end

/-! ### Histories of runs -/

/-- A whole history leaves a trace that counts its appending runs. -/
theorem performAll_trace {inside road : Location → Prop} {s : Session σ}
    (history : List (WorkRun σ)) (hcwd : s.workspace.cwd.isAbsolute = true)
    (hhook : ¬inside (s.workspace.cwd / "cmake_user_begin.cmake").location)
    (htools : ∀ run ∈ history, ∀ call bench, call.folder = run.folder s.workspace.cwd →
      AgreeOff inside (run.pipeline.runner.after call bench).disk bench.disk)
    (hroad : ∀ pipeline, .build pipeline ∈ history →
      ∀ l ∈ (s.workspace.cwd / pipeline.job.buildFolder).road, road l) :
    (performAll s history).workspace = s.workspace ∧
      Trace inside road (s.workspace.cwd / "cmake_user_begin.cmake").location (appended s history)
        s.bench.disk (performAll s history).bench.disk := by
  induction history generalizing s with
  | nil => exact ⟨rfl, .refl _⟩
  | cons run rest ih =>
      obtain ⟨hworkspace, htrace⟩ := perform_trace hcwd hhook (htools run (List.mem_cons_self ..))
        fun pipeline hrun => hroad pipeline (hrun ▸ List.mem_cons_self ..)
      -- The rest of the history starts in the same workspace.
      have hrest := ih (s := run.perform s) (by rwa [hworkspace]) (by rwa [hworkspace])
        (fun other hother => by
          rw [hworkspace]
          exact htools other (List.mem_cons_of_mem _ hother))
        (fun pipeline hpipeline => by
          rw [hworkspace]
          exact hroad pipeline (List.mem_cons_of_mem _ hpipeline))
      rw [hworkspace] at hrest
      exact ⟨hrest.1, htrace.trans hrest.2⟩

/-- What a history of builds and test runs does to a disk. Outside of the build folders, folders are
made on the way to them, and the hook file gets one directive for each run that appends; each run
does its own part before its first call. -/
structure LeavesTrace (history : List (WorkRun σ)) (s : Session σ) : Prop where
  workspace : (performAll s history).workspace = s.workspace
  trace : Trace (InBuildFolders history s.workspace.cwd) (OnRoad history s.workspace.cwd)
    (s.workspace.cwd / "cmake_user_begin.cmake").location (appended s history) s.bench.disk
    (performAll s history).bench.disk
  own : ∀ earlier run later, history = earlier ++ run :: later → OwnWork run (performAll s earlier)

/-- **Builds and test runs leave nothing else.** After any history of them, with whatever jobs,
search paths and tools that stay inside the build folders, all that has changed outside is that
folders on the way to a build folder were made and that the hook file has its old bytes with one
directive more for each build that appended. -/
theorem performAll_leavesTrace (history : List (WorkRun σ)) (s : Session σ)
    (hcwd : s.workspace.cwd.isAbsolute = true)
    (htools : StaysInside history s.workspace.cwd) : LeavesTrace history s := by
  have hhook := not_inBuildFolders_hook history s.workspace.cwd
  have hroad : ∀ pipeline, .build pipeline ∈ history →
      ∀ l ∈ (s.workspace.cwd / pipeline.job.buildFolder).road,
        OnRoad history s.workspace.cwd l := fun pipeline hpipeline l hl => ⟨pipeline, hpipeline, hl⟩
  obtain ⟨hworkspace, htrace⟩ := performAll_trace history hcwd hhook htools hroad
  refine ⟨hworkspace, htrace, ?_⟩
  rintro earlier run later rfl
  have hmem : ∀ other ∈ earlier, other ∈ earlier ++ run :: later :=
    fun other => List.mem_append_left _
  obtain ⟨hearlier, -⟩ := performAll_trace earlier hcwd hhook
    (fun other hother => htools other (hmem other hother))
    fun pipeline hpipeline => hroad pipeline (hmem _ hpipeline)
  exact ownWork (by rwa [hearlier]) run

end WorkRun

/-! ### A history of plain runs -/

namespace PlainTools

/-- A project with a hook file, and a compiler outside of it. -/
def hookedDisk : Node :=
  .folder [("bin", .folder [("cc", .file { content := [], executable := true })]),
    ("project", .folder [("cmake_user_begin.cmake", .file { content := [7] })])]

/-- Tools that bring a library into the folder they run in. -/
def libraryRunner : Runner Unit := fun call bench =>
  match deploy call bench.disk with
  | some disk => .ok () { bench with disk }
  | none => .error (.toolFailed call.program (some 1)) bench

/-- A pipeline without precompiled headers, with some compilers. -/
def headerless (c cxx : Option String) : Pipeline Unit :=
  { pipeline none with
    job := { job with withoutPch := true, compilers := ⟨c, cxx⟩ }
    runner := libraryRunner }

theorem libraryRunner_after (call : ToolCall) (bench : Bench Unit) :
    AgreeOff (call.folder.location <+: ·) (libraryRunner.after call bench).disk bench.disk := by
  unfold Runner.after libraryRunner
  cases hrun : deploy call bench.disk with
  | none => exact .refl _
  | some disk =>
      refine (deploy_eq_some hrun).2.agree.weaken ?_
      rintro l rfl
      exact List.prefix_append _ _

/-- Two builds that append, one that finds no second compiler, and a test run. -/
def plainHistory : List (WorkRun Unit) :=
  [.build (headerless (some "/bin/cc") (some "/bin/cc")), .build (headerless (some "/bin/cc") none),
    .test (headerless none none), .build (headerless (some "/bin/cc") (some "/bin/cc"))]

end PlainTools

namespace WorkRun

open PlainTools

theorem performAll_leavesTrace_of_plainHistory :
    (sessionIn "/project" hookedDisk).workspace.cwd.isAbsolute = true ∧
      StaysInside plainHistory (sessionIn "/project" hookedDisk).workspace.cwd ∧
      appended (sessionIn "/project" hookedDisk) plainHistory = 2 ∧
      LeavesTrace plainHistory (sessionIn "/project" hookedDisk) := by
  have htools : StaysInside plainHistory (sessionIn "/project" hookedDisk).workspace.cwd := by
    intro run hrun call bench hcall
    have hrunner : run.pipeline.runner = libraryRunner := by
      simp only [plainHistory, List.mem_cons, List.not_mem_nil, or_false] at hrun
      rcases hrun with rfl | rfl | rfl | rfl <;> rfl
    rw [hrunner]
    exact (libraryRunner_after call bench).weaken fun l hl => ⟨run, hrun, hcall ▸ hl⟩
  exact ⟨by decide, htools, by decide +kernel, performAll_leavesTrace _ _ (by decide) htools⟩

end WorkRun

end ReleasePipeline
