import ReleasePipeline.Proofs.Build.History
import ReleasePipeline.Proofs.Disk.SideBySide
import ReleasePipeline.Proofs.Release.Sightings
import ReleasePipeline.Proofs.Stage.Refusals

/-!
# ReleasePipeline.Proofs.Build.OneFolder

The build folder that the stages have in common. A build makes it and works in it, a test run and a
release look for it, and each of them finds its path anew, from its own job and its own current
folder. Jobs that agree on name and configuration mean one path, so a build that came as far as its
first call has made the folder that the others look for, and what they take is taken from there.
-/

namespace ReleasePipeline

open Disk Node

/-! ### Folders that stay -/

/-- What is a folder on one disk is a folder on another one. -/
def Node.KeepsFolders (d e : Node) : Prop :=
  ∀ l, d.entryAt? l = some .folder → e.entryAt? l = some .folder

theorem Node.KeepsFolders.isFolder {d e : Node} {p : Path} (h : KeepsFolders d e)
    (hd : Disk.isFolder d p = true) : Disk.isFolder e p = true := by
  have hreaches := Reaches.of_isFolder hd
  rw [← isFolder_congr fun l hl => ⟨fun hfolder => h l hfolder, fun _ => hreaches.folders l hl⟩]
  exact hd

/-- A runner whose tools remove no folder. -/
def Runner.KeepsFolders (runner : Runner σ) : Prop :=
  ∀ call bench, Node.KeepsFolders bench.disk (runner.after call bench).disk

theorem Runner.KeepsFolders.made {runner : Runner σ} {c : ToolCall} {x : Sighting}
    (h : runner.KeepsFolders) (hx : runner.Made c x) : Node.KeepsFolders x.before x.after := by
  obtain ⟨-, bench, hbefore, hafter⟩ := hx
  rw [← hbefore, ← hafter]
  exact h c bench

/-! ### Failures of tools -/

/-- Failures that some tool call has ended with, and all those that are not about a missing build
folder. -/
def OfTools (failure : Failure) (m : Watched σ) : Prop :=
  (∃ folder, failure = .buildFolderMissing folder) → ∃ x ∈ m.seen, x.failure = some failure

theorem OfTools.coversDisk : Failure.CoversDisk (@OfTools σ) := by
  rintro action p fault m ⟨folder, hfailure⟩
  cases hfailure

/-- A failure that a watched call ends with is the failure of a sighting. -/
theorem Runner.watched_ofTools (runner : Runner σ) : runner.watched.FailsOnly OfTools := by
  intro call bench failure after hrun _
  unfold Runner.watched at hrun
  cases hinner : runner call { bench with memory := bench.memory.inner } with
  | ok u inner =>
      rw [hinner] at hrun
      cases hrun
  | error cause inner =>
      rw [hinner] at hrun
      obtain ⟨rfl, rfl⟩ := EStateM.Result.error.inj hrun
      exact ⟨_, List.mem_append_right _ (List.mem_singleton.mpr rfl), rfl⟩

/-- Every call so far was a good one. -/
def AllSeen (good : Sighting → Prop) : Assertion (Watched σ) :=
  fun _ m => ∀ x ∈ m.seen, good x

/-- Calls that are good whatever they find keep it so that all calls were good ones. -/
theorem Stage.CallsAlong.allSeen {w : Workspace} {plan : List ToolCall}
    {stage : Stage (Watched σ) α} {value : α → Prop} {good : Sighting → Prop}
    (h : CallsAlong w plan stage value) (hplan : ∀ x : Sighting, x.call ∈ plan → good x) :
    Runs w (AllSeen good) stage (fun _ => AllSeen good) fun _ => AllSeen good := by
  have hmade : ∀ {past made : List Sighting}, (∀ x ∈ past, good x) →
      made.map Sighting.call ⊆ plan → ∀ x ∈ past ++ made, good x := fun hpast hsub =>
    List.forall_mem_append.mpr
      ⟨hpast, fun x hx => hplan x (hsub (List.mem_map_of_mem hx))⟩
  refine (Runs.of_exists (R := fun past _ m => (∀ x ∈ past, good x) ∧ m.seen = past) fun past =>
    .assuming fun hpast => (h past).weaken (fun _ _ h => h) ?_ ?_).weaken
    (fun d m hseen => ⟨m.seen, hseen, rfl⟩) (fun _ _ _ h => h) fun _ _ _ h => h
  · rintro a d m ⟨-, made, hcompletes, hseen⟩
    rw [AllSeen, hseen]
    exact hmade hpast (hcompletes.calls_eq ▸ List.Subset.refl _)
  · rintro failure d m ⟨made, hstops, hseen⟩
    rw [AllSeen, hseen]
    exact hmade hpast hstops.calls_prefix.subset

namespace Pipeline

open Stage

variable {pipeline : Pipeline σ} {w : Workspace} {start : Node} {folder : Path}

/-! ### What a build leaves -/

/-- A build that came as far as its first call leaves its build folder. -/
theorem isFolder_after_build (builder : Pipeline σ) (s : Session σ)
    (hcwd : s.workspace.cwd.isAbsolute = true) (hrunner : builder.runner.KeepsFolders)
    (hcalled : (builder.afterBuild s).bench.memory.seen ≠ []) :
    isFolder (builder.afterBuild s).bench.disk
      (s.workspace.cwd / builder.job.buildFolder) = true := by
  obtain ⟨-, prepared, -, hworked⟩ := builder.build_account s hcwd
  rw [afterBuild] at hcalled ⊢
  refine hworked.linked.keeps (P := (isFolder · _ = true)) (hworked.entered hcalled) ?_
  intro x hx hbefore
  exact (hrunner.made (hworked.made x hx).2).isFolder hbefore

/-! ### Finding it again -/

/-- Where the build folder is found, it is reported as missing only by a tool. -/
theorem ofTools_of_isFolder {stage rest : Stage (Watched σ) α} {t r : Session (Watched σ)}
    {missing : Path}
    (happly : stage t = if isFolder t.bench.disk folder then rest t
      else .error (.buildFolderMissing folder) t)
    (hrest : FailsOnly OfTools rest) (hthere : isFolder t.bench.disk folder = true)
    (hrun : stage t = .error (.buildFolderMissing missing) r) :
    ∃ x ∈ r.bench.memory.seen, x.failure = some (.buildFolderMissing missing) := by
  rw [hthere, if_pos rfl] at happly
  exact hrest.of_error (happly.symm.trans hrun) ⟨missing, rfl⟩

section

variable {t : Session σ} (hfolder : t.workspace.path ⟨pipeline.job.buildFolder⟩ = folder)

include hfolder

theorem test_ofTools {missing : Path} {r : Session (Watched σ)}
    (hthere : isFolder t.bench.disk folder = true)
    (hrun : pipeline.watched.test t.watched = .error (.buildFolderMissing missing) r) :
    ∃ x ∈ r.bench.memory.seen, x.failure = some (.buildFolderMissing missing) := by
  have happly := pipeline.watched.test_apply t.watched
  rw [show t.watched.workspace.path ⟨pipeline.watched.job.buildFolder⟩ = folder from hfolder]
    at happly
  exact ofTools_of_isFolder happly
    (testIn_failsOnly OfTools.coversDisk pipeline.runner.watched_ofTools _) hthere hrun

theorem archive_ofTools {missing : Path} {r : Session (Watched σ)}
    (hthere : isFolder t.bench.disk folder = true)
    (hrun : pipeline.watched.archive .windows t.watched =
      .error (.buildFolderMissing missing) r) :
    ∃ x ∈ r.bench.memory.seen, x.failure = some (.buildFolderMissing missing) := by
  have happly := pipeline.watched.archive_apply .windows t.watched
  rw [show t.watched.workspace.path ⟨pipeline.watched.job.buildFolder⟩ = folder from hfolder]
    at happly
  exact ofTools_of_isFolder happly
    (archiveFrom_failsOnly OfTools.coversDisk pipeline.runner.watched_ofTools _ _) hthere hrun

/-- Where the build folder is absent, a test run stops on the spot. -/
theorem test_of_not_isFolder (habsent : isFolder t.bench.disk folder = false) :
    pipeline.test t = .error (.buildFolderMissing folder) t := by
  rw [test_apply, hfolder, habsent]
  rfl

theorem archive_of_not_isFolder {packaging : Packaging}
    (habsent : isFolder t.bench.disk folder = false) :
    pipeline.archive packaging t = .error (.buildFolderMissing folder) t := by
  rw [archive_apply, hfolder, habsent]
  rfl

end

/-! ### Taking from it -/

/-- The deployment tool found the executable staged as it was in the build folder at the start. -/
def DeploysFrom (job : Job) (cwd : Path) (start : Node) (x : Sighting) : Prop :=
  x.call.program = "windeployqt.exe" → Staged job cwd start x.before

theorem DeploysFrom.of_compress {job : Job} {cwd archive folder : Path} {inputs : List String}
    {x : Sighting} (h : x.call ∈ [Packaging.windows.compress archive inputs folder]) :
    DeploysFrom job cwd start x := by
  intro hprogram
  rw [List.mem_singleton.mp h] at hprogram
  exact absurd hprogram (show "7z" ≠ "windeployqt.exe" by decide)

/-- Before the deployment tool is called, the executable is brought from the build folder, and no
later call is one of that tool. -/
theorem assemble_deploysFrom {root archive : Path} (hw : w.cwd = root / "archive-root") :
    Runs w (Seeing fun d seen => Recreated (root / "archive-root") start d ∧ seen = [])
      (pipeline.watched.assemble .windows (root / pipeline.job.buildFolder) archive)
      (fun _ => AllSeen (DeploysFrom pipeline.job root start))
      fun _ => AllSeen (DeploysFrom pipeline.job root start) := by
  have hnone : ∀ {m : Watched σ}, m.seen = [] →
      ∀ x ∈ m.seen, DeploysFrom pipeline.job root start x := by
    intro m hseen x hx
    rw [hseen] at hx
    cases hx
  unfold assemble
  refine .bind .cwd fun here => .assuming fun hhere => ?_
  rw [hw] at hhere
  subst hhere
  refine .bind (M := fun _ => Seeing fun d seen => Staged pipeline.job root start d ∧ seen = [])
    (.transfer ?_ ?_) fun _ => ?_
  · intro d m e h htransferred
    exact ⟨.of_transferred h.1 htransferred, h.2⟩
  · intro failure d m h
    exact hnone h.2
  refine .bind .report fun _ => ?_
  rw [deploy_windows]
  refine .bind (M := fun _ => AllSeen (DeploysFrom pipeline.job root start))
    ((Runs.sighted (Q := fun _ seen => ∀ x ∈ seen, DeploysFrom pipeline.job root start x)
      (E := fun _ _ seen => ∀ x ∈ seen, DeploysFrom pipeline.job root start x) ?_ ?_)) fun _ => ?_
  · rintro _ x ⟨hstaged, rfl⟩ - -
    exact List.forall_mem_singleton.mpr fun _ => hstaged
  · rintro _ x failure ⟨hstaged, rfl⟩ - -
    exact List.forall_mem_singleton.mpr fun _ => hstaged
  refine .bind (pruneImageFormats_calls.allSeen nofun) fun _ =>
    .bind (removeIfPresent_calls.allSeen nofun) fun _ => ?_
  exact CallsAlong.call.allSeen fun x hx => .of_compress hx

theorem archive_deploysFrom (hcwd : w.cwd.isAbsolute = true) :
    Runs w (Seeing fun d seen => d = start ∧ seen = []) (pipeline.watched.archive .windows)
      (fun _ => AllSeen (DeploysFrom pipeline.job w.cwd start))
      fun _ => AllSeen (DeploysFrom pipeline.job w.cwd start) := by
  have hnone : ∀ {d : Node} {m : Watched σ}, (d = start ∧ m.seen = []) →
      ∀ x ∈ m.seen, DeploysFrom pipeline.job w.cwd start x := by
    rintro d m ⟨-, hseen⟩ x hx
    rw [hseen] at hx
    cases hx
  have hstaging : (w.inside (w.path ⟨stagingFolder⟩)).cwd = w.cwd / "archive-root" :=
    Workspace.cwd_inside_path hcwd _
  unfold archive
  refine .bind .cwd fun root => .assuming fun hroot => ?_
  refine .bind (.existingBuildFolder fun d m h _ => hnone h) fun folder => ?_
  refine .of_fact (fun d m h => h.1.1.symm) fun hfolder => ?_
  refine .bind .path fun base => .assuming fun hbase => .bind .report fun _ => ?_
  refine .bind .path fun staging => .assuming fun hstaged => ?_
  subst hroot hfolder hbase hstaged
  refine .bind (M := fun _ => Seeing fun d seen =>
    Recreated (w.cwd / "archive-root") start d ∧ seen = []) (.recreateFolder ?_ ?_) fun _ => ?_
  · rintro d m e ⟨-, rfl, hseen⟩ hrecreated
    exact ⟨hrecreated, hseen⟩
  · intro failure d m e h _
    exact hnone h.2
  refine .bind (.within (fun d m h _ => hnone (d := start) ⟨rfl, h.2⟩)
    ((assemble_deploysFrom hstaging).weaken (fun _ _ h => h.2) (fun _ _ _ h => h)
      fun _ _ _ h => h)) fun _ => ?_
  refine .bind (artifact_calls.allSeen nofun) fun application => .bind .report fun _ => ?_
  refine .bind (publishSymbols_calls.allSeen fun x hx => ?_) fun symbols =>
    .bind .report fun _ => .pure fun _ _ h => h
  split at hx
  · exact .of_compress hx
  · cases hx

/-- Debug symbols that are compressed are compressed where the build has left them. -/
theorem archive_packs_symbols {s : Session σ} (hcwd : s.workspace.cwd.isAbsolute = true)
    {x : Sighting} (hx : x ∈ (pipeline.afterArchive s).bench.memory.seen)
    (hprogram : x.call.program = "7z") (hfolder : x.call.folder = s.workspace.cwd) :
    x.call.args.drop 3 =
      [(s.workspace.cwd / pipeline.job.buildFolder / "exotracker-qt.pdb").text] := by
  rw [afterArchive] at hx
  have hfollows : Follows (pipeline.job.archivePlan s.workspace.cwd) _ :=
    .of_callsAlong (archive_calls hcwd)
  have hcall := hfollows.call_mem hx
  unfold Job.archivePlan at hcall
  rcases List.mem_append.mp hcall with hcall | hcall
  · rcases List.mem_cons.mp hcall with hcall | hcall
    · rw [hcall] at hprogram
      exact absurd hprogram (show "windeployqt.exe" ≠ "7z" by decide)
    · -- The application is packed in the staging folder, which is not the current one.
      rw [List.mem_singleton.mp hcall] at hfolder
      have hne : s.workspace.cwd / "archive-root" ≠ s.workspace.cwd := Path.join_name_ne (by decide)
      exact absurd hfolder hne
  · split at hcall
    · rw [List.mem_singleton.mp hcall]
      rfl
    · cases hcall

/-- The debug symbols of a release have the bytes of a file. -/
def CopiedFrom (source : Path) (d : Node) (release : Release) : Prop :=
  ∃ symbols f, release.symbols = some symbols ∧ FileAt d source f ∧
    symbols.sha256 = Sha256.digest f.content

theorem publishBeside_copies {base root : Path} {application : Artifact}
    (hbase : base = w.cwd / (⟨pipeline.job.archiveName⟩ : Path))
    (hfolder : folder = w.cwd / pipeline.job.buildFolder)
    (hpolicy : pipeline.job.policy.debugSymbols = .rename) :
    Runs w (fun _ _ => True)
      (pipeline.publishBeside .windows folder base root application)
      (fun release d _ => CopiedFrom (folder / "exotracker-qt.pdb") d release) fun _ _ _ => True := by
  have hpdb : Path.IsName "exotracker-qt.pdb" := by decide
  have hapart : (folder / "exotracker-qt.pdb").location ≠ (base.addExtension "pdb").location := by
    rw [hbase, hfolder]
    exact (Job.location_symbols_ne_symbolsBuilt _ _ _).symm
  rw [publishBeside_windows]
  refine .bind (M := fun symbols d _ => ∃ f, FileAt d (folder / "exotracker-qt.pdb") f ∧
    symbols.sha256 = Sha256.digest f.content) ?_ fun symbols => .bind .report fun _ => .pure ?_
  · unfold publishSymbols
    rw [hpolicy]
    generalize base.addExtension "pdb" = target at hapart ⊢
    refine .bind (M := fun _ d _ => ∃ f, FileAt d (folder / "exotracker-qt.pdb") f ∧
      d.entryAt? target.location = some (.file f)) (.attempt ?_) fun _ =>
      .artifact ?_ fun _ _ _ _ _ => trivial
    · intro d m _
      cases hrun : copyFile (folder / "exotracker-qt.pdb") target d with
      | error fault e => trivial
      | ok u e =>
          obtain ⟨f, hsource, hno, hagree, -, harrived⟩ := copyFile_ok hrun
          have hbuild : Reaches d folder := .of_locate hpdb hsource.locate
          refine ⟨f, hsource.keep hpdb (hbuild.change hagree fun hthere => absurd hthere hno)
            (hagree _ ?_), harrived hapart⟩
          rw [← Path.location_join_name hpdb]
          exact hapart
    · rintro symbols d m ⟨f, hsource, htarget⟩ ⟨-, g, hfile, hdigest⟩
      obtain rfl : f = g := by simpa [htarget] using hfile.entry
      exact ⟨f, hsource, hdigest⟩
  · rintro d m ⟨f, hfile, hdigest⟩
    exact ⟨symbols, f, rfl, hfile, hdigest⟩

theorem archive_copies (hpolicy : pipeline.job.policy.debugSymbols = .rename) :
    Runs w (fun _ _ => True) (pipeline.archive .windows)
      (fun release d _ =>
        CopiedFrom (w.cwd / pipeline.job.buildFolder / "exotracker-qt.pdb") d release)
      fun _ _ _ => True := by
  rw [archive_eq]
  refine .bind .cwd fun root => .bind (.existingBuildFolder fun _ _ _ _ => trivial) fun folder => ?_
  refine .of_fact (fun d m h => h.1.1.symm) fun hfolder => ?_
  unfold archiveFrom
  refine .bind .path fun base => .assuming fun hbase => ?_
  subst hfolder
  have hready : ∀ folder, FailsOnly (fun _ _ => True)
      (pipeline.publishApplication .windows folder base) := fun folder =>
    publishApplication_failsOnly (fun _ _ _ _ => trivial) (fun _ _ _ _ _ => trivial) folder base
  exact .bind ((hready _ w).weaken (fun _ _ _ => trivial) (fun _ _ _ h => h) fun _ _ _ h => h)
    fun application => publishBeside_copies hbase rfl hpolicy

/-! ### One folder -/

/-- What the stages have in common, for a build from one session and a test run and a release from
another one: the calls of all three are about one folder, a test run and a release find it if the
build came as far as CMake, and they stop on the spot where it is absent. -/
structure UseOneFolder (builder : Pipeline σ) (tester packer : Pipeline τ) (s : Session σ)
    (t : Session τ) (folder : Path) : Prop where
  builds_in : ∀ x ∈ (builder.afterBuild s).bench.memory.seen, x.call.folder = folder
  tests_in : ∀ x ∈ (tester.afterTest t).bench.memory.seen,
    x.call.folder = folder ∧ x.call.program = (folder / "exotracker-tests").text
  deploys_from : ∀ x ∈ (packer.afterArchive t).bench.memory.seen,
    x.call.program = "windeployqt.exe" →
      t.bench.disk.entryAt? (folder / "exotracker-qt.exe").location ≠ none ∧
      ∀ below, x.before.entryAt?
          ((t.workspace.cwd / "archive-root").location ++ .text "exotracker-qt.exe" :: below) =
        t.bench.disk.entryAt? ((folder / "exotracker-qt.exe").location ++ below)
  packs_symbols_from : ∀ x ∈ (packer.afterArchive t).bench.memory.seen,
    x.call.program = "7z" → x.call.folder = t.workspace.cwd →
      x.call.args.drop 3 = [(folder / "exotracker-qt.pdb").text]
  copies_symbols_from : packer.job.policy.debugSymbols = .rename →
    ∀ release r, packer.archive .windows t = .ok release r →
      CopiedFrom (folder / "exotracker-qt.pdb") r.bench.disk release
  found : (∃ x ∈ (builder.afterBuild s).bench.memory.seen, x.call.program = "cmake") →
    (builder.afterBuild s).bench.disk.KeepsFolders t.bench.disk →
      isFolder t.bench.disk folder = true
  test_found : isFolder t.bench.disk folder = true → ∀ missing r,
    tester.watched.test t.watched = .error (.buildFolderMissing missing) r →
      ∃ x ∈ r.bench.memory.seen, x.failure = some (.buildFolderMissing missing)
  archive_found : isFolder t.bench.disk folder = true → ∀ missing r,
    packer.watched.archive .windows t.watched = .error (.buildFolderMissing missing) r →
      ∃ x ∈ r.bench.memory.seen, x.failure = some (.buildFolderMissing missing)
  absent : isFolder t.bench.disk folder = false →
    tester.test t = .error (.buildFolderMissing folder) t ∧
      packer.archive .windows t = .error (.buildFolderMissing folder) t

/-- **The stages agree on one folder.** Whatever the versions, the policies and the compilers of the
jobs are, and however the build ended, the stages work in one folder and take what they need from
there. -/
theorem useOneFolder (builder : Pipeline σ) (tester packer : Pipeline τ) (s : Session σ)
    (t : Session τ) (hcwd : s.workspace.cwd.isAbsolute = true)
    (hsame : t.workspace.cwd = s.workspace.cwd) (htester : tester.job.SharesFolder builder.job)
    (hpacker : packer.job.SharesFolder builder.job) (hrunner : builder.runner.KeepsFolders) :
    UseOneFolder builder tester packer s t (s.workspace.cwd / builder.job.buildFolder) := by
  have hthere : t.workspace.cwd.isAbsolute = true := hsame ▸ hcwd
  have hpath : ∀ job : Job, job.SharesFolder builder.job →
      t.workspace.cwd / job.buildFolder = s.workspace.cwd / builder.job.buildFolder := by
    intro job hjob
    rw [hjob.buildFolder_eq, hsame]
  have hbuild : builder.Accounts s.workspace.cwd s.bench.disk _ _ := (builder.build_account s hcwd).2
  generalize hfolder : s.workspace.cwd / builder.job.buildFolder = folder at hpath
  constructor
  case builds_in =>
    obtain ⟨prepared, -, hworked⟩ := hbuild
    rw [afterBuild, ← hfolder]
    exact fun x hx => (hworked.made x hx).1
  case tests_in =>
    intro x hx
    rw [afterTest] at hx
    have hfollows : Follows (tester.job.testPlan t.workspace.cwd) _ :=
      .of_callsAlong (test_calls hthere)
    have hcall := hfollows.call_mem hx
    rw [Job.testPlan, hpath _ htester, List.mem_singleton] at hcall
    rw [hcall]
    exact ⟨rfl, rfl⟩
  case deploys_from =>
    intro x hx hprogram
    have hruns : Runs t.workspace (Seeing fun d seen => d = t.bench.disk ∧ seen = [])
        (packer.watched.archive .windows) _ _ := archive_deploysFrom hthere
    have hdeploys := (hruns.sessionAfter t.watched rfl ⟨rfl, rfl⟩).2
    rw [afterArchive] at hx
    obtain ⟨-, hsource, hstaged⟩ := hdeploys x hx hprogram
    rw [hpath _ hpacker] at hsource hstaged
    exact ⟨hsource, fun below => (hstaged _ below).trans (if_pos rfl)⟩
  case packs_symbols_from =>
    intro x hx hprogram hcalled
    rw [← hpath _ hpacker]
    exact archive_packs_symbols hthere hx hprogram hcalled
  case copies_symbols_from =>
    intro hpolicy release r hrun
    rw [← hpath _ hpacker]
    exact (archive_copies hpolicy).meets rfl trivial hrun
  case found =>
    rintro ⟨x, hx, -⟩ hkept
    rw [← hfolder]
    exact hkept.isFolder (isFolder_after_build builder s hcwd hrunner (List.ne_nil_of_mem hx))
  case test_found => exact fun hthere missing r => test_ofTools (hpath _ htester) hthere
  case archive_found => exact fun hthere missing r => archive_ofTools (hpath _ hpacker) hthere
  case absent =>
    exact fun habsent => ⟨test_of_not_isFolder (hpath _ htester) habsent,
      archive_of_not_isFolder (hpath _ hpacker) habsent⟩

end Pipeline

/-! ### A build that breaks off -/

namespace PlainTools

/-- Tools that configure a project and cannot compile it. -/
def configuringRunner : Runner Unit := fun call bench =>
  if call.program = "ninja" then .error (.toolFailed "ninja" (some 1)) bench
  else libraryRunner call bench

/-- A pipeline with them. -/
def configuring : Pipeline Unit :=
  { headerless (some "/bin/cc") (some "/bin/cc") with runner := configuringRunner }

/-- The session that such a build leaves. -/
def configured : Session Unit :=
  ⟨⟨⟨"/project"⟩, ⟨"/project"⟩⟩,
    (configuring.afterBuild (sessionIn "/project" hookedDisk)).unwatched.bench⟩

theorem libraryRunner_keepsFolders : libraryRunner.KeepsFolders := by
  intro call bench l hfolder
  unfold Runner.after libraryRunner
  cases hrun : deploy call bench.disk with
  | none => exact hfolder
  | some disk =>
      unfold deploy at hrun
      split at hrun
      · obtain ⟨-, hno, hwrote⟩ := fileIn_eq_some hrun
        refine (hwrote.agree l ?_).trans hfolder
        rintro rfl
        exact hno hfolder
      · cases hrun

theorem configuringRunner_keepsFolders : configuringRunner.KeepsFolders := by
  intro call bench
  unfold Runner.after configuringRunner
  by_cases hninja : call.program = "ninja"
  · rw [if_pos hninja]
    exact fun _ h => h
  · rw [if_neg hninja]
    exact libraryRunner_keepsFolders call bench

end PlainTools

namespace Pipeline

open PlainTools

theorem useOneFolder_of_broken_build :
    (sessionIn "/project" hookedDisk).workspace.cwd.isAbsolute = true ∧
      configured.workspace.cwd = (sessionIn "/project" hookedDisk).workspace.cwd ∧
      (headerless none none).job.SharesFolder configuring.job ∧
      (moving none).job.SharesFolder configuring.job ∧ configuring.runner.KeepsFolders ∧
      Stage.succeeds configuring.build (sessionIn "/project" hookedDisk) = false ∧
      (∃ x ∈ (configuring.afterBuild (sessionIn "/project" hookedDisk)).bench.memory.seen,
        x.call.program = "cmake") ∧
      UseOneFolder configuring (headerless none none) (moving none)
        (sessionIn "/project" hookedDisk) configured ⟨"/project/build-windows-Release"⟩ := by
  have hcalled : (configuring.afterBuild (sessionIn "/project" hookedDisk)).bench.memory.seen.any
      (·.call.program == "cmake") = true := by decide +kernel
  obtain ⟨x, hx, hprogram⟩ := List.any_eq_true.mp hcalled
  exact ⟨by decide, rfl, ⟨rfl, rfl⟩, ⟨rfl, rfl⟩, configuringRunner_keepsFolders, by decide +kernel,
    ⟨x, hx, beq_iff_eq.mp hprogram⟩, useOneFolder configuring (headerless none none) (moving none)
      (sessionIn "/project" hookedDisk) configured (by decide) rfl ⟨rfl, rfl⟩ ⟨rfl, rfl⟩
      configuringRunner_keepsFolders⟩

end Pipeline

end ReleasePipeline
