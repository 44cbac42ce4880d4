import Mathlib.Data.List.Forall2
import ReleasePipeline.Proofs.Release.Tandem

/-!
# ReleasePipeline.Proofs.Release.Parallel

A release made from one disk under two policies. The runs part where the executable is staged, which
one of them may copy and the other may move. From then on their disks are `Parallel`: they differ in
the place where the executable was built, and nowhere else. No later step of a run looks there, so
the runs stay parallel up to the end of the application, and beyond if they treat the debug symbols
alike.

That a copy succeeds exactly if a move does holds only of a file, which is why there has to be one
in the place of the executable. Apart from that both need the two paths to be accepted and nothing
else (`Stageable`).
-/

namespace ReleasePipeline

open Disk Node

/-! ### Copying and moving a file -/

namespace Disk

variable {d : Node} {above folder : Path} {oldName name : String} {f : File}
  (hold : Path.IsName oldName) (hname : Path.IsName name) (holdLong : isTooLong oldName = false)
  (hlong : isTooLong name = false)

include hold hname holdLong hlong

/-- A file is copied to a place that is no folder's. -/
theorem exists_copyFile (hfrom : Reaches d above) (h : Reaches d folder)
    (hsource : accept (above / oldName) = .ok ()) (htarget : accept (folder / name) = .ok ())
    (hfile : d.entryAt? (above.location ++ [.text oldName]) = some (.file f))
    (hno : d.entryAt? (folder.location ++ [.text name]) ≠ some .folder) :
    ∃ e, copyFile (above / oldName) (folder / name) d = .ok () e := by
  obtain ⟨g, e, hopen, hwrote⟩ := exists_openForWriting f.executable hname h htarget hlong hno
  have hlocate : locate d (above / oldName) = .ok (above.location ++ [.text oldName]) := by
    rw [hfrom.locate_eq hold, hsource, holdLong, hfile]
    rfl
  rw [copyFile_eq, hlocate]
  dsimp only
  rw [hfile]
  dsimp only
  rw [hopen]
  dsimp only
  rw [changeFile_eq, hwrote.entryAt?]
  exact ⟨_, rfl⟩

/-- A file is moved to a place where there is nothing. -/
theorem exists_rename
    (habove : ¬folder.location ++ [.text name] <+: above.location ++ [.text oldName])
    (hbelow : ¬above.location ++ [.text oldName] <+: folder.location ++ [.text name])
    (hfrom : Reaches d above) (h : Reaches d folder)
    (hsource : accept (above / oldName) = .ok ()) (htarget : accept (folder / name) = .ok ())
    (hfile : d.entryAt? (above.location ++ [.text oldName]) = some (.file f))
    (hnone : d.entryAt? (folder.location ++ [.text name]) = none) :
    ∃ e, rename (above / oldName) (folder / name) d = .ok () e := by
  have hnul : ∀ p : Path, accept p = .ok () → hasNul p = false := by
    intro p haccept
    unfold accept at haccept
    split at haccept
    · cases haccept
    · exact Bool.not_eq_true _ ▸ ‹_›
  rw [rename_join hold hname habove hbelow hfrom h hnone, hsource, htarget, hnul _ hsource,
    hnul _ htarget, holdLong, hlong, entryAt?_eq_file_iff.mp hfile]
  exact ⟨_, rfl⟩

end Disk

/-! ### The same sights -/

/-- The same call, made with the same things in the staging folder. -/
structure SameSight (cwd : Path) (x y : Sighting) : Prop where
  call_eq : x.call = y.call
  staging : ∀ below, x.before.entryAt? (Job.stagingAt cwd ++ below) =
    y.before.entryAt? (Job.stagingAt cwd ++ below)

/-- The same calls, each of them made with the same things in the staging folder. -/
abbrev SameSights (cwd : Path) : List Sighting → List Sighting → Prop :=
  List.Forall₂ (SameSight cwd)

theorem SameSights.comparesStaging (cwd : Path) : ComparesStaging cwd (SameSights cwd) := by
  intro c R hR xs ys x y h hx hy hbefore
  refine List.rel_append h (.cons ⟨hx.trans hy.symm, fun below => ?_⟩ .nil)
  exact hR hbefore _ (List.prefix_append _ _)

/-! ### From one disk -/

namespace Stage.Matches

variable {w : Workspace} {P : Likeness σ τ} {Q : α → β → Likeness σ τ} {E : Likeness σ τ}

/-- What is known of the one stage on its own. -/
theorem knowing {x : Stage σ α} {y : Stage τ β} {Px : Assertion σ} {Qx : α → Assertion σ}
    {Ex : Failure → Assertion σ} (h : Matches w P x y Q E) (hx : Runs w Px x Qx Ex)
    (hP : ∀ d m e n, P d m e n → Px d m) :
    Matches w P x y (fun a b d m e n => Qx a d m ∧ Q a b d m e n) E := by
  constructor
  intro s t hw hs
  have h := h.ending s t hw hs
  have hx := hx.ending s hw.1 (hP _ _ _ _ hs)
  generalize x s = r at h hx ⊢
  generalize y t = r' at h ⊢
  cases h with
  | ok h => exact .ok ⟨h.1, hx.2, h.2⟩
  | error h => exact .error h

/-- The same operation on one disk. -/
theorem onDisk_same {op : DiskM α} :
    Matches w (fun d _ e _ => d = e) (Stage.onDisk op : Stage σ (Except Fault α))
      (Stage.onDisk op : Stage τ (Except Fault α)) (fun a b d _ e _ => a = b ∧ d = e) E := by
  constructor
  intro s t hw hsame
  have hsame : s.bench.disk = t.bench.disk := hsame
  unfold Stage.onDisk
  rw [hsame]
  cases op t.bench.disk with
  | ok a d => exact .ok ⟨hw, rfl, rfl⟩
  | error fault d => exact .ok ⟨hw, rfl, rfl⟩

theorem attempt_same {action : String} {p : EntryPath} {op : DiskM α} :
    Matches w (fun d _ e _ => d = e) (Stage.attempt action p op : Stage σ α)
      (Stage.attempt action p op : Stage τ α) (fun a b d _ e _ => a = b ∧ d = e)
      fun _ _ _ _ => True := by
  refine .attempt ?_
  rintro d m e n rfl
  cases op d with
  | ok a d' => exact .ok ⟨rfl, rfl⟩
  | error fault d' => exact .error trivial

theorem recreateFolder_same {folder : Path} :
    Matches w (fun d _ e _ => d = e) (Pipeline.recreateFolder folder : Stage σ Unit)
      (Pipeline.recreateFolder folder : Stage τ Unit) (fun _ _ d _ e _ => d = e)
      fun _ _ _ _ => True := by
  have hmake : Matches w (fun d _ e _ => d = e)
      (Stage.attempt "create" folder (makeFolder folder) : Stage σ Unit)
      (Stage.attempt "create" folder (makeFolder folder) : Stage τ Unit)
      (fun _ _ d _ e _ => d = e) fun _ _ _ _ => True :=
    attempt_same.weaken (fun _ _ _ _ h => h) (fun _ _ _ _ _ _ h => h.2) fun _ _ _ _ h => h
  unfold Pipeline.recreateFolder
  refine .bind onDisk_same fun ending ending' => .assuming fun hending => ?_
  subst hending
  cases ending with
  | ok u => exact .bind .report fun _ _ => hmake
  | error fault =>
      exact .ite (fun _ => hmake) fun _ => .bind (.throw fun _ _ _ _ _ => trivial) fun _ _ => hmake

end Stage.Matches

/-! ### Staging the executable -/

/-- The paths between which the executable is brought are accepted. -/
structure Job.Stageable (job : Job) (cwd : Path) : Prop where
  source : accept (cwd / job.buildFolder / "exotracker-qt.exe") = .ok ()
  target : accept (cwd / "archive-root" / "exotracker-qt.exe") = .ok ()

/-- What is left of an executable in the place where it was built. -/
def ExecutableTransfer.leaves (f : File) : ExecutableTransfer → Option Entry
  | .copy => some (.file f)
  | .move => none

/-- A disk that an executable can be staged on. -/
structure HasBuilt (job : Job) (cwd : Path) (f : File) (d : Node) : Prop where
  legal : d.Legal
  build : Reaches d (cwd / job.buildFolder)
  staging : d.entryAt? (Job.stagingAt cwd) = some .folder
  vacant : d.entryAt? (Job.stagedAt cwd) = none
  built : d.entryAt? (job.builtAt cwd) = some (.file f)
  clear : ∀ l ∈ cwd.road, ¬Job.stagingAt cwd <+: l

variable {job : Job} {cwd : Path} {f : File} {d e d' e' start : Node}

theorem HasBuilt.of_recreated (hlegal : start.Legal) (hbuild : Reaches start (cwd / job.buildFolder))
    (hfile : start.entryAt? (job.builtAt cwd) = some (.file f))
    (h : Recreated (cwd / "archive-root") start d) : HasBuilt job cwd f d := by
  obtain ⟨-, hclear⟩ := h.road cwd "archive-root" (by decide) rfl
  obtain ⟨hmade, hempty, hagree, hkeeps, -, -⟩ := h
  rw [Job.location_staging] at hmade hempty hagree hclear
  have hapart : ∀ below, ¬Job.stagingAt cwd <+: cwd.location ++ .text job.buildFolder :: below :=
    fun below => not_prefix_of_text_ne job.buildFolder_ne_staging.symm
  refine ⟨hkeeps hlegal, hbuild.of_agree hagree ?_, hmade, ?_, (hagree _ (hapart _)).trans hfile,
    hclear⟩
  · intro l hl hbelow
    rw [Path.road_join_name job.isName_buildFolder, List.mem_append, List.mem_singleton] at hl
    rcases hl with hl | rfl
    · exact absurd hbelow (hclear l hl)
    · exact absurd hbelow (hapart [])
  · rw [Job.stagedAt_eq]
    exact hempty _ _

namespace HasBuilt

theorem reaches_staging (h : HasBuilt job cwd f d) : Reaches d (cwd / "archive-root") := by
  refine (h.build.of_join job.isName_buildFolder).join (by decide) (by decide) ?_
  exact h.staging

theorem location_target : (cwd / "archive-root").location ++ [.text "exotracker-qt.exe"] =
    Job.stagedAt cwd := by
  rw [Job.location_staging, Job.stagedAt_eq]

theorem location_source : (cwd / job.buildFolder).location ++ [.text "exotracker-qt.exe"] =
    job.builtAt cwd := by
  rw [← Path.location_join_name (by decide), Job.location_built]

/-- An executable is copied if the paths are accepted. -/
theorem copied (h : HasBuilt job cwd f d) (hpaths : job.Stageable cwd) :
    ∃ e, copyFile (cwd / job.buildFolder / "exotracker-qt.exe")
      (cwd / "archive-root" / "exotracker-qt.exe") d = .ok () e := by
  refine exists_copyFile (by decide) (by decide) (by decide) (by decide) h.build h.reaches_staging
    hpaths.source hpaths.target (location_source ▸ h.built) ?_
  rw [location_target, h.vacant]
  exact nofun

/-- An executable is moved if the paths are accepted. -/
theorem moved (h : HasBuilt job cwd f d) (hpaths : job.Stageable cwd) :
    ∃ e, rename (cwd / job.buildFolder / "exotracker-qt.exe")
      (cwd / "archive-root" / "exotracker-qt.exe") d = .ok () e := by
  refine exists_rename (by decide) (by decide) (by decide) (by decide) ?_ ?_ h.build
    h.reaches_staging hpaths.source hpaths.target (location_source ▸ h.built) ?_
  · rw [location_source, location_target]
    exact not_prefix_of_text_ne job.buildFolder_ne_staging.symm
  · rw [location_source, location_target]
    exact not_prefix_of_text_ne job.buildFolder_ne_staging
  · rw [location_target]
    exact h.vacant

end HasBuilt

/-- Bringing something to another place, where that can be done. -/
theorem Stage.Runs.transfer_ok {w : Workspace} {m₀ : σ} {source target : Path}
    {mode : ExecutableTransfer} (hcopy : ∃ e, copyFile source target d = .ok () e)
    (hmove : ∃ e, rename source target d = .ok () e) :
    Runs w (fun d' m => d' = d ∧ m = m₀) (Pipeline.transfer source target mode)
      (fun _ e m => Transferred source target mode d e ∧ m = m₀) fun _ _ _ => False := by
  obtain ⟨copied, hcopy⟩ := hcopy
  obtain ⟨moved, hmove⟩ := hmove
  have hsucceeds : Runs w (fun d' m => d' = d ∧ m = m₀) (Pipeline.transfer source target mode)
      (fun _ _ _ => True) fun _ _ _ => False := by
    unfold Pipeline.transfer
    refine .bind .report fun _ => ?_
    cases mode with
    | copy =>
        refine .attempt ?_
        rintro _ m ⟨rfl, -⟩
        rw [hcopy]
        trivial
    | move =>
        refine .attempt ?_
        rintro _ m ⟨rfl, -⟩
        rw [hmove]
        trivial
  refine ((transfer (E := fun _ _ _ => True) ?_ fun _ _ _ _ => trivial).and hsucceeds).weaken
    (fun _ _ h => h) (fun _ _ _ h => h.1) fun _ _ _ h => h.2
  rintro _ m e ⟨rfl, rfl⟩ htransferred
  exact ⟨htransferred, rfl⟩

/-! ### Two disks that differ in one place -/

/-- Two runs under way. Their disks differ in the place where the executable was built, and no
folder is there. -/
structure Parallel (job : Job) (cwd : Path) (left right : Option Entry) (d e : Node) : Prop where
  legal : d.Legal
  agree : AgreeOff (· = job.builtAt cwd) d e
  built : d.entryAt? (job.builtAt cwd) = left ∧ e.entryAt? (job.builtAt cwd) = right
  no_folder : left ≠ some .folder
  build : Reaches d (cwd / job.buildFolder)
  staging : d.entryAt? (Job.stagingAt cwd) = some .folder
  clear : ∀ l ∈ cwd.road, ¬Job.stagingAt cwd <+: l

theorem HasBuilt.not_below_built (h : HasBuilt job cwd f d) {l : Location}
    (hl : d.entryAt? l = some .folder) : ¬job.builtAt cwd <+: l := by
  rintro ⟨below, rfl⟩
  cases below with
  | nil =>
      rw [List.append_nil, h.built] at hl
      cases hl
  | cons name below =>
      rw [entryAt?_below_eq_none name below (by rw [h.built]; exact nofun)] at hl
      cases hl

/-- What a disk is once the executable is staged. Below the place where it was built there is
nothing, since it is a file. -/
theorem HasBuilt.entryAt?_transferred {mode : ExecutableTransfer} (h : HasBuilt job cwd f d)
    (ht : Transferred (cwd / job.buildFolder / "exotracker-qt.exe")
      (cwd / "archive-root" / "exotracker-qt.exe") mode d e) :
    e.entryAt? (job.builtAt cwd) = mode.leaves f ∧
      ∀ l, l ≠ job.builtAt cwd → e.entryAt? l =
        if l = Job.stagedAt cwd then some (.file f) else d.entryAt? l := by
  obtain ⟨-, harrived, hgone, hagree, -⟩ := ht
  rw [Job.location_built, Job.location_staged] at harrived hgone hagree
  have hapart : job.builtAt cwd ≠ Job.stagedAt cwd := fun heq =>
    job.buildFolder_ne_staging (EntryName.text.inj (List.cons.inj (List.append_cancel_left heq)).1)
  have hbelow : ∀ {c : Node} {l : Location} (name : EntryName) (below : Location),
      c.entryAt? l ≠ some .folder → c.entryAt? (l ++ name :: below) = none :=
    fun name below => entryAt?_below_eq_none name below
  have hfile : d.entryAt? (job.builtAt cwd) ≠ some .folder := by
    rw [h.built]
    exact nofun
  have hthere : e.entryAt? (job.builtAt cwd) = mode.leaves f := by
    cases mode with
    | copy =>
        refine (hagree _ ?_).trans h.built
        rintro (hl | ⟨hmode, -⟩)
        · exact not_prefix_of_text_ne job.buildFolder_ne_staging.symm hl
        · cases hmode
    | move => exact hgone rfl hapart
  have hleft : e.entryAt? (job.builtAt cwd) ≠ some .folder := by
    rw [hthere]
    cases mode <;> exact nofun
  refine ⟨hthere, fun l hl => ?_⟩
  by_cases hstaged : Job.stagedAt cwd <+: l
  · obtain ⟨below, rfl⟩ := hstaged
    rw [harrived hapart]
    cases below with
    | nil => rw [List.append_nil, List.append_nil, if_pos rfl, h.built]
    | cons name below =>
        rw [hbelow name below hfile, if_neg (by simp), hbelow name below]
        rw [h.vacant]
        exact nofun
  · rw [if_neg fun heq : l = _ => hstaged (heq ▸ List.prefix_rfl)]
    by_cases hbuilt : job.builtAt cwd <+: l
    · obtain ⟨below, rfl⟩ := hbuilt
      cases below with
      | nil => exact absurd (List.append_nil _) hl
      | cons name below => rw [hbelow name below hleft, hbelow name below hfile]
    · exact hagree l (not_or.mpr ⟨hstaged, fun h => hbuilt h.2⟩)

namespace Parallel

variable {left right : Option Entry} {touched : Location → Prop}

theorem of_transferred {mode mode' : ExecutableTransfer} (h : HasBuilt job cwd f start)
    (hd : Transferred (cwd / job.buildFolder / "exotracker-qt.exe")
      (cwd / "archive-root" / "exotracker-qt.exe") mode start d)
    (he : Transferred (cwd / job.buildFolder / "exotracker-qt.exe")
      (cwd / "archive-root" / "exotracker-qt.exe") mode' start e) :
    Parallel job cwd (mode.leaves f) (mode'.leaves f) d e := by
  obtain ⟨hbuilt, hothers⟩ := h.entryAt?_transferred hd
  obtain ⟨hbuilt', hothers'⟩ := h.entryAt?_transferred he
  have hfolder : ∀ l, start.entryAt? l = some .folder → d.entryAt? l = some .folder := by
    intro l hl
    rw [hothers l fun heq => h.not_below_built hl (heq ▸ List.prefix_rfl), if_neg, hl]
    rintro rfl
    rw [h.vacant] at hl
    cases hl
  refine ⟨hd.legal h.legal, fun l hl => ?_, ⟨hbuilt, hbuilt'⟩, ?_, ?_, hfolder _ h.staging, h.clear⟩
  · rw [hothers l hl, hothers' l hl]
  · cases mode <;> exact nofun
  · exact h.build.congr fun l hl => hfolder l (h.build.folders l hl)

/-- No folder that a run works in is in the place where the executable was built. -/
theorem stands (h : Parallel job cwd left right d e) {l : Location} (hl : job.StandsOn cwd l) :
    d.entryAt? l = some .folder ∧ e.entryAt? l = some .folder := by
  have hthere : d.entryAt? l = some .folder := by
    rcases hl with hl | rfl | rfl
    · exact (h.build.of_join job.isName_buildFolder).folders l hl
    · rw [← job.location_build]
      exact h.build.folder_location
    · exact h.staging
  refine ⟨hthere, ?_⟩
  rw [← h.agree l]
  · exact hthere
  · rintro rfl
    exact h.no_folder (h.built.1.symm.trans hthere)

theorem staging_eq (h : Parallel job cwd left right d e) {l : Location}
    (hl : Job.stagingAt cwd <+: l) : d.entryAt? l = e.entryAt? l := by
  refine h.agree l ?_
  rintro rfl
  exact not_prefix_of_text_ne job.buildFolder_ne_staging.symm hl

/-- A step that changes nothing where the executable was built. -/
theorem keep (h : Parallel job cwd left right d e) (hstep : ChangedAlike job cwd touched d e d' e')
    (hbuilt : ¬touched (job.builtAt cwd)) : Parallel job cwd left right d' e' := by
  obtain ⟨hlegal, hd, he, hsame, hstands⟩ := hstep
  have hfolder : ∀ l, job.StandsOn cwd l → d'.entryAt? l = some .folder := by
    intro l hl
    by_cases htouched : touched l
    · exact hstands l htouched hl
    · rw [hd l htouched]
      exact (h.stands hl).1
  refine ⟨hlegal, fun l hl => ?_, ?_, h.no_folder, ?_, hfolder _ (.inr (.inr rfl)),
    h.clear⟩
  · by_cases htouched : touched l
    · exact hsame l htouched
    · rw [hd l htouched, he l htouched]
      exact h.agree l hl
  · rw [hd _ hbuilt, he _ hbuilt]
    exact h.built
  · refine h.build.congr fun l hl => hfolder l ?_
    rw [Path.road_join_name job.isName_buildFolder, List.mem_append, List.mem_singleton] at hl
    exact hl.imp id .inl

theorem tandem : Tandem job cwd (Parallel job cwd left right) where
  clear h := h.clear
  legal h := h.legal
  build h := h.build
  stands h _ hl := h.stands hl
  staging h _ hl := h.staging_eq hl
  symbols h below := by
    refine h.agree _ fun heq => ?_
    rw [Job.symbolsBuiltAt, Job.builtAt, List.append_assoc] at heq
    have hnames := (List.cons.inj (List.cons.inj (List.append_cancel_left heq)).2).1
    exact absurd hnames (by decide)
  keep := keep

/-- What is published is in another place. -/
theorem settles (name : String) :
    Settles job cwd (cwd.location ++ [.text name]) (Parallel job cwd left right)
      (Parallel job cwd left right) :=
  tandem.settles fun h => h.agree _ Job.published_ne.symm

end Parallel

/-! ### Staging -/

namespace Stage.Matches

variable {w : Workspace}

theorem transfer_parallel {mode mode' : ExecutableTransfer} (hpaths : job.Stageable cwd) :
    Matches w (Along (SameSights cwd) fun d e => d = e ∧ HasBuilt job cwd f d)
      (Pipeline.transfer (cwd / job.buildFolder / "exotracker-qt.exe")
        (cwd / "archive-root" / "exotracker-qt.exe") mode : Stage (Watched σ) Unit)
      (Pipeline.transfer (cwd / job.buildFolder / "exotracker-qt.exe")
        (cwd / "archive-root" / "exotracker-qt.exe") mode' : Stage (Watched τ) Unit)
      (fun _ _ => Along (SameSights cwd) (Parallel job cwd (mode.leaves f) (mode'.leaves f)))
      (Along (SameSights cwd) fun _ _ => True) := by
  refine .quietly_along Pipeline.transfer_calls.quiet Pipeline.transfer_calls.quiet (.fix ?_)
  rintro d m e n ⟨rfl, hbuilt⟩
  refine (of_ok (Runs.transfer_ok (hbuilt.copied hpaths) (hbuilt.moved hpaths))
    (Runs.transfer_ok (hbuilt.copied hpaths) (hbuilt.moved hpaths))).weaken
    (fun _ _ _ _ h => h) ?_ fun _ _ _ _ h => h
  rintro _ _ d' m' e' n' ⟨⟨hd, -⟩, he, -⟩
  exact .of_transferred hbuilt hd he

end Stage.Matches

namespace Pipeline

open Stage

variable {pipeline : Pipeline σ} {w : Workspace} {other : Job}

/-- From one disk with an executable that can be staged, two jobs that ship the same come to the
same application. -/
theorem publishFirst_parallel (hrunner : pipeline.runner.Contained)
    (hkeeps : pipeline.runner.KeepsFolder) (hdet : pipeline.runner.Deterministic)
    (hplain : pipeline.job.HasPlainNames) (hcwd : cwd.isAbsolute = true)
    (hother : other.ShipsAs pipeline.job) (hpaths : pipeline.job.Stageable cwd)
    (hlegal : start.Legal) (hfile : start.entryAt? (pipeline.job.builtAt cwd) = some (.file f))
    (hw : w.cwd = cwd) :
    Matches w (Along (SameSights cwd) fun d e => d = start ∧ e = start)
      (pipeline.watched.publishFirst .windows)
      ((pipeline.withJob other).watched.publishFirst .windows)
      (fun a b => Along (SameSights cwd) fun d e => (a = b ∧ ∃ application, a = ⟨cwd,
        cwd / pipeline.job.buildFolder, cwd / (⟨pipeline.job.archiveName⟩ : Path), application⟩) ∧
          Parallel pipeline.job cwd (pipeline.job.policy.executable.leaves f)
            (other.policy.executable.leaves f) d e)
      (Along (SameSights cwd) fun _ _ => True) := by
  refine publishFirst_tandem (P := fun d e => d = e ∧ HasBuilt pipeline.job cwd f d) hrunner hdet
    hplain hcwd (SameSights.comparesStaging cwd) Parallel.tandem Parallel.tandem hkeeps hother hw
    (Parallel.settles _) ?_ ?_ ?_ fun _ => .transfer_parallel hpaths
  · rintro d e ⟨rfl, rfl⟩
    rfl
  · refine .of_fact (φ := Reaches start (cwd / pipeline.job.buildFolder)) ?_ fun hbuild => ?_
    · rintro d m e n ⟨hthere, rfl, -⟩
      exact .of_isFolder hthere
    -- Both runs do the same to one disk, so what is known of one of them holds of both.
    refine ((Matches.recreateFolder_same.weaken (P := fun d _ e _ => d = start ∧ e = start)
      (fun d m e n h => h.1.trans h.2.symm) (fun _ _ _ _ _ _ h => h) fun _ _ _ _ h => h).knowing
        (Runs.recreateFolder (P := fun d _ => d = start)
          (Q := fun d _ => Recreated (cwd / "archive-root") start d) (E := fun _ _ _ => True)
          ?_ fun _ _ _ _ _ _ => trivial) fun d m e n h => h.1).weaken (fun _ _ _ _ h => h.2) ?_
        fun _ _ _ _ h => h
    · rintro d m e rfl hrecreated
      exact hrecreated
    · rintro _ _ d m e n ⟨hrecreated, hsame⟩
      exact ⟨hsame, .of_recreated hlegal hbuild hfile hrecreated⟩
  · rintro d e ⟨rfl, -⟩
    rfl

end Pipeline

end ReleasePipeline
