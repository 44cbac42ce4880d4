import ReleasePipeline.Proofs.Release.Tandem

/-!
# ReleasePipeline.Proofs.Release.Abreast

A release made from two disks side by side. The disks are `Comparable`: they may differ in what the
staging folder holds, and at some loose locations, which are entries of the current folder other
than the two folders that a run works in.

Making the staging folder anew settles all that is in it, and from then on the two disks are
`Abreast`: they differ at loose locations only. Nothing reads a loose file. The two files that a run
publishes may be loose at first; each of them is settled by the step that removes it or writes over
it, and what is loose at the end is what the run has nothing to do with.

For both runs to go the same way, the same folders have to stand on both disks on the road to the
folders that a run works in. No step of a run takes such a folder away, if the way to the current
folder leads neither through the staging folder nor through an executable that is moved
(`Job.RoadClear`).
-/

namespace ReleasePipeline

open Disk Node

/-! ### Locations -/

namespace Job

variable (job : Job) (cwd : Path)

/-- The way to the current folder does not lead through what a run may take away. -/
structure RoadClear : Prop where
  staging : ∀ l ∈ cwd.road, ¬stagingAt cwd <+: l
  built : job.policy.executable = .move → ∀ l ∈ cwd.road, ¬job.builtAt cwd <+: l

/-- An entry of the current folder beside the two folders that a run works in. -/
def Beside (l : Location) : Prop :=
  ∃ name : EntryName, l = cwd.location ++ [name] ∧ name ≠ "archive-root" ∧ name ≠ job.buildFolder

variable {job cwd} {l : Location}

theorem RoadClear.not_built (h : job.RoadClear cwd) (hmove : job.policy.executable = .move)
    (hl : job.StandsOn cwd l) : ¬job.builtAt cwd <+: l := by
  intro hbelow
  rcases hl with hl | rfl | rfl
  · exact h.built hmove l hl hbelow
  · have hlength := hbelow.length_le
    simp [builtAt] at hlength
  · exact not_prefix_of_text_ne job.buildFolder_ne_staging hbelow

theorem not_beside_staging (below : Location) :
    ¬job.Beside cwd (cwd.location ++ .text "archive-root" :: below) := by
  rintro ⟨name, heq, hstaging, -⟩
  exact hstaging (List.cons.inj (List.append_cancel_left heq)).1.symm

theorem not_beside_build (below : Location) :
    ¬job.Beside cwd (cwd.location ++ .text job.buildFolder :: below) := by
  rintro ⟨name, heq, -, hbuild⟩
  exact hbuild (List.cons.inj (List.append_cancel_left heq)).1.symm

theorem MayPublish.beside (h : job.MayPublish cwd l) (other : Job) : other.Beside cwd l := by
  obtain ⟨name, hname, rfl⟩ := h
  exact ⟨name, rfl, EntryName.text_ne (ne_staging_of_mem_publishedNames hname),
    EntryName.text_ne (ne_buildFolder_of_mem_publishedNames hname other)⟩

end Job

/-! ### Two disks -/

/-- Two disks to make a release from. They may differ in the staging folder and at loose locations. -/
structure Comparable (job : Job) (cwd : Path) (loose : Location → Prop) (d e : Node) : Prop where
  legal : d.Legal
  agree : AgreeOff (fun l => Job.stagingAt cwd <+: l ∨ loose l) d e
  beside : ∀ l, loose l → job.Beside cwd l
  road : ∀ l ∈ cwd.road, (d.entryAt? l = some .folder ↔ e.entryAt? l = some .folder)
  published : ∀ l, job.Publishes cwd l →
    (d.entryAt? l = some .folder ↔ e.entryAt? l = some .folder)
  file : (∃ f, d.entryAt? (Job.stagingAt cwd) = some (.file f)) ↔
    ∃ f, e.entryAt? (Job.stagingAt cwd) = some (.file f)

/-- Two runs under way. Their disks differ at loose locations only. -/
structure Abreast (job : Job) (cwd : Path) (loose : Location → Prop) (d e : Node) : Prop where
  legal : d.Legal
  agree : AgreeOff loose d e
  beside : ∀ l, loose l → job.Beside cwd l
  published : ∀ l, job.Publishes cwd l →
    (d.entryAt? l = some .folder ↔ e.entryAt? l = some .folder)
  build : Reaches d (cwd / job.buildFolder)
  stands : ∀ l, job.StandsOn cwd l →
    d.entryAt? l = some .folder ∧ e.entryAt? l = some .folder

variable {job : Job} {cwd : Path} {d e d' e' : Node} {loose loose' touched : Location → Prop}

namespace Comparable

theorem build_eq (h : Comparable job cwd loose d e) :
    d.entryAt? (cwd.location ++ [.text job.buildFolder]) =
      e.entryAt? (cwd.location ++ [.text job.buildFolder]) := by
  refine h.agree _ ?_
  rintro (hbelow | hloose)
  · exact not_prefix_of_text_ne job.buildFolder_ne_staging.symm hbelow
  · exact job.not_beside_build [] (h.beside _ hloose)

theorem isFolder_build (h : Comparable job cwd loose d e) :
    isFolder d (cwd / job.buildFolder) = isFolder e (cwd / job.buildFolder) := by
  refine isFolder_congr fun l hl => ?_
  rw [Path.road_join_name job.isName_buildFolder, List.mem_append, List.mem_singleton] at hl
  rcases hl with hl | rfl
  · exact h.road l hl
  · rw [h.build_eq]

theorem reaches (h : Comparable job cwd loose d e) (hd : Reaches d cwd) : Reaches e cwd :=
  hd.congr fun l hl => (h.road l hl).mp (hd.folders l hl)

/-- The staging folder is made anew on both, so it is empty on both. -/
theorem recreated (h : Comparable job cwd loose d e) (hroad : job.RoadClear cwd)
    (hbuild : Reaches d (cwd / job.buildFolder)) (hd : Recreated (cwd / "archive-root") d d')
    (he : Recreated (cwd / "archive-root") e e') :
    Abreast job cwd loose d' e' ∧ d'.entryAt? (Job.stagedAt cwd) = none := by
  obtain ⟨hmade, hempty, hagree, hlegal, -, -⟩ := hd
  obtain ⟨hmade', hempty', hagree', -, -, -⟩ := he
  rw [Job.location_staging] at hmade hempty hagree hmade' hempty' hagree'
  have hreaches := hbuild.of_join job.isName_buildFolder
  have hapart : ¬Job.stagingAt cwd <+: cwd.location ++ [.text job.buildFolder] :=
    not_prefix_of_text_ne job.buildFolder_ne_staging.symm
  have hstands : ∀ l, job.StandsOn cwd l →
      d'.entryAt? l = some .folder ∧ e'.entryAt? l = some .folder := by
    rintro l (hl | rfl | rfl)
    · rw [hagree l (hroad.staging l hl), hagree' l (hroad.staging l hl)]
      exact ⟨hreaches.folders l hl, (h.road l hl).mp (hreaches.folders l hl)⟩
    · rw [hagree _ hapart, hagree' _ hapart, ← h.build_eq, ← job.location_build]
      exact ⟨hbuild.folder_location, hbuild.folder_location⟩
    · exact ⟨hmade, hmade'⟩
  refine ⟨⟨hlegal h.legal, ?_, h.beside, ?_, hbuild.congr ?_, hstands⟩, ?_⟩
  · intro l hl
    by_cases hbelow : Job.stagingAt cwd <+: l
    · obtain ⟨below, rfl⟩ := hbelow
      cases below with
      | nil => rw [List.append_nil, hmade, hmade']
      | cons name below => rw [hempty, hempty']
    · rw [hagree l hbelow, hagree' l hbelow]
      exact h.agree l fun hl' => hl (hl'.resolve_left hbelow)
  · intro l hl
    rw [hagree l hl.not_staging, hagree' l hl.not_staging]
    exact h.published l hl
  · intro l hl
    rw [Path.road_join_name job.isName_buildFolder, List.mem_append, List.mem_singleton] at hl
    exact (hstands l (hl.imp id .inl)).1
  · rw [Job.stagedAt_eq]
    exact hempty _ _

end Comparable

namespace Abreast

/-- A step settles what it changes. -/
theorem update (h : Abreast job cwd loose d e) (hstep : ChangedAlike job cwd touched d e d' e') :
    Abreast job cwd (fun l => loose l ∧ ¬touched l) d' e' := by
  obtain ⟨hlegal, hd, he, hsame, hstands⟩ := hstep
  have hstands : ∀ l, job.StandsOn cwd l →
      d'.entryAt? l = some .folder ∧ e'.entryAt? l = some .folder := by
    intro l hl
    by_cases htouched : touched l
    · rw [← hsame l htouched]
      exact ⟨hstands l htouched hl, hstands l htouched hl⟩
    · rw [hd l htouched, he l htouched]
      exact h.stands l hl
  refine ⟨hlegal, ?_, fun l hl => h.beside l hl.1, ?_, h.build.congr ?_, hstands⟩
  · intro l hl
    by_cases htouched : touched l
    · exact hsame l htouched
    · rw [hd l htouched, he l htouched]
      exact h.agree l fun hloose => hl ⟨hloose, htouched⟩
  · intro l hl
    by_cases htouched : touched l
    · rw [hsame l htouched]
    · rw [hd l htouched, he l htouched]
      exact h.published l hl
  · intro l hl
    rw [Path.road_join_name job.isName_buildFolder, List.mem_append, List.mem_singleton] at hl
    exact (hstands l (hl.imp id .inl)).1

theorem weaken (h : Abreast job cwd loose d e) (hloose : ∀ l, loose l → loose' l)
    (hbeside : ∀ l, loose' l → job.Beside cwd l) : Abreast job cwd loose' d e :=
  ⟨h.legal, h.agree.weaken hloose, hbeside, h.published, h.build, h.stands⟩

/-- A step that settles nothing new. -/
theorem keep (h : Abreast job cwd loose d e) (hstep : ChangedAlike job cwd touched d e d' e') :
    Abreast job cwd loose d' e' :=
  (h.update hstep).weaken (fun _ hl => hl.1) h.beside

/-! ### What both runs find -/

theorem staging_eq (h : Abreast job cwd loose d e) {l : Location}
    (hl : Job.stagingAt cwd <+: l) : d.entryAt? l = e.entryAt? l := by
  obtain ⟨below, rfl⟩ := hl
  rw [Job.stagingAt, List.append_assoc]
  exact h.agree _ fun hloose => Job.not_beside_staging _ (h.beside _ hloose)

theorem build_eq (h : Abreast job cwd loose d e) (below : Location) :
    d.entryAt? (cwd.location ++ .text job.buildFolder :: below) =
      e.entryAt? (cwd.location ++ .text job.buildFolder :: below) :=
  h.agree _ fun hloose => Job.not_beside_build _ (h.beside _ hloose)

/-- Disks that are abreast can be kept so. -/
theorem tandem (hroad : job.RoadClear cwd) : Tandem job cwd (Abreast job cwd loose) where
  clear _ := hroad.staging
  legal h := h.legal
  build h := h.build
  stands h := h.stands
  staging h _ hl := h.staging_eq hl
  symbols h below := by
    rw [Job.symbolsBuiltAt, List.append_assoc]
    exact h.build_eq _
  keep h hstep _ := h.keep hstep

/-- A place where something is published is loose no more once it is the same on both disks. -/
theorem settles {l : Location} (hl : job.Publishes cwd l) :
    Settles job cwd l (Abreast job cwd loose) (Abreast job cwd fun l' => loose l' ∧ l' ≠ l) where
  room h := h.published l hl
  settle h hstep := h.update hstep
  settled h := h.agree l fun hloose => hloose.2 rfl

end Abreast

/-! ### The steps of the two runs -/

namespace Stage.Matches

variable {w : Workspace}

/-- The executable is staged as it was built. -/
theorem stage (hroad : job.RoadClear cwd) :
    Matches w (InStep fun d e => Abreast job cwd loose d e ∧ d.entryAt? (Job.stagedAt cwd) = none)
      (Pipeline.transfer (cwd / job.buildFolder / "exotracker-qt.exe")
        (cwd / "archive-root" / "exotracker-qt.exe") job.policy.executable :
        Stage (Watched σ) Unit)
      (Pipeline.transfer (cwd / job.buildFolder / "exotracker-qt.exe")
        (cwd / "archive-root" / "exotracker-qt.exe") job.policy.executable :
        Stage (Watched τ) Unit)
      (fun _ _ => InStep (Abreast job cwd loose)) (InStep fun _ _ => True) := by
  have hexe : Path.IsName "exotracker-qt.exe" := by decide
  have htarget : (cwd / "archive-root").location ++ [.text "exotracker-qt.exe"] =
      Job.stagedAt cwd := by
    rw [Job.location_staging, Job.stagedAt_eq]
  have hsource : (cwd / job.buildFolder).location ++ [.text "exotracker-qt.exe"] =
      job.builtAt cwd := by
    rw [← Path.location_join_name hexe, Job.location_built]
  have hstaged : ∀ l, job.StandsOn cwd l → ¬Job.stagedAt cwd <+: l := by
    intro l hl
    rw [Job.stagedAt_eq]
    exact hl.not_inside hroad.staging
  have htandem : Tandem job cwd (Abreast job cwd loose) := Abreast.tandem hroad
  refine .quietly Pipeline.transfer_calls.quiet Pipeline.transfer_calls.quiet ?_
  unfold Pipeline.transfer
  refine .bind .report fun _ _ => ?_
  cases hmode : job.policy.executable with
  | copy =>
      refine .copyFile hexe (fun d m e n h => htandem.reaches_staging h.1) ?_ ?_ ?_
      · intro d m e n h
        have hsame := htandem.sameAt_built h.1 hexe fun below => h.1.build_eq _
        exact ⟨hsame.locate, hsame.here⟩
      · intro d m e n h
        rw [h.1.staging_eq]
        rw [Job.location_staging]
        exact List.prefix_append _ _
      · intro d m e n d' e' f h hno hd he
        have hlegal := hd.legal h.1.legal (htandem.reaches_staging h.1).1.folder_location hexe
        rw [htarget] at hd he
        refine h.1.keep ⟨hlegal, hd.agree, he.agree, ?_, ?_⟩
        · rintro l rfl
          rw [hd.entryAt?, he.entryAt?]
        · rintro l rfl hl
          exact absurd List.prefix_rfl (hstaged _ hl)
  | move =>
      refine .rename hexe hexe ?_ ?_ (fun d m e n h => htandem.reaches_build h.1)
        (fun d m e n h => htandem.reaches_staging h.1) ?_ ?_ ?_
      · rw [htarget, hsource]
        exact not_prefix_of_text_ne job.buildFolder_ne_staging.symm
      · rw [htarget, hsource]
        exact not_prefix_of_text_ne job.buildFolder_ne_staging
      · intro d m e n h
        rw [hsource]
        exact h.1.build_eq _
      · intro d m e n h
        have hsame := h.1.staging_eq (Job.staging_prefix_staged cwd)
        rw [htarget, ← hsame]
        exact ⟨h.2, h.2⟩
      · intro d m e n d' e' h hd he
        rw [htarget, hsource] at hd he
        refine h.1.keep ⟨hd.legal h.1.legal, hd.agree, he.agree, ?_, ?_⟩
        · rintro l (hl | ⟨below, rfl⟩)
          · rw [hd.gone l hl, he.gone l hl]
          · rw [hd.arrived, he.arrived, Job.builtAt, List.append_assoc]
            exact h.1.build_eq _
        · rintro l (hl | hl) hstands
          · exact absurd hl (hroad.not_built hmode hstands)
          · exact absurd hl (hstaged l hstands)

end Stage.Matches

/-! ### The runs -/

namespace Pipeline

open Stage

variable {pipeline : Pipeline σ} {w : Workspace}

/-- A release made from two comparable disks: both runs make the same calls and come to the same
release or to the same failure. If a release is made, both have settled what they published. -/
theorem archive_abreast (hrunner : pipeline.runner.Contained) (hdet : pipeline.runner.Deterministic)
    (hplain : pipeline.job.HasPlainNames) (hcwd : cwd.isAbsolute = true)
    (hkeeps : pipeline.runner.KeepsFolder) (hroad : pipeline.job.RoadClear cwd) (hw : w.cwd = cwd) :
    Matches w (InStep (Comparable pipeline.job cwd loose)) (pipeline.watched.archive .windows)
      (pipeline.watched.archive .windows)
      (fun a b => InStep fun d e => a = b ∧ Abreast pipeline.job cwd (fun l =>
        loose l ∧ ¬pipeline.job.Publishes cwd l) d e)
      (InStep fun _ _ => True) := by
  have hM := SameCalls.comparesStaging cwd
  have htandem : ∀ loose, Tandem pipeline.job cwd (Abreast pipeline.job cwd loose) :=
    fun loose => Abreast.tandem hroad
  rw [archive_eq_publishFirst]
  refine .bind (publishFirst_tandem hrunner hdet hplain hcwd hM (htandem loose) (htandem _) hkeeps
    (Job.ShipsAs.refl pipeline.job) hw (Abreast.settles (.inl rfl))
    (fun d e h => h.isFolder_build) (.recreateFolder (by decide) hroad.staging ?_ ?_ ?_) ?_
    fun w => .stage hroad) fun a b => ?_
  · intro d m e n h
    have hreaches : Reaches d cwd :=
      (Reaches.of_isFolder h.1).of_join pipeline.job.isName_buildFolder
    exact ⟨hreaches, h.2.reaches hreaches⟩
  · intro d m e n h
    exact h.2.file
  · intro d m e n d' e' h hd he
    exact h.2.recreated hroad (.of_isFolder h.1) hd he
  · intro d e h
    obtain ⟨hd, he⟩ := (htandem loose).reaches_cwd h.1
    exact isFolder_join_congr (by decide) hd he (h.1.staging_eq List.prefix_rfl)
  refine .of_fact (fun _ _ _ _ h => h.1.1) fun hvalue => ?_
  obtain ⟨rfl, application, rfl⟩ := hvalue
  refine (publishBeside_tandem hrunner hdet hplain hcwd hM (htandem _) (htandem _) pipeline.job rfl
    (Abreast.settles (.inr rfl))).weaken (fun _ _ _ _ h => ⟨h.1.2, h.2⟩) ?_ fun _ _ _ _ h => h
  rintro release release' d m e n ⟨⟨hsame, habreast⟩, hcalls⟩
  exact ⟨⟨hsame, habreast.weaken (fun l hl => ⟨hl.1.1, fun h => h.elim hl.1.2 hl.2⟩)
    fun l hl => habreast.beside l ⟨⟨hl.1, fun h => hl.2 (.inl h)⟩, fun h => hl.2 (.inr h)⟩⟩, hcalls⟩

end Pipeline

end ReleasePipeline
