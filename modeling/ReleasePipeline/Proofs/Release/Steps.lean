import ReleasePipeline.Proofs.Disk.Operations
import ReleasePipeline.Proofs.Stage.Runs
import ReleasePipeline.Stage.Release

/-!
# ReleasePipeline.Proofs.Release.Steps

The steps of making a release that work on the disk, each as one relation between the disk before
and the disk after it, and one rule that says so of its runs. A relation has what a success
guarantees; every relation also bounds the change by the text of the step's paths, and no step
brings in a name that no path can have.
-/

namespace ReleasePipeline

open Disk Node

/-! ### What the steps do to a disk -/

/-- A folder was made anew. -/
structure Recreated (folder : Path) (d e : Node) : Prop where
  made : e.entryAt? folder.location = some .folder
  empty : ∀ name below, e.entryAt? (folder.location ++ name :: below) = none
  agree : AgreeOff (folder.location <+: ·) e d
  legal : d.Legal → e.Legal
  not_file : ∀ f, d.entryAt? folder.location ≠ some (.file f)
  /-- The way to the folder is there, and does not lead through what was removed. -/
  road : ∀ parent name, Path.IsName name → folder = parent / name →
    Reaches e parent ∧ ∀ l ∈ parent.road, ¬folder.location <+: l

/-- A file is not there any more. -/
structure Removed (p : Path) (d e : Node) : Prop where
  absent : ∀ l, locate e p ≠ .ok l
  sheds : Sheds d e
  agree : AgreeOff (· = p.location) e d
  keeps_folder : d.entryAt? p.location = some .folder → e.entryAt? p.location = some .folder
  gone : ∀ folder name, Path.IsName name → p = folder / name → Reaches d folder →
    e.entryAt? (folder.location ++ [.text name]) = none

/-- Something was brought to another place. -/
structure Transferred (source target : Path) (mode : ExecutableTransfer) (d e : Node) : Prop where
  there : d.entryAt? source.location ≠ none
  arrived : source.location ≠ target.location →
    ∀ below, e.entryAt? (target.location ++ below) = d.entryAt? (source.location ++ below)
  gone : mode = .move → source.location ≠ target.location → e.entryAt? source.location = none
  agree : AgreeOff (fun l => target.location <+: l ∨ mode = .move ∧ source.location <+: l) e d
  legal : d.Legal → e.Legal

/-- Entries were taken away below a folder. A file in its place is left alone. -/
structure Thinned (folder : Path) (d e : Node) : Prop where
  sheds : Sheds d e
  agree : AgreeOff (folder.location <+: ·) e d
  keeps_file : ∀ f, d.entryAt? folder.location = some (.file f) →
    e.entryAt? folder.location = some (.file f)

/-- The plugin for SVG is told by how its name starts, and has to be a text for that. -/
theorem Pipeline.isSvgPlugin_iff {svgStem : String} {name : EntryName} :
    Pipeline.isSvgPlugin svgStem name = true ↔ name.StartsWith svgStem := by
  cases name with
  | text s =>
      rw [EntryName.startsWith_text, ← List.isPrefixOf_iff_prefix]
      exact Iff.rfl
  | raw name => exact iff_of_false nofun (EntryName.not_startsWith_raw svgStem name)

/-- A folder of plugins with only those that are shipped. -/
def Pruned (imageFormats : ImageFormats) (folder : Path) (svgStem : String) (d : Node) : Prop :=
  match imageFormats with
  | .removeAll => isFolder d folder = false
  | .keepSvg => ∀ l, locate d folder = .ok l → ∀ name, d.entryAt? (l ++ [name]) ≠ none →
      name.StartsWith svgStem

/-- What is shipped stays so when more is taken away. -/
theorem Pruned.of_sheds {imageFormats : ImageFormats} {folder : Path} {svgStem : String}
    {d e : Node} (h : Pruned imageFormats folder svgStem d) (hsheds : Sheds d e) :
    Pruned imageFormats folder svgStem e := by
  cases imageFormats with
  | removeAll =>
      refine isFolder_eq_false_iff.mpr ?_
      intro l hl hfolder
      exact isFolder_eq_false_iff.mp h l (locate_of_sheds hsheds hl) (hsheds l _ hfolder)
  | keepSvg =>
      intro l hl name hname
      refine h l (locate_of_sheds hsheds hl) name fun hnone => hname ?_
      exact hsheds.entryAt?_eq_none hnone

theorem Thinned.refl {folder : Path} (d : Node) : Thinned folder d d :=
  ⟨.refl d, .refl d, fun _ => id⟩

theorem Thinned.trans {folder : Path} {c d e : Node} (hcd : Thinned folder c d)
    (hde : Thinned folder d e) : Thinned folder c e :=
  ⟨hcd.sheds.trans hde.sheds, hde.agree.trans hcd.agree,
    fun f hf => hde.keeps_file f (hcd.keeps_file f hf)⟩

/-- Taking away what has a name in the folder. -/
theorem Thinned.of_name {folder : Path} {d e : Node} {name : EntryName} (hsheds : Sheds d e)
    (hagree : AgreeOff (folder.location ++ [name] <+: ·) e d) : Thinned folder d e := by
  refine ⟨hsheds, hagree.weaken fun _ hl => (List.prefix_append _ _).trans hl, ?_⟩
  intro f hf
  rw [hagree _ not_prefix_self]
  exact hf

theorem Thinned.remove (folder : Path) (d : Node) (name : EntryName) :
    Thinned folder d (d.remove (folder.location ++ [name])) :=
  .of_name (.remove d _ name) (.remove d _)

theorem Removed.of_removeFile_ok {p : Path} {d e : Node} (h : removeFile p d = .ok () e) :
    Removed p d e := by
  obtain ⟨⟨f, hfile⟩, hgone, hagree, hsheds, habsent⟩ := removeFile_ok h
  refine ⟨habsent, hsheds, hagree, ?_, ?_⟩
  · intro hfolder
    rw [hfile] at hfolder
    cases hfolder
  · intro folder name hname hp _
    rw [← Path.location_join_name hname, ← hp]
    exact hgone

theorem Removed.of_removeFile_missing {p : Path} {d e : Node} {fault : Fault}
    (h : removeFile p d = .error fault e) (hmissing : fault.saysMissing = true) :
    e = d ∧ Removed p d d := by
  obtain ⟨rfl, habsent⟩ := removeFile_error h
  refine ⟨rfl, habsent hmissing, .refl e, .refl e, id, ?_⟩
  intro folder name hname hp hreaches
  rw [hp] at h
  exact entryAt?_of_removeFile_missing hname hreaches h hmissing

/-- An artifact of the file that is at a path. -/
structure ArtifactOf (p : Path) (d : Node) (artifact : Artifact) : Prop where
  path_eq : artifact.path = p
  file : ∃ f, FileAt d p f ∧ artifact.sha256 = Sha256.digest f.content

/-- A path that leads nowhere cannot be published, and that it cannot be opened is the failure. -/
def FailsToOpen (p : Path) (d : Node) (failure : Failure) : Prop :=
  (∀ l, locate d p ≠ .ok l) → ∃ fault, failure = .diskFailed "open" p fault

namespace Stage.Runs

variable {w : Workspace} {P Q : Assertion σ} {E : Failure → Assertion σ}

theorem existingBuildFolder {pipeline : Pipeline σ}
    (hmissing : ∀ d m, P d m → isFolder d (w.path ⟨pipeline.job.buildFolder⟩) = false →
      E (.buildFolderMissing (w.path ⟨pipeline.job.buildFolder⟩)) d m) :
    Runs w P pipeline.existingBuildFolder
      (fun folder d m => (folder = w.path ⟨pipeline.job.buildFolder⟩ ∧
        isFolder d (w.path ⟨pipeline.job.buildFolder⟩) = true) ∧ P d m) E := by
  unfold Pipeline.existingBuildFolder Pipeline.buildFolder
  refine .bind .path fun folder => .assuming fun hfolder => ?_
  refine .bind .disk fun disk => ?_
  obtain rfl := hfolder.symm
  refine .ite (fun h => .pure ?_) fun h => .throw ?_
  · intro d m hd
    exact ⟨⟨rfl, hd.1 ▸ h⟩, hd.2⟩
  · intro d m hd
    exact hmissing d m hd.2 (hd.1 ▸ Bool.not_eq_true _ ▸ h)

theorem recreateFolder {folder : Path}
    (hok : ∀ d m e, P d m → Recreated folder d e → Q e m)
    (herror : ∀ failure d m e, P d m → Thinned folder d e → E failure e m) :
    Runs w P (Pipeline.recreateFolder folder) (fun _ => Q) E := by
  -- Both ways on lead to making the folder. After a fault that says that it is missing nothing was
  -- removed, so a file in its place would still be there and making the folder would fail.
  have hmake : Runs w (fun e m => ∃ d, P d m ∧ Thinned folder d e ∧
      ∀ f, d.entryAt? folder.location = some (.file f) → e.entryAt? folder.location ≠ none)
      (Stage.attempt "create" folder (makeFolder folder)) (fun _ => Q) E := by
    refine attempt ?_
    intro e m h
    obtain ⟨d, hd, hthinned, hfile⟩ := h
    rcases makeFolder_cases folder e with ⟨above, name, slash, hplace, hnone, hrun⟩ | ⟨fault, hrun⟩
    · rw [hrun]
      obtain ⟨-, -, -, hname, -, habove⟩ := place_ok hplace
      have hlocation := location_of_place hplace
      refine hok d m _ hd ⟨?_, ?_, ?_, ?_, ?_, ?_⟩
      · rw [hlocation]
        exact entryAt?_put_self habove name _
      · intro other below
        rw [hlocation, List.append_assoc]
        exact entryAt?_put_append habove name _ _
      · refine .trans ?_ hthinned.agree
        rw [hlocation]
        exact .put e _ _
      · intro hlegal
        exact (hlegal.of_sheds hthinned.sheds).put habove hname (.of_isLeaf isLeaf_folder_nil)
      · intro f hf
        exact hfile f hf (hlocation ▸ hnone)
      · intro parent last hlast hfolder
        subst hfolder
        have hreaches := Reaches.of_place hlast hplace
        -- Nothing is where the folder is made, so no folder on the way can be there or below.
        have hapart : ∀ l ∈ parent.road, ¬(parent / last).location <+: l := by
          intro l hl hbelow
          have hthere := hreaches.folders l hl
          rw [hlocation] at hbelow
          obtain ⟨below, rfl⟩ := hbelow
          cases below with
          | nil =>
              rw [List.append_nil, hnone] at hthere
              cases hthere
          | cons first rest =>
              rw [entryAt?_below_eq_none first rest (by rw [hnone]; exact nofun)] at hthere
              cases hthere
        refine ⟨hreaches.congr ?_, hapart⟩
        intro l hl
        rw [entryAt?_put _ (by rw [← hlocation]; exact hapart l hl)]
        exact hreaches.folders l hl
    · rw [hrun]
      exact herror _ d m e hd hthinned
  unfold Pipeline.recreateFolder
  refine .bind (M := ofOutcome
      (fun _ e m => ∃ d, P d m ∧ Thinned folder d e ∧ d.entryAt? folder.location = some .folder)
      fun fault e m => ∃ d, P d m ∧ Thinned folder d e ∧ (fault.saysMissing = true → e = d))
    (onDisk ?_) fun ending => ?_
  · intro d m hd
    rcases removeTree_cases folder d with ⟨e, hrun, hagree, hsheds, hfolder, -⟩ |
      ⟨fault, e, hrun, hagree, hsheds, hsame, hfile⟩
    · rw [hrun]
      exact ⟨d, hd, ⟨hsheds, hagree, fun f hf => absurd (hfolder.symm.trans hf) nofun⟩, hfolder⟩
    · rw [hrun]
      exact ⟨d, hd, ⟨hsheds, hagree, fun f hf => hfile f hf ▸ hf⟩, hsame⟩
  · cases ending with
    | ok u =>
        refine .bind .report fun _ => hmake.weaken ?_ (fun _ _ _ h => h)
          fun _ _ _ h => h
        intro e m h
        obtain ⟨d, hd, hthinned, hfolder⟩ := h
        exact ⟨d, hd, hthinned, fun f hf => absurd (hfolder.symm.trans hf) nofun⟩
    | error fault =>
        dsimp only
        refine .ite ?_ fun _ => .throw_bind ?_
        · intro hmissing
          refine hmake.weaken ?_ (fun _ _ _ h => h) fun _ _ _ h => h
          intro e m h
          obtain ⟨d, hd, hthinned, hsame⟩ := h
          obtain rfl := hsame hmissing
          exact ⟨e, hd, hthinned, fun f hf => by rw [hf]; exact nofun⟩
        · intro e m h
          obtain ⟨d, hd, hthinned, -⟩ := h
          exact herror _ d m e hd hthinned

theorem removeIfPresent {p : Path} (hok : ∀ d m e, P d m → Removed p d e → Q e m)
    (herror : ∀ failure d m, P d m → E failure d m) :
    Runs w P (Pipeline.removeIfPresent p) (fun _ => Q) E := by
  unfold Pipeline.removeIfPresent
  refine .bind (M := ofOutcome (fun _ => Q)
      fun fault e m => P e m ∧ (fault.saysMissing = true → Removed p e e))
    (onDisk ?_) fun ending => ?_
  · intro d m hd
    cases hrun : removeFile p d with
    | ok u e => exact hok d m e hd (.of_removeFile_ok hrun)
    | error fault e =>
        obtain ⟨rfl, -⟩ := removeFile_error hrun
        exact ⟨hd, fun hmissing => (Removed.of_removeFile_missing hrun hmissing).2⟩
  · cases ending with
    | ok u => exact .pure fun _ _ h => h
    | error fault =>
        refine .ite (fun hmissing => .pure ?_) fun _ => .throw ?_
        · intro d m h
          exact hok d m d h.1 (h.2 hmissing)
        · intro d m h
          exact herror _ d m h.1

theorem transfer {source target : Path} {mode : ExecutableTransfer}
    (hok : ∀ d m e, P d m → Transferred source target mode d e → Q e m)
    (herror : ∀ failure d m, P d m → E failure d m) :
    Runs w P (Pipeline.transfer source target mode) (fun _ => Q) E := by
  unfold Pipeline.transfer
  refine .bind .report fun _ => ?_
  cases mode with
  | copy =>
      refine .attempt ?_
      intro d m hd
      rcases copyFile_cases source target d with
        ⟨origin, f, folder, name, e, hlocate, hfile, hplace, hgoal, hrun, hwrote⟩ | ⟨fault, hrun⟩
      · rw [hrun]
        obtain ⟨-, -, -, hname, -, hfolder⟩ := place_ok hplace
        have horigin := location_of_locate hlocate
        have hlocation := location_of_place hplace
        rw [← hlocation, horigin] at hwrote
        rw [horigin] at hfile
        refine hok d m e hd ⟨by rw [hfile]; exact nofun, ?_, nofun, ?_, ?_⟩
        · intro hne below
          have hthere := hwrote.entryAt?
          rw [if_neg hne] at hthere
          cases below with
          | nil => rw [List.append_nil, List.append_nil, hthere, hfile]
          | cons first rest =>
              rw [entryAt?_below_eq_none first rest (by rw [hthere]; exact nofun),
                entryAt?_below_eq_none first rest (by rw [hfile]; exact nofun)]
        · exact hwrote.agree.weaken fun l hl => .inl (hl ▸ List.prefix_rfl)
        · intro hlegal
          rw [hlocation] at hwrote
          exact hwrote.legal hlegal hfolder hname
      · rw [hrun]
        exact herror _ d m hd
  | move =>
      refine .attempt ?_
      intro d m hd
      rcases rename_cases source target d with
        ⟨above, oldName, oldSlash, folder, newName, newSlash, e, hsource, htarget, hthere, hrun,
          hmoved⟩ | ⟨fault, hrun⟩
      · rw [hrun]
        obtain ⟨-, -, -, hname, -, hfolder⟩ := place_ok htarget
        have hold := location_of_place hsource
        have hnew := location_of_place htarget
        rw [← hold] at hthere
        rw [← hold, ← hnew] at hmoved
        refine hok d m e hd ⟨hthere, ?_, ?_, ?_, ?_⟩
        · intro hne below
          rcases hmoved with ⟨hsame, -⟩ | hmoved
          · exact absurd hsame hne
          · exact hmoved.arrived below
        · intro _ hne
          rcases hmoved with ⟨hsame, -⟩ | hmoved
          · exact absurd hsame hne
          · exact hmoved.gone _ List.prefix_rfl
        · rcases hmoved with ⟨-, rfl⟩ | hmoved
          · exact .refl e
          · exact hmoved.agree.weaken fun l hl => hl.symm.imp id fun h => ⟨rfl, h⟩
        · intro hlegal
          rcases hmoved with ⟨-, rfl⟩ | hmoved
          · exact hlegal
          · exact hmoved.legal hlegal
      · rw [hrun]
        exact herror _ d m hd

/-- Pruning goes through the names one by one, so what is shed so far is a step of its own. -/
theorem prunePlugins {folder : Path} {svgStem : String} {names : List EntryName}
    (hnames : ∀ name ∈ names, name.IsLegal)
    (hok : ∀ d m e, P d m → Thinned folder d e →
      (∀ name ∈ names, name.StartsWith svgStem ∨
        e.entryAt? (folder.location ++ [name]) = none) → Q e m)
    (herror : ∀ failure d m e, P d m → Thinned folder d e → E failure e m) :
    Runs w P (Pipeline.prunePlugins folder svgStem names) (fun _ => Q) E := by
  induction names generalizing P with
  | nil => exact .pure fun d m hd => hok d m d hd (.refl d) nofun
  | cons name rest ih =>
      have hname := hnames name (List.mem_cons_self ..)
      have hrest : ∀ other ∈ rest, other.IsLegal :=
        fun other h => hnames other (List.mem_cons_of_mem _ h)
      rw [Pipeline.prunePlugins]
      refine .ite (fun _ => .bind .report fun _ => ?_) ?_
      · refine .bind (M := fun _ e m => ∃ d, P d m ∧ Thinned folder d e ∧
          e.entryAt? (folder.location ++ [name]) = none) (.attempt ?_) fun _ => ?_
        · intro d m hd
          rcases removeListed_cases hname d with ⟨f, -, hrun⟩ | ⟨fault, hrun⟩
          · rw [hrun]
            exact ⟨d, hd, .remove folder d name, entryAt?_remove_append d _ name []⟩
          · rw [hrun]
            exact herror _ d m d hd (.refl d)
        · refine ih hrest ?_ ?_
          · intro e m f h hthinned hdone
            obtain ⟨d, hd, hbefore, hgone⟩ := h
            refine hok d m f hd (hbefore.trans hthinned) ?_
            intro other hmem
            rcases List.mem_cons.mp hmem with rfl | hmem
            · exact .inr (hthinned.sheds.entryAt?_eq_none hgone)
            · exact hdone other hmem
          · intro failure e m f h hthinned
            obtain ⟨d, hd, hbefore, -⟩ := h
            exact herror failure d m f hd (hbefore.trans hthinned)
      · intro hsvg
        refine ih hrest ?_ herror
        intro d m e hd hthinned hdone
        refine hok d m e hd hthinned ?_
        intro other hmem
        rcases List.mem_cons.mp hmem with rfl | hmem
        · rw [Bool.not_eq_true', Bool.not_eq_false, Pipeline.isSvgPlugin_iff] at hsvg
          exact .inl hsvg
        · exact hdone other hmem

theorem pruneImageFormats {listing : ListingOrder} {folder : Path} {svgStem : String}
    {imageFormats : ImageFormats} (hlegal : ∀ d m, P d m → d.Legal)
    (hok : ∀ d m e, P d m → Thinned folder d e → Pruned imageFormats folder svgStem e → Q e m)
    (herror : ∀ failure d m e, P d m → Thinned folder d e → E failure e m) :
    Runs w P (Pipeline.pruneImageFormats listing folder svgStem imageFormats) (fun _ => Q) E := by
  unfold Pipeline.pruneImageFormats
  refine .bind .disk fun disk => ?_
  refine .ite (fun _ => ?_) ?_
  · cases imageFormats with
    | removeAll =>
        refine .attempt ?_
        intro d m hd
        rcases removeTree_cases folder d with ⟨e, hrun, hagree, hsheds, hfolder, habsent⟩ |
          ⟨fault, e, hrun, hagree, hsheds, -, hfile⟩
        · rw [hrun]
          have hgone : isFolder e folder = false :=
            isFolder_eq_false_iff.mpr fun l hl => absurd hl (habsent l)
          exact hok d m e hd.2
            ⟨hsheds, hagree, fun f hf => absurd (hfolder.symm.trans hf) nofun⟩ hgone
        · rw [hrun]
          exact herror _ d m e hd.2 ⟨hsheds, hagree, fun f hf => hfile f hf ▸ hf⟩
    | keepSvg =>
        refine .bind (M := fun names d m => P d m ∧ locate d folder = .ok folder.location ∧
          ∀ name, name ∈ names ↔ d.entryAt? (folder.location ++ [name]) ≠ none)
          (.attempt ?_) fun names => ?_
        · intro d m hd
          rcases list_cases listing folder d with ⟨l, names, hlocate, -, hrun, hnames⟩ |
            ⟨fault, hrun⟩
          · rw [hrun]
            obtain rfl := location_of_locate hlocate
            exact ⟨hd.2, hlocate, hnames⟩
          · rw [hrun]
            exact herror _ d m d hd.2 (.refl d)
        · -- A listed name is joined to the folder as text, so it has to be a name to lead there.
          refine .of_fact (φ := ∀ name ∈ names, name.IsLegal) ?_
            fun hnames => ?_
          · intro d m h name hname
            exact hlegal d m h.1 _ ((h.2.2 name).mp hname) name (by simp)
          · refine prunePlugins hnames ?_
              fun failure d m e h hthinned => herror failure d m e h.1 hthinned
            intro d m e h hthinned hdone
            refine hok d m e h.1 hthinned ?_
            intro l hl name hthere
            rw [location_of_locate hl] at hthere
            have hlisted : name ∈ names := by
              refine (h.2.2 name).mpr fun hnone => hthere ?_
              exact hthinned.sheds.entryAt?_eq_none hnone
            exact (hdone name hlisted).resolve_right hthere
  · intro hno
    refine .weaken .report (fun _ _ h => h) ?_ fun _ _ _ h => h
    intro _ d m h
    obtain ⟨rfl, hd⟩ := h
    refine hok _ m _ hd (.refl _) ?_
    have hno := Bool.not_eq_true _ ▸ hno
    cases imageFormats with
    | removeAll => exact hno
    | keepSvg =>
        intro l hl name hname
        exact absurd (entryAt?_of_below hname) (isFolder_eq_false_iff.mp hno l hl)

theorem artifact {p : Path} {Q : Artifact → Assertion σ}
    (hok : ∀ a d m, P d m → ArtifactOf p d a → Q a d m)
    (herror : ∀ failure d m, P d m → FailsToOpen p d failure → E failure d m) :
    Runs w P (Pipeline.artifact p) Q E := by
  unfold Pipeline.artifact
  refine .bind (M := fun l d m => P d m ∧ locate d p = .ok l) (.attempt ?_) fun l => ?_
  · intro d m hd
    rw [openForReading_eq]
    cases hlocate : locate d p with
    | ok l => exact ⟨hd, hlocate⟩
    | error fault => exact herror _ d m hd fun _ => ⟨fault, rfl⟩
  refine .bind (M := fun content d m => P d m ∧ ∃ f, FileAt d p f ∧ f.content = content)
    (.attempt ?_) fun content => .pure ?_
  · intro d m h
    obtain ⟨hd, hlocate⟩ := h
    obtain rfl := location_of_locate hlocate
    have herror := fun failure => herror failure d m hd fun hno => absurd hlocate (hno _)
    rw [readAt_eq]
    cases hentry : d.entryAt? p.location with
    | none => exact herror _
    | some entry =>
        cases entry with
        | file f => exact ⟨hd, f, ⟨hlocate, hentry⟩, rfl⟩
        | folder => exact herror _
  · intro d m h
    obtain ⟨hd, f, hfile, rfl⟩ := h
    exact hok _ d m hd ⟨rfl, f, hfile, rfl⟩

end Stage.Runs

end ReleasePipeline
