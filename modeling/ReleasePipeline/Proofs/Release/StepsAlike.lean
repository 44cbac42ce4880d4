import ReleasePipeline.Proofs.Disk.Placement
import ReleasePipeline.Proofs.Release.Steps
import ReleasePipeline.Proofs.Release.Tools

/-!
# ReleasePipeline.Proofs.Release.StepsAlike

The steps of making a release on two disks at once. Each rule says what the two disks have to have
in common for the step to end alike on both: the same entry where it looks, or just a folder on both
or on neither where it clears the way for something new. The two steps that clear the way, making a
folder anew and removing a file that need not be there, do not depend on what stands there, so for
them it is shown when they succeed on their own.
-/

namespace ReleasePipeline

open Disk Node

namespace Stage

variable {w : Workspace} {folder : Path} {name : String} {d₀ : Node} {m₀ : σ}

namespace Runs

variable {P : Assertion σ} {Q Q' : α → Assertion σ} {E E' : Failure → Assertion σ}

/-- What is known of a run from two sides. -/
theorem and {x : Stage σ α} (h : Runs w P x Q E) (h' : Runs w P x Q' E') :
    Runs w P x (fun a d m => Q a d m ∧ Q' a d m) fun failure d m =>
      E failure d m ∧ E' failure d m := by
  constructor
  intro s hw hs
  have h := h.ending s hw hs
  have h' := h'.ending s hw hs
  cases hrun : x s with
  | ok a t =>
      rw [hrun] at h h'
      exact ⟨h.1, h.2, h'.2⟩
  | error failure t =>
      rw [hrun] at h h'
      exact ⟨h.1, h.2, h'.2⟩

/-! ### Making a folder anew -/

/-- Once the way is cleared, all that is left is to make the folder. -/
theorem recreateFolder_of_cleared {p : Path} {e₀ : Node} {Q : Unit → Assertion σ}
    (hcleared : removeTree p d₀ = .ok () e₀ ∨
      ∃ fault, removeTree p d₀ = .error fault e₀ ∧ fault.saysMissing = true)
    (hmake : Runs w (fun d m => d = e₀ ∧ m = m₀) (Stage.attempt "create" p (makeFolder p)) Q E) :
    Runs w (fun d m => d = d₀ ∧ m = m₀) (Pipeline.recreateFolder p) Q E := by
  unfold Pipeline.recreateFolder
  refine .bind (M := fun ending e m => (∀ fault, ending = .error fault → fault.saysMissing = true) ∧
    e = e₀ ∧ m = m₀) (.onDisk ?_) fun ending => .assuming fun hending => ?_
  · intro d m h
    obtain ⟨rfl, rfl⟩ := h
    rcases hcleared with hrun | ⟨fault, hrun, hmissing⟩
    · rw [hrun]
      exact ⟨nofun, rfl, rfl⟩
    · rw [hrun]
      exact ⟨fun _ h => Except.error.inj h ▸ hmissing, rfl, rfl⟩
  · cases ending with
    | ok u => exact .bind .report fun _ => hmake
    | error fault =>
        dsimp only
        rw [if_pos (hending fault rfl)]
        exact hmake

/-- The folder is made where nothing is in the way, and is empty. -/
theorem recreateFolder_makes {p : Path} {parent : Location} (h : HasPlace d₀ p parent name)
    (hshort : isTooLongPath p = false)
    (hfree : d₀.entryAt? p.location = none ∨
      d₀.entryAt? p.location = some .folder ∧ ¬p.CrossesItself) :
    Runs w (fun d m => d = d₀ ∧ m = m₀) (Pipeline.recreateFolder p)
      (fun _ e _ => isFolder e p = true ∧
        ∀ other below, e.entryAt? (p.location ++ other :: below) = none) fun _ _ _ => False := by
  -- Whether it was there or not, the folder is absent when it is made.
  have hcleared : ∃ e, (removeTree p d₀ = .ok () e ∨
        ∃ fault, removeTree p d₀ = .error fault e ∧ fault.saysMissing = true) ∧
      HasPlace e p parent name ∧ e.entryAt? p.location = none := by
    rcases hfree with hnone | ⟨hfolder, hcross⟩
    · exact ⟨d₀, .inr ⟨_, h.removeTree_absent hshort hnone, rfl⟩, h, hnone⟩
    · obtain ⟨e, hrun, hcleared⟩ := h.removeTree_folder hshort hfolder
      exact ⟨e, .inl hrun, h.of_agree hcross hcleared.agree, hcleared.gone hcross⟩
  obtain ⟨e, hremoved, he, hnone⟩ := hcleared
  have hcross : ¬p.CrossesItself := by
    intro hcross
    rw [he.entryAt?_of_crossesItself hcross] at hnone
    cases hnone
  refine recreateFolder_of_cleared hremoved (.attempt ?_)
  intro d m hd
  obtain ⟨rfl, -⟩ := hd
  rw [he.makeFolder_ok hshort hnone]
  have hmade := he.of_agree hcross (.put d p.location (.folder []))
  refine ⟨(hmade.isFolder_iff hshort).mpr ?_, fun other below => ?_⟩
  · rw [he.location_eq, entryAt?_put_self he.folder]
    rfl
  · rw [he.location_eq, List.append_assoc, List.singleton_append, entryAt?_put_append he.folder]
    rfl

/-- Where the way is clear a folder is made anew. -/
theorem recreateFolder_ok (hname : Path.IsName name) (hreaches : Reaches d₀ folder)
    (hroad : ∀ l ∈ folder.road, ¬folder.location ++ [.text name] <+: l)
    (haccept : accept (folder / name) = .ok ()) (hlong : isTooLong name = false)
    (hfile : ∀ f, d₀.entryAt? (folder.location ++ [.text name]) ≠ some (.file f)) :
    Runs w (fun d m => d = d₀ ∧ m = m₀) (Pipeline.recreateFolder (folder / name))
      (fun _ d m => Recreated (folder / name) d₀ d ∧ m = m₀) fun _ _ _ => False := by
  obtain ⟨hnul, -, hshort⟩ := accept_ok haccept
  have hplace := HasPlace.of_reaches hname hlong hnul hreaches
  have hcross : ¬(folder / name).CrossesItself := by
    intro hcross
    obtain ⟨l, hl, hbelow⟩ := (Path.crossesItself_join hname).mp hcross
    exact hroad l hl hbelow
  have hfree : d₀.entryAt? (folder / name).location = none ∨
      d₀.entryAt? (folder / name).location = some .folder ∧ ¬(folder / name).CrossesItself := by
    rw [Path.location_join_name hname]
    cases hentry : d₀.entryAt? (folder.location ++ [.text name]) with
    | none => exact .inl rfl
    | some entry =>
        cases entry with
        | folder => exact .inr ⟨rfl, hcross⟩
        | file f => exact absurd hentry (hfile f)
  refine (and (recreateFolder (Q := fun d m => Recreated (folder / name) d₀ d ∧ m = m₀)
    (E := fun _ _ _ => True) ?_ fun _ _ _ _ _ _ => trivial)
      (recreateFolder_makes hplace hshort hfree)).weaken (fun _ _ h => h) (fun _ _ _ h => h.1)
        fun _ _ _ h => h.2
  intro d m e h hrecreated
  obtain ⟨rfl, rfl⟩ := h
  exact ⟨hrecreated, rfl⟩

/-- What cannot be removed, and is not just missing, is the failure, and nothing has changed. -/
theorem recreateFolder_error {p : Path} {fault : Fault} (hrun : removeTree p d₀ = .error fault d₀)
    (hmissing : fault.saysMissing = false) :
    Runs w (fun d m => d = d₀ ∧ m = m₀) (Pipeline.recreateFolder p) (fun _ _ _ => False)
      fun cause d m => cause = .diskFailed "remove" p fault ∧ d = d₀ ∧ m = m₀ := by
  unfold Pipeline.recreateFolder
  refine .bind (M := fun ending d m => ending = .error fault ∧ d = d₀ ∧ m = m₀) (.onDisk ?_)
    fun ending => .assuming fun hending => ?_
  · intro d m h
    obtain ⟨rfl, rfl⟩ := h
    rw [hrun]
    exact ⟨rfl, rfl, rfl⟩
  · subst hending
    dsimp only
    rw [if_neg (by simp [hmissing])]
    exact .throw_bind fun _ _ h => ⟨rfl, h⟩

/-! ### Removing a file that need not be there -/

/-- Where there is no folder, no file is left. -/
theorem removeIfPresent_ok (hname : Path.IsName name) (hreaches : Reaches d₀ folder)
    (haccept : accept (folder / name) = .ok ()) (hlong : isTooLong name = false)
    (hfolder : d₀.entryAt? (folder.location ++ [.text name]) ≠ some .folder) :
    Runs w (fun d m => d = d₀ ∧ m = m₀) (Pipeline.removeIfPresent (folder / name))
      (fun _ d m => Removed (folder / name) d₀ d ∧ m = m₀) fun _ _ _ => False := by
  have hsucceeds : Runs w (fun d m => d = d₀ ∧ m = m₀)
      (Pipeline.removeIfPresent (folder / name)) (fun _ _ _ => True) fun _ _ _ => False := by
    unfold Pipeline.removeIfPresent
    refine .bind (M := fun ending _ _ => ∀ fault, ending = .error fault → fault.saysMissing = true)
      (.onDisk ?_) fun ending => ?_
    · intro d m h
      obtain ⟨rfl, -⟩ := h
      rw [removeFile_join hname hreaches, haccept]
      dsimp only
      rw [hlong]
      cases hentry : d.entryAt? (folder.location ++ [.text name]) with
      | none =>
          intro fault h
          cases h
          rfl
      | some entry =>
          cases entry with
          | file f => exact nofun
          | folder => exact absurd hentry hfolder
    · cases ending with
      | ok u => exact .pure fun _ _ _ => trivial
      | error fault =>
          refine .of_fact (fun _ _ h => h fault rfl) fun hmissing => ?_
          dsimp only
          rw [if_pos hmissing]
          exact .pure fun _ _ _ => trivial
  refine (and (removeIfPresent (Q := fun d m => Removed (folder / name) d₀ d ∧ m = m₀)
    (E := fun _ _ _ => True) ?_ fun _ _ _ _ => trivial)
      hsucceeds).weaken (fun _ _ h => h) (fun _ _ _ h => h.1) fun _ _ _ h => h.2
  intro d m e h hremoved
  obtain ⟨rfl, rfl⟩ := h
  exact ⟨hremoved, rfl⟩

theorem removeIfPresent_error {fault : Fault} (hrun : removeFile (folder / name) d₀ = .error fault d₀)
    (hmissing : fault.saysMissing = false) :
    Runs w (fun d m => d = d₀ ∧ m = m₀) (Pipeline.removeIfPresent (folder / name))
      (fun _ _ _ => False)
      fun cause _ _ => cause = .diskFailed "remove" (folder / name) fault ∧ True := by
  unfold Pipeline.removeIfPresent
  refine .bind (M := fun ending _ _ => ending = .error fault) (.onDisk ?_)
    fun ending => .of_fact (fun _ _ h => h) fun h => ?_
  · intro d m h
    obtain ⟨rfl, -⟩ := h
    rw [hrun]
  · subst h
    dsimp only
    rw [if_neg (by simp [hmissing])]
    exact .throw fun _ _ _ => ⟨rfl, trivial⟩

end Runs

namespace Matches

variable {P : Likeness σ τ}

/-- Conditions that the two disks settle alike. -/
theorem ite_congr {c c' : Prop} [Decidable c] [Decidable c'] {x x' : Stage σ α} {y y' : Stage τ β}
    {Q : α → β → Likeness σ τ} {E : Likeness σ τ} (h : c ↔ c') (hpos : c → Matches w P x y Q E)
    (hneg : ¬c → Matches w P x' y' Q E) :
    Matches w P (if c then x else x') (if c' then y else y') Q E := by
  by_cases hc : c
  · rw [if_pos hc, if_pos (h.mp hc)]
    exact hpos hc
  · rw [if_neg hc, if_neg fun hc' => hc (h.mpr hc')]
    exact hneg hc

theorem existingBuildFolder {pipeline : Pipeline σ} {P : Likeness σ σ}
    (hsame : ∀ d m e n, P d m e n → isFolder d (w.path ⟨pipeline.job.buildFolder⟩) =
      isFolder e (w.path ⟨pipeline.job.buildFolder⟩)) :
    Matches w P pipeline.existingBuildFolder pipeline.existingBuildFolder
      (fun a b d m e n => ((a = w.path ⟨pipeline.job.buildFolder⟩ ∧
        b = w.path ⟨pipeline.job.buildFolder⟩) ∧
          isFolder d (w.path ⟨pipeline.job.buildFolder⟩) = true) ∧ P d m e n)
      fun _ _ _ _ => True := by
  unfold Pipeline.existingBuildFolder Pipeline.buildFolder
  refine .bind .path fun a b => .assuming fun hpaths => ?_
  obtain ⟨rfl, rfl⟩ := hpaths.imp Eq.symm Eq.symm
  refine .bind .disk fun c c' => ?_
  refine .of_fact ?_ fun hcond => .ite_congr hcond (fun hc => .pure ?_)
    fun _ => .throw fun _ _ _ _ _ => trivial
  · intro d m e n h
    obtain ⟨⟨rfl, rfl⟩, hP⟩ := h
    rw [hsame _ _ _ _ hP]
  · rintro d m e n ⟨⟨rfl, rfl⟩, hP⟩
    exact ⟨⟨⟨rfl, rfl⟩, hc⟩, hP⟩

/-- A folder is made anew on both, whatever is there, unless a file is there on both. -/
theorem recreateFolder {Q : Likeness σ τ} (hname : Path.IsName name)
    (hroad : ∀ l ∈ folder.road, ¬folder.location ++ [.text name] <+: l)
    (hreaches : ∀ d m e n, P d m e n → Reaches d folder ∧ Reaches e folder)
    (hfile : ∀ d m e n, P d m e n →
      ((∃ f, d.entryAt? (folder.location ++ [.text name]) = some (.file f)) ↔
      ∃ f, e.entryAt? (folder.location ++ [.text name]) = some (.file f)))
    (hok : ∀ d m e n d' e', P d m e n → Recreated (folder / name) d d' →
      Recreated (folder / name) e e' → Q d' m e' n) :
    Matches w P (Pipeline.recreateFolder (folder / name)) (Pipeline.recreateFolder (folder / name))
      (fun _ _ => Q) fun _ _ _ _ => True := by
  refine .fix ?_
  intro d m e n hP
  obtain ⟨hd, he⟩ := hreaches _ _ _ _ hP
  have hfile := hfile _ _ _ _ hP
  have hrefused : ∀ fault, removeTree (folder / name) d = .error fault d →
      removeTree (folder / name) e = .error fault e → fault.saysMissing = false →
      Matches w (fun d' m' e' n' => (d' = d ∧ m' = m) ∧ e' = e ∧ n' = n)
        (Pipeline.recreateFolder (folder / name) : Stage σ Unit)
        (Pipeline.recreateFolder (folder / name) : Stage τ Unit) (fun _ _ => Q)
        fun _ _ _ _ => True := fun fault hrund hrune hmissing =>
    (of_error (Runs.recreateFolder_error hrund hmissing)
      (Runs.recreateFolder_error hrune hmissing)).weaken (fun _ _ _ _ h => h)
      (fun _ _ _ _ _ _ h => h) fun _ _ _ _ _ => trivial
  cases haccept : accept (folder / name) with
  | error fault =>
      -- The text of the path decides whether it is refused, and the text is the same on both sides.
      refine hrefused fault ?_ ?_ (accept_join_error hname haccept)
      · rw [removeTree_join hname hd hroad, haccept]
      · rw [removeTree_join hname he hroad, haccept]
  | ok u =>
      cases hlong : isTooLong name with
      | true =>
          refine hrefused .nameTooLong ?_ ?_ rfl
          · rw [removeTree_join hname hd hroad, haccept, hlong]
            rfl
          · rw [removeTree_join hname he hroad, haccept, hlong]
            rfl
      | false =>
          by_cases hthere : ∃ f, d.entryAt? (folder.location ++ [.text name]) = some (.file f)
          · obtain ⟨f', he'⟩ := hfile.mp hthere
            obtain ⟨f, hd'⟩ := hthere
            refine hrefused .notFolder ?_ ?_ rfl
            · rw [removeTree_join hname hd hroad, haccept, hlong, hd']
              rfl
            · rw [removeTree_join hname he hroad, haccept, hlong, he']
              rfl
          · refine (of_ok (Runs.recreateFolder_ok hname hd hroad haccept hlong
                fun f h => hthere ⟨f, h⟩)
              (Runs.recreateFolder_ok hname he hroad haccept hlong
                fun f h => hthere (hfile.mpr ⟨f, h⟩))).weaken
              (fun _ _ _ _ h => h) ?_ fun _ _ _ _ h => h
            intro _ _ d' m' e' n' h
            obtain ⟨⟨hd', rfl⟩, he', rfl⟩ := h
            exact hok _ _ _ _ d' e' hP hd' he'

/-- A file that need not be there is removed on both, also if only one of them has it. -/
theorem removeIfPresent {Q : Likeness σ τ} (hname : Path.IsName name)
    (hreaches : ∀ d m e n, P d m e n → Reaches d folder ∧ Reaches e folder)
    (hfolder : ∀ d m e n, P d m e n → (d.entryAt? (folder.location ++ [.text name]) = some .folder ↔
      e.entryAt? (folder.location ++ [.text name]) = some .folder))
    (hok : ∀ d m e n d' e', P d m e n → Removed (folder / name) d d' →
      Removed (folder / name) e e' → Q d' m e' n) :
    Matches w P (Pipeline.removeIfPresent (folder / name)) (Pipeline.removeIfPresent (folder / name))
      (fun _ _ => Q) fun _ _ _ _ => True := by
  refine .fix ?_
  intro d m e n hP
  obtain ⟨hd, he⟩ := hreaches _ _ _ _ hP
  have hfolder := hfolder _ _ _ _ hP
  have hrefused : ∀ fault, removeFile (folder / name) d = .error fault d →
      removeFile (folder / name) e = .error fault e → fault.saysMissing = false →
      Matches w (fun d' m' e' n' => (d' = d ∧ m' = m) ∧ e' = e ∧ n' = n)
        (Pipeline.removeIfPresent (folder / name) : Stage σ Unit)
        (Pipeline.removeIfPresent (folder / name) : Stage τ Unit) (fun _ _ => Q)
        fun _ _ _ _ => True := fun fault hrund hrune hmissing =>
    (of_error (Runs.removeIfPresent_error hrund hmissing)
      (Runs.removeIfPresent_error hrune hmissing)).weaken (fun _ _ _ _ h => h)
      (fun _ _ _ _ _ _ h => h) fun _ _ _ _ _ => trivial
  cases haccept : accept (folder / name) with
  | error fault =>
      refine hrefused fault ?_ ?_ (accept_join_error hname haccept)
      · rw [removeFile_join hname hd, haccept]
      · rw [removeFile_join hname he, haccept]
  | ok u =>
      cases hlong : isTooLong name with
      | true =>
          refine hrefused .nameTooLong ?_ ?_ rfl
          · rw [removeFile_join hname hd, haccept, hlong]
            rfl
          · rw [removeFile_join hname he, haccept, hlong]
            rfl
      | false =>
          -- Only a folder is in the way, and the two disks have the same folders.
          by_cases hno : d.entryAt? (folder.location ++ [.text name]) = some .folder
          · refine hrefused .isFolder ?_ ?_ rfl
            · rw [removeFile_join hname hd, haccept, hlong, hno]
              rfl
            · rw [removeFile_join hname he, haccept, hlong, hfolder.mp hno]
              rfl
          · refine (of_ok (Runs.removeIfPresent_ok hname hd haccept hlong hno)
              (Runs.removeIfPresent_ok hname he haccept hlong fun h => hno (hfolder.mpr h))).weaken
              (fun _ _ _ _ h => h) ?_ fun _ _ _ _ h => h
            intro _ _ d' m' e' n' h
            obtain ⟨⟨hd', rfl⟩, he', rfl⟩ := h
            exact hok d m' e n' d' e' hP hd' he'

/-- The same file is copied to a place where both disks or neither have a folder. -/
theorem copyFile {action : String} {source : Path} {Q : Likeness σ τ} (hname : Path.IsName name)
    (hreaches : ∀ d m e n, P d m e n → Reaches d folder ∧ Reaches e folder)
    (hsource : ∀ d m e n, P d m e n → locate d source = locate e source ∧
      d.entryAt? source.location = e.entryAt? source.location)
    (hfolder : ∀ d m e n, P d m e n → (d.entryAt? (folder.location ++ [.text name]) = some .folder ↔
      e.entryAt? (folder.location ++ [.text name]) = some .folder))
    (hok : ∀ d m e n d' e' f, P d m e n →
      d.entryAt? (folder.location ++ [.text name]) ≠ some .folder →
      Wrote d (folder.location ++ [.text name]) f d' →
      Wrote e (folder.location ++ [.text name]) f e' →
        Q d' m e' n) :
    Matches w P (Stage.attempt action source (Disk.copyFile source (folder / name)))
      (Stage.attempt action source (Disk.copyFile source (folder / name)))
      (fun _ _ => Q) fun _ _ _ _ => True := by
  refine .attempt ?_
  intro d m e n hP
  obtain ⟨hd, he⟩ := hreaches _ _ _ _ hP
  obtain ⟨hlocate, hentry⟩ := hsource _ _ _ _ hP
  have hcopy := copyFile_alike hname hd he hlocate hentry (hfolder _ _ _ _ hP)
  generalize Disk.copyFile source (folder / name) d = r at hcopy ⊢
  generalize Disk.copyFile source (folder / name) e = r' at hcopy ⊢
  cases hcopy with
  | ok h =>
      obtain ⟨hno, f, hd', he'⟩ := h
      exact .ok (hok _ _ _ _ _ _ f hP hno hd' he')
  | error h => exact .error trivial

/-- The same thing is moved to a place where there is nothing. -/
theorem rename {action : String} {above : Path} {oldName : String} {Q : Likeness σ τ}
    (hold : Path.IsName oldName) (hname : Path.IsName name)
    (habove : ¬folder.location ++ [EntryName.text name] <+:
      above.location ++ [EntryName.text oldName])
    (hbelow : ¬above.location ++ [EntryName.text oldName] <+:
      folder.location ++ [EntryName.text name])
    (hfrom : ∀ d m e n, P d m e n → Reaches d above ∧ Reaches e above)
    (hreaches : ∀ d m e n, P d m e n → Reaches d folder ∧ Reaches e folder)
    (hsource : ∀ d m e n, P d m e n → d.entryAt? (above.location ++ [EntryName.text oldName]) =
      e.entryAt? (above.location ++ [EntryName.text oldName]))
    (htarget : ∀ d m e n, P d m e n →
      d.entryAt? (folder.location ++ [EntryName.text name]) = none ∧
      e.entryAt? (folder.location ++ [EntryName.text name]) = none)
    (hok : ∀ d m e n d' e', P d m e n →
      Moved d (above.location ++ [EntryName.text oldName])
        (folder.location ++ [EntryName.text name]) d' →
      Moved e (above.location ++ [EntryName.text oldName])
        (folder.location ++ [EntryName.text name]) e' →
      Q d' m e' n) :
    Matches w P
      (Stage.attempt action (above / oldName) (Disk.rename (above / oldName) (folder / name)))
      (Stage.attempt action (above / oldName) (Disk.rename (above / oldName) (folder / name)))
      (fun _ _ => Q) fun _ _ _ _ => True := by
  refine .attempt ?_
  intro d m e n hP
  have hrename := rename_alike hold hname habove hbelow (hfrom _ _ _ _ hP) (hreaches _ _ _ _ hP)
    (hsource _ _ _ _ hP) (htarget _ _ _ _ hP)
  generalize Disk.rename (above / oldName) (folder / name) d = r at hrename ⊢
  generalize Disk.rename (above / oldName) (folder / name) e = r' at hrename ⊢
  cases hrename with
  | ok h => exact .ok (hok _ _ _ _ _ _ hP h.1 h.2)
  | error h => exact .error trivial

/-- The same plugins are removed one by one. Whatever holds of the two disks has to hold again after
each of them. -/
theorem prunePlugins {svgStem : String} {names : List EntryName}
    (hnames : ∀ name ∈ names, name.IsLegal)
    (hreaches : ∀ d m e n, P d m e n → Reaches d folder ∧ Reaches e folder)
    (hsame : ∀ d m e n, P d m e n → ∀ name,
      d.entryAt? (folder.location ++ [name]) = e.entryAt? (folder.location ++ [name]))
    (hstep : ∀ d m e n name f, P d m e n →
      d.entryAt? (folder.location ++ [name]) = some (.file f) →
        P (d.remove (folder.location ++ [name])) m (e.remove (folder.location ++ [name])) n) :
    Matches w P (Pipeline.prunePlugins folder svgStem names)
      (Pipeline.prunePlugins folder svgStem names) (fun _ _ => P) fun _ _ _ _ => True := by
  induction names with
  | nil => exact .pure fun _ _ _ _ hP => hP
  | cons name rest ih =>
      have ih := ih fun other h => hnames other (List.mem_cons_of_mem _ h)
      have hname := hnames name (List.mem_cons_self ..)
      rw [Pipeline.prunePlugins, Pipeline.prunePlugins]
      refine .ite (fun _ => .bind .report fun _ _ => ?_) fun _ => ih
      refine .bind (M := fun _ _ => P) (.attempt fun d m e n hP => ?_) fun _ _ => ih
      obtain ⟨hd, he⟩ := hreaches _ _ _ _ hP
      have hremove := removeListed_alike hname hd he (hsame _ _ _ _ hP name)
      generalize removeListed (folder / name) d = r at hremove ⊢
      generalize removeListed (folder / name) e = r' at hremove ⊢
      cases hremove with
      | ok h =>
          obtain ⟨⟨f, hfile⟩, rfl, rfl⟩ := h
          exact .ok (hstep _ _ _ _ name f hP hfile)
      | error h => exact .error trivial

/-- Plugins are pruned alike where both disks have the same of them, in the same folder or none. -/
theorem pruneImageFormats {listing : ListingOrder} {svgStem : String} {imageFormats : ImageFormats}
    (hname : Path.IsName name) (hroad : ∀ l ∈ folder.road, ¬folder.location ++ [.text name] <+: l)
    (hlegal : ∀ d m e n, P d m e n → d.Legal)
    (hreaches : ∀ d m e n, P d m e n → Reaches d folder ∧ Reaches e folder)
    (hsame : ∀ d m e n, P d m e n → ∀ l, folder.location ++ [.text name] <+: l →
      d.entryAt? l = e.entryAt? l)
    (hok : ∀ d m e n d' e', P d m e n → Thinned (folder / name) d d' →
      Thinned (folder / name) e e' →
        (∀ l, folder.location ++ [.text name] <+: l → d'.entryAt? l = e'.entryAt? l) → P d' m e' n) :
    Matches w P (Pipeline.pruneImageFormats listing (folder / name) svgStem imageFormats)
      (Pipeline.pruneImageFormats listing (folder / name) svgStem imageFormats)
      (fun _ _ => P) fun _ _ _ _ => True := by
  have hlocation : (folder / name).location = folder.location ++ [.text name] :=
    Path.location_join_name hname
  have hhere : ∀ d m e n, P d m e n → d.entryAt? (folder.location ++ [.text name]) =
      e.entryAt? (folder.location ++ [.text name]) :=
    fun d m e n hP => hsame d m e n hP _ List.prefix_rfl
  unfold Pipeline.pruneImageFormats
  refine .bind .disk fun c c' => .of_fact ?_ fun hcond =>
    .ite_congr hcond ?_ fun _ => ?_
  · intro d m e n h
    obtain ⟨⟨rfl, rfl⟩, hP⟩ := h
    obtain ⟨hd, he⟩ := hreaches _ _ _ _ hP
    rw [isFolder_join_congr hname hd he (hhere _ _ _ _ hP)]
  · intro hc
    cases imageFormats with
    | removeAll =>
        refine .attempt ?_
        intro d m e n h
        obtain ⟨⟨rfl, rfl⟩, hP⟩ := h
        obtain ⟨hd, he⟩ := hreaches _ _ _ _ hP
        have hremove := removeTree_alike hname hd he hroad (hhere _ _ _ _ hP)
        generalize removeTree (folder / name) c = r at hremove ⊢
        generalize removeTree (folder / name) c' = r' at hremove ⊢
        cases hremove with
        | ok hdone =>
            obtain ⟨⟨hagree, hagree'⟩, ⟨hsheds, hsheds'⟩, hgone⟩ := hdone
            have hfolder := (Reaches.of_isFolder hc).folder_location
            have hfolder' := (Reaches.of_isFolder (hcond.mp hc)).folder_location
            rw [← hlocation] at hagree hagree'
            refine .ok (hok _ _ _ _ _ _ hP ⟨hsheds, hagree, ?_⟩ ⟨hsheds', hagree', ?_⟩ ?_)
            · exact fun f hf => absurd (hfolder.symm.trans hf) nofun
            · exact fun f hf => absurd (hfolder'.symm.trans hf) nofun
            · intro l hl
              rw [(hgone l hl).1, (hgone l hl).2]
        | error _ => exact .error trivial
    | keepSvg =>
        refine .bind (M := fun names names' d m e n =>
          (names = names' ∧ ∀ other ∈ names, other.IsLegal) ∧
            P d m e n ∧ Reaches d (folder / name) ∧ Reaches e (folder / name))
          (.attempt ?_) fun names names' => .assuming fun hlisted => ?_
        · intro d m e n h
          obtain ⟨⟨rfl, rfl⟩, hP⟩ := h
          obtain ⟨hd, he⟩ := hreaches _ _ _ _ hP
          have hnames : ∀ other, c.entryAt? ((folder / name).location ++ [other]) =
              c'.entryAt? ((folder / name).location ++ [other]) := fun other => by
            rw [hlocation]
            exact hsame _ _ _ _ hP _ (List.prefix_append _ _)
          have hlist : EndAlike _ _ (list listing (folder / name) c) _ :=
            list_alike (locate_join_congr hname hd he (hhere _ _ _ _ hP))
              (hlocation ▸ hhere _ _ _ _ hP) hnames
          generalize list listing (folder / name) c = r at hlist ⊢
          generalize list listing (folder / name) c' = r' at hlist ⊢
          cases hlist with
          | ok hdone =>
              obtain ⟨⟨rfl, hthere⟩, rfl, rfl⟩ := hdone
              refine .ok ⟨⟨rfl, ?_⟩, hP, .of_isFolder hc,
                .of_isFolder (hcond.mp hc)⟩
              intro other hother
              exact hlegal _ _ _ _ hP _ (hthere other hother) other (by simp)
          | error _ => exact .error trivial
        · obtain ⟨rfl, hnames⟩ := hlisted
          refine (prunePlugins hnames (fun d m e n h => h.2) ?_ ?_).weaken (fun _ _ _ _ h => h)
            (fun _ _ _ _ _ _ h => h.1) fun _ _ _ _ h => h
          · intro d m e n h other
            rw [hlocation]
            exact hsame _ _ _ _ h.1 _ (List.prefix_append _ _)
          · intro d m e n other f h hfile
            obtain ⟨hP, hd, he⟩ := h
            have hsame := hsame _ _ _ _ hP
            -- A file is on the road to no folder, so the plugins' folder is still reached.
            have hfile' := hfile
            rw [hlocation, hsame _ (List.prefix_append _ _), ← hlocation] at hfile'
            refine ⟨hok _ _ _ _ _ _ hP (.remove _ _ _) (.remove _ _ _) ?_,
              hd.remove_file hfile, he.remove_file hfile'⟩
            intro l hl
            exact entryAt?_remove_congr (hsame l hl) _ _
  · exact .weaken .report (fun _ _ _ _ h => h.2) (fun _ _ _ _ _ _ h => h) fun _ _ _ _ h => h

/-- The artifact of one and the same file. -/
theorem artifact {p : Path} (hlocate : ∀ d m e n, P d m e n → locate d p = locate e p)
    (hentry : ∀ d m e n, P d m e n → d.entryAt? p.location = e.entryAt? p.location) :
    Matches w P (Pipeline.artifact p) (Pipeline.artifact p)
      (fun a b d m e n => a = b ∧ P d m e n) fun _ _ _ _ => True := by
  unfold Pipeline.artifact
  refine .bind (M := fun l l' d m e n => (l = p.location ∧ l' = p.location) ∧ P d m e n)
    (.attempt ?_) fun l l' => .assuming fun hl => ?_
  · intro d m e n hP
    have hopen := openForReading_alike (hlocate _ _ _ _ hP)
    generalize openForReading p d = r at hopen ⊢
    generalize openForReading p e = r' at hopen ⊢
    cases hopen with
    | ok h =>
        obtain ⟨⟨rfl, rfl⟩, rfl, rfl⟩ := h
        exact .ok ⟨⟨rfl, rfl⟩, hP⟩
    | error h => exact .error trivial
  obtain ⟨rfl, rfl⟩ := hl
  refine .bind (M := fun content content' d m e n => content = content' ∧ P d m e n)
    (.attempt ?_) fun content content' => .assuming fun hcontent => ?_
  · intro d m e n hP
    have hread := readAt_alike (hentry _ _ _ _ hP)
    generalize readAt p.location d = r at hread ⊢
    generalize readAt p.location e = r' at hread ⊢
    cases hread with
    | ok h =>
        obtain ⟨rfl, rfl, rfl⟩ := h
        exact .ok ⟨rfl, hP⟩
    | error h => exact .error trivial
  subst hcontent
  exact .pure fun _ _ _ _ hP => ⟨rfl, hP⟩

end Matches

end Stage

end ReleasePipeline
