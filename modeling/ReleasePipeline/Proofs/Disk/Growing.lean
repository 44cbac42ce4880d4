import ReleasePipeline.Proofs.Disk.Operations

/-!
# ReleasePipeline.Proofs.Disk.Growing

Operations that lose nothing. Creating a folder with the folders above it adds folders on the way to
it and changes nothing else (`Grown`), wherever it stops: this is proved of each piece of the
operation and lifted to the whole (`Grows`). Appending to a file adds bytes at its end and changes
nothing else (`Appended`), and a file that cannot be opened for it is left as it was.
-/

namespace ReleasePipeline

/-- The bytes of the file at a location, and none where there is no file. -/
def Node.contentAt (d : Node) (l : Location) : Bytes :=
  match d.entryAt? l with
  | some (.file f) => f.content
  | _ => []

namespace Disk

open ReleasePipeline.Path Node

variable {c d e : Node} {road road' : List Location} {p : Path}

/-! ### New folders -/

/-- A disk with all its entries and maybe new folders on a road. -/
def Grown (road : List Location) (d e : Node) : Prop :=
  ∀ l, e.entryAt? l = d.entryAt? l ∨
    d.entryAt? l = none ∧ e.entryAt? l = some .folder ∧ l ∈ road

namespace Grown

theorem refl (d : Node) : Grown road d d := fun _ => .inl rfl

theorem trans (hcd : Grown road c d) (hde : Grown road d e) : Grown road c e := by
  intro l
  rcases hde l with hde | ⟨hnone, hfolder, hl⟩
  · rw [hde]
    exact hcd l
  · rcases hcd l with hcd | ⟨-, hthere, -⟩
    · exact .inr ⟨hcd ▸ hnone, hfolder, hl⟩
    · rw [hthere] at hnone
      cases hnone

theorem weaken (h : Grown road d e) (hroad : road ⊆ road') : Grown road' d e :=
  fun l => (h l).imp id fun ⟨hnone, hfolder, hl⟩ => ⟨hnone, hfolder, hroad hl⟩

/-- Nothing is lost. -/
theorem sheds (h : Grown road d e) : Sheds e d := by
  intro l entry hentry
  rcases h l with hl | ⟨hnone, -, -⟩
  · exact hl.trans hentry
  · rw [hnone] at hentry
    cases hentry

/-- No file is changed. -/
theorem contentAt_eq (h : Grown road d e) (l : Location) : e.contentAt l = d.contentAt l := by
  unfold contentAt
  rcases h l with hl | ⟨hnone, hfolder, -⟩
  · rw [hl]
  · rw [hnone, hfolder]

/-- A new folder where there was nothing. -/
theorem put {folder : Location} {name : String} (hfolder : d.entryAt? folder = some .folder)
    (hnone : d.entryAt? (folder ++ [.text name]) = none) :
    Grown [folder ++ [.text name]] d (d.put (folder ++ [.text name]) (.folder [])) := by
  intro l
  by_cases hl : folder ++ [.text name] <+: l
  · obtain ⟨below, rfl⟩ := prefix_concat_iff.mp hl
    rw [entryAt?_put_append hfolder]
    cases below with
    | nil => exact .inr ⟨hnone, rfl, List.mem_singleton.mpr rfl⟩
    | cons first rest =>
        -- Below nothing there is nothing, and the new folder is empty.
        refine .inl ?_
        rw [show folder ++ .text name :: first :: rest =
            folder ++ [.text name] ++ first :: rest by simp,
          entryAt?_below_eq_none first rest (by rw [hnone]; exact nofun)]
        rfl
  · exact .inl (entryAt?_put _ hl)

end Grown

/-- An operation that only adds folders on a road, whether it succeeds or not. -/
def Grows (road : List Location) (op : DiskM α) : Prop :=
  ∀ d, match op d with
    | .ok _ e => Grown road d e
    | .error _ e => Grown road d e

namespace Grows

theorem weaken {op : DiskM α} (h : Grows road op) (hroad : road ⊆ road') : Grows road' op := by
  intro d
  have h := h d
  cases hop : op d <;> rw [hop] at h <;> exact h.weaken hroad

theorem throw {fault : Fault} : Grows road (MonadExcept.throw fault : DiskM α) :=
  fun d => .refl d

/-- What is done with the outcome of one operation and only adds folders, too. -/
theorem outcome_bind {op : DiskM α} {f : Except Fault α → DiskM β} (hop : Grows road op)
    (hf : ∀ outcome, Grows road (f outcome)) : Grows road (outcome op >>= f) := by
  intro d
  rw [Disk.outcome_bind]
  have hop := hop d
  cases hrun : op d with
  | ok a e =>
      rw [hrun] at hop
      have hf := hf (.ok a) e
      dsimp only
      cases hrest : f (.ok a) e <;> rw [hrest] at hf <;> exact hop.trans hf
  | error fault e =>
      rw [hrun] at hop
      have hf := hf (.error fault) e
      dsimp only
      cases hrest : f (.error fault) e <;> rw [hrest] at hf <;> exact hop.trans hf

theorem bind {op : DiskM α} {f : α → DiskM β} (hop : Grows road op)
    (hf : ∀ a, Grows road (f a)) : Grows road (op >>= f) := by
  intro d
  have hop := hop d
  change match EStateM.bind op f d with
    | .ok _ e => Grown road d e
    | .error _ e => Grown road d e
  unfold EStateM.bind
  cases hrun : op d with
  | ok a e =>
      rw [hrun] at hop
      have hf := hf a e
      dsimp only
      cases hrest : f a e <;> rw [hrest] at hf <;> exact hop.trans hf
  | error fault e =>
      rw [hrun] at hop
      exact hop

theorem ite {c : Prop} [Decidable c] {x y : DiskM α} (hx : Grows road x) (hy : Grows road y) :
    Grows road (if c then x else y) := by
  split
  · exact hx
  · exact hy

end Grows

/-! ### Making folders -/

/-- A folder is made where its segments lead. -/
theorem makeFolderAt_grows (segments : List String) :
    Grows (passed [] segments) (do makeFolderAt (← check (placeOf · segments false))) := by
  intro d
  rw [check_bind]
  cases hplace : placeOf d segments false with
  | error fault => exact .refl d
  | ok found =>
      obtain ⟨folder, last, slash⟩ := found
      unfold makeFolderAt
      cases last with
      | name name =>
          obtain ⟨-, hsegments, hhere, hup, hwalk, hfolder⟩ := placeOf_ok hplace
          dsimp only
          cases isTooLong name with
          | true => exact .refl d
          | false =>
              cases hnode : d.get? (folder ++ [.text name]) with
              | some node => exact .refl d
              | none =>
                  refine (Grown.put hfolder (entryAt?_eq_none_iff.mpr hnode)).weaken ?_
                  -- The place is the end of the road.
                  have hend : folder ++ [.text name] = segments.foldl goTo [] := by
                    rw [hsegments, List.foldl_append, ← walk_ok hwalk]
                    simp [goTo, hhere, hup]
                  intro l hl
                  rw [List.mem_singleton.mp hl, hend]
                  exact location_mem_passed [] segments
      | _ => exact .refl d

theorem makeFolderOr_grows {above : DiskM Unit} {segments : List String}
    (habove : Grows road above) (hroad : passed [] segments ⊆ road) :
    Grows road (makeFolderOr above segments) := by
  unfold makeFolderOr
  extract_lets make orExisting
  have hmake : Grows road make := (makeFolderAt_grows segments).weaken hroad
  have hexisting : ∀ fault, Grows road (orExisting fault) := by
    intro fault d
    dsimp only [orExisting]
    cases walk d [] segments with
    | error _ => exact .refl d
    | ok l =>
        dsimp only
        cases d.isFolderAt l <;> exact .refl d
  refine .outcome_bind hmake fun first => ?_
  cases first with
  | ok u => exact fun d => .refl d
  | error fault =>
      refine .ite (.bind habove fun _ => .outcome_bind hmake fun second => ?_) (hexisting fault)
      cases second with
      | ok u => exact fun d => .refl d
      | error fault => exact hexisting fault

theorem passed_subset_concat (here : Location) (segments : List String) (last : String) :
    passed here segments ⊆ passed here (segments ++ [last]) := by
  rw [passed_concat]
  exact List.subset_append_left _ _

theorem makeFoldersUp_grows : ∀ segments : List String,
    Grows (passed [] segments.reverse) (makeFoldersUp segments)
  | [] => fun d => .refl d
  | last :: above => by
      refine makeFolderOr_grows ((makeFoldersUp_grows above).weaken ?_) (List.Subset.refl _)
      rw [List.reverse_cons]
      exact passed_subset_concat [] above.reverse last

/-- A dot in a path leads nowhere new. -/
theorem passed_filter_subset (here : Location) (segments : List String) :
    passed here (segments.filter (· ≠ ".")) ⊆ passed here segments := by
  induction segments generalizing here with
  | nil => exact List.Subset.refl _
  | cons segment rest ih =>
      by_cases hdot : segment = "."
      · subst hdot
        rw [List.filter_cons_of_neg (by simp), passed, goTo_here]
        exact List.subset_cons_of_subset _ (ih here)
      · rw [List.filter_cons_of_pos (by simpa using hdot), passed, passed]
        exact List.cons_subset_cons _ (ih _)

/-- Making a folder with the folders above it adds folders on the way to it. -/
theorem makeFolders_grows (p : Path) : Grows p.road (makeFolders p) := by
  unfold makeFolders
  refine .ite .throw (.ite .throw (makeFolderOr_grows ?_ (List.Subset.refl _)))
  refine (makeFoldersUp_grows _).weaken ?_
  rw [List.reverse_reverse]
  refine List.Subset.trans ?_ (passed_filter_subset [] p.segments)
  rcases List.eq_nil_or_concat (p.segments.filter (· ≠ ".")) with h | ⟨front, last, h⟩
  · rw [h]
    exact List.Subset.refl _
  · rw [h, List.concat_eq_append, List.dropLast_concat]
    exact passed_subset_concat [] front last

/-! ### Appending -/

/-- Whether a file can be opened to be written to. -/
def opens (d : Node) (p : Path) : Bool :=
  match openForWriting p false d with
  | .ok _ _ => true
  | .error _ _ => false

theorem opens_of_ok {l : Location} (h : openForWriting p false d = .ok l e) : opens d p = true := by
  unfold opens
  rw [h]

/-- A file that cannot be opened is left as it is. -/
theorem opens_of_error {fault : Fault} (h : openForWriting p false d = .error fault e) :
    opens d p = false ∧ e = d := by
  rcases openForWriting_cases p false d with ⟨_, _, _, _, -, -, hok, -⟩ | ⟨_, herror⟩
  · rw [h] at hok
    cases hok
  · rw [h] at herror
    cases herror
    unfold opens
    exact ⟨by rw [h], rfl⟩

/-- Bytes were added to a file, which was made if it was missing. -/
structure Appended (l : Location) (content : Bytes) (d e : Node) : Prop where
  not_folder : d.entryAt? l ≠ some .folder
  file : ∃ f, e.entryAt? l = some (.file f) ∧ f.content = d.contentAt l ++ content
  agree : AgreeOff (· = l) e d

/-- What is written to a file that was opened is appended to what it held before. -/
theorem appendAt_of_opened {l : Location} (h : openForWriting p false d = .ok l e)
    (content : Bytes) : ∃ e', appendAt l content e = .ok () e' ∧ Appended p.location content d e' := by
  unfold appendAt
  rw [openForWriting_eq] at h
  cases hplace : place d p with
  | error fault =>
      rw [hplace] at h
      cases h
  | ok found =>
      obtain ⟨folder, last, slash⟩ := found
      rw [hplace] at h
      cases last with
      | name name =>
          obtain ⟨-, -, -, -, -, hfolder⟩ := place_ok hplace
          dsimp only at h
          rw [location_of_place hplace]
          split at h
          · cases h
          split at h
          · cases h
          split at h
          · cases h
          · rename_i f hfile
            cases h
            have hno : d.entryAt? (folder ++ [.text name]) ≠ some .folder := by
              rw [hfile]
              exact nofun
            rw [changeFile_eq, hfile]
            refine ⟨_, rfl, hno, ⟨_, (Wrote.put _ hfolder hno).entryAt?, ?_⟩, .put_file _ hfolder hno⟩
            rw [contentAt, hfile]
          · rename_i hnone
            cases h
            have hno : d.entryAt? (folder ++ [.text name]) ≠ some .folder := by
              rw [hnone]
              exact nofun
            have hmade := Wrote.put (f := { content := [], executable := false }) hfolder hno
            rw [changeFile_eq, hmade.entryAt?]
            have hwrote := hmade.trans (.put_again (f := { content := [] ++ content }) hfolder hmade)
            refine ⟨_, rfl, hno, ⟨_, hwrote.entryAt?, ?_⟩, hwrote.agree⟩
            rw [contentAt, hnone]
      | _ => cases h

end Disk

end ReleasePipeline
