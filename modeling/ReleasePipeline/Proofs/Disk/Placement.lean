import ReleasePipeline.Proofs.Disk.Emptying

/-!
# ReleasePipeline.Proofs.Disk.Placement

Paths that have a place. `HasPlace` is the state of a disk in which the last segment of a path is a
name, and the segments before it lead to a folder; something may be there by that name or not. From
there every operation on the path can be told from the entry at its location, whether the path ends
in a slash or not, and the text can only be too long.

What is left to tell apart is whether the path leads through the very folder that it names
(`Path.CrossesItself`). Such a path leads to the folder only as long as the folder is there: the
folder can be removed by it, and then the path has no place any more (`HasPlace.removeTree_folder`).
-/

namespace ReleasePipeline

open Disk Node

namespace Path

/-- A path that leads through the folder that it names before it gets there. -/
def CrossesItself (p : Path) : Prop :=
  ∃ l ∈ passed [] p.segments.dropLast, p.location <+: l

instance (p : Path) : Decidable p.CrossesItself :=
  inferInstanceAs (Decidable (∃ _ ∈ _, _ <+: _))

theorem crossesItself_join {folder : Path} {name : String} (hname : IsName name) :
    (folder / name).CrossesItself ↔ ∃ l ∈ folder.road, folder.location ++ [.text name] <+: l := by
  unfold CrossesItself
  rw [segments_join_name hname, List.dropLast_concat, location_join_name hname]
  rfl

/-- Whoever doubles back in a folder has come to the folder before. -/
theorem DoublesBack.crossesItself {p : Path} {name : String}
    (hsegments : p.segments = p.segments.dropLast ++ [name]) (h : p.DoublesBack) :
    p.CrossesItself := by
  obtain ⟨l, hl, other, below, rfl⟩ := (Disk.doublesBack_iff hsegments).mp h
  exact ⟨_, hl, List.prefix_append _ _⟩

end Path

namespace Disk

open ReleasePipeline.Path (passed)

/-! ### Paths with a place -/

/-- A path has a place: a name at its end, in a folder that the segments before it lead to. Something
may be there by that name or not. -/
structure HasPlace (d : Node) (p : Path) (parent : Location) (name : String) : Prop where
  segments_eq : p.segments = p.segments.dropLast ++ [name]
  isName : Path.IsName name
  name_short : isTooLong name = false
  no_nul : hasNul p = false
  walk : walk d [] p.segments.dropLast = .ok parent
  folder : d.entryAt? parent = some .folder

namespace HasPlace

variable {d e : Node} {folder p : Path} {parent : Location} {name : String}

theorem of_reaches (hname : Path.IsName name) (hshort : isTooLong name = false)
    (hnul : hasNul (folder / name) = false) (h : Reaches d folder) :
    HasPlace d (folder / name) folder.location name := by
  have hsegments : (folder / name).segments = folder.segments ++ [name] :=
    Path.segments_join_name hname
  have hfront : (folder / name).segments.dropLast = folder.segments := by
    rw [hsegments, List.dropLast_concat]
  exact ⟨by rw [hfront, hsegments], hname, hshort, hnul, by rw [hfront, h.walk], h.folder_location⟩

/-- What can be the name of an entry has a place in every folder. -/
theorem of_isFolder (hfolder : isFolder d folder = true) (hname : CanName name) :
    HasPlace d (folder / name) folder.location name := by
  obtain ⟨l, hlocate, -⟩ := isFolder_iff.mp hfolder
  obtain ⟨hnul, -, -⟩ := accept_ok (locate_ok hlocate).1
  exact .of_reaches hname.isName hname.short
    (hasNul_join hname.isName.not_isAbsolute hnul hname.no_nul) (.of_isFolder hfolder)

theorem location_eq (h : HasPlace d p parent name) : p.location = parent ++ [.text name] := by
  rw [Path.location, h.segments_eq, List.foldl_append, ← walk_ok h.walk]
  exact Path.goTo_of_isName h.isName parent

theorem endsInName (h : HasPlace d p parent name) : p.EndsInName :=
  ⟨_, name, h.segments_eq, h.isName.not_here, h.isName.not_up⟩

/-- Nothing but its length can be wrong with the path. -/
theorem accept_eq (h : HasPlace d p parent name) :
    accept p = if isTooLongPath p then .error .nameTooLong else .ok () := by
  have hne : p.text.toList ≠ [] := by
    intro hnil
    have hsegments := h.segments_eq
    rw [Path.segments_eq_partsOf, hnil, Path.partsOf_nil] at hsegments
    simp at hsegments
  unfold accept
  rw [if_neg (by simp [h.no_nul]), if_neg hne]

theorem place_eq (h : HasPlace d p parent name) (hshort : isTooLongPath p = false) :
    place d p = .ok ⟨parent, .name name, p.endsInSlash⟩ := by
  have hplace : placeOf d (p.segments.dropLast ++ [name]) p.endsInSlash = _ :=
    placeOf_of_walk_ok h.walk (isFolderAt_iff.mpr h.folder)
  rw [← h.segments_eq, Last.ofSegment, if_neg h.isName.not_here,
    if_neg h.isName.not_up] at hplace
  rw [place, h.accept_eq, hshort]
  exact hplace

theorem walk_eq (h : HasPlace d p parent name) :
    Disk.walk d [] p.segments =
      if (d.entryAt? p.location).isSome then .ok p.location else .error .noEntry := by
  rw [h.segments_eq, walk_concat, h.walk, h.location_eq]
  dsimp only
  rw [step_eq, h.folder]
  dsimp only
  rw [if_neg h.isName.not_here, if_neg h.isName.not_up, h.name_short,
    if_neg Bool.false_ne_true]

/-- The entry at a place decides what is located. -/
theorem locate_eq (h : HasPlace d p parent name) (hshort : isTooLongPath p = false) :
    locate d p = match d.entryAt? p.location with
      | some .folder => .ok p.location
      | some (.file _) => if p.endsInSlash then .error .notFolder else .ok p.location
      | none => .error .noEntry := by
  rw [locate, h.accept_eq, hshort]
  dsimp only [follow]
  rw [h.walk_eq]
  cases hentry : d.entryAt? p.location with
  | none => rfl
  | some entry =>
      cases entry with
      | folder => simp [isFolderAt_iff.mpr hentry]
      | file f =>
          have hfolder : d.isFolderAt p.location = false := by
            simp [← Bool.not_eq_true, isFolderAt_iff, hentry]
          cases hslash : p.endsInSlash <;> simp [hfolder]

theorem isFolder_iff (h : HasPlace d p parent name) (hshort : isTooLongPath p = false) :
    isFolder d p = true ↔ d.entryAt? p.location = some .folder := by
  rw [Disk.isFolder_iff]
  constructor
  · intro hlocated
    obtain ⟨l, hlocate, hentry⟩ := hlocated
    rwa [← location_of_locate hlocate]
  · intro hentry
    refine ⟨_, ?_, hentry⟩
    rw [h.locate_eq hshort, hentry]

/-- A path keeps its place when nothing changes but what it names, unless it crosses that. -/
theorem of_agree (h : HasPlace d p parent name) (hcross : ¬p.CrossesItself)
    (hagree : AgreeOff (p.location <+: ·) e d) : HasPlace e p parent name := by
  have hout : ∀ l ∈ passed [] p.segments.dropLast, e.entryAt? l = d.entryAt? l :=
    fun l hl => hagree l fun hbelow => hcross ⟨l, hl, hbelow⟩
  refine ⟨h.segments_eq, h.isName, h.name_short, h.no_nul, ?_, ?_⟩
  · rw [walk_congr hout, h.walk]
  · have hparent : parent ∈ passed [] p.segments.dropLast := by
      rw [walk_ok h.walk]
      exact Path.location_mem_passed _ _
    rw [hout parent hparent, h.folder]

/-- A path that crosses itself can do so only where there is a folder to cross. -/
theorem entryAt?_of_crossesItself (h : HasPlace d p parent name) (hcross : p.CrossesItself) :
    d.entryAt? p.location = some .folder := by
  obtain ⟨l, hl, below, rfl⟩ := hcross
  have hentry := folder_of_mem_passed h.walk h.folder _ hl
  cases below with
  | nil => rwa [List.append_nil] at hentry
  | cons first rest =>
      have hthere : d.entryAt? (p.location ++ first :: rest) ≠ none := by
        rw [hentry]
        exact nofun
      exact entryAt?_of_below hthere

/-- By a path that crosses itself, nothing is placed once the folder is lost or what is in it. -/
theorem place_of_lost {gone : Location → Prop} (h : HasPlace d p parent name)
    (hlost : Lost gone d e) (hroot : ¬gone [])
    (hthrough : ∃ l ∈ passed [] p.segments.dropLast, gone l)
    (hshort : isTooLongPath p = false) : place e p = .error .noEntry := by
  have hplace : placeOf e (p.segments.dropLast ++ [name]) p.endsInSlash = _ :=
    placeOf_of_walk_error (hlost.walk_missing hroot h.walk hthrough)
  rw [← h.segments_eq] at hplace
  rw [place, h.accept_eq, hshort]
  exact hplace

/-! ### Operations at a place -/

theorem makeFolder_ok (h : HasPlace d p parent name) (hshort : isTooLongPath p = false)
    (hnone : d.entryAt? p.location = none) :
    makeFolder p d = .ok () (d.put p.location (.folder [])) := by
  rw [h.location_eq] at hnone ⊢
  rw [makeFolder_eq, h.place_eq hshort]
  dsimp only
  rw [h.name_short, hnone]
  rfl

theorem removeTree_tooLong (h : HasPlace d p parent name) (hlong : isTooLongPath p = true) :
    removeTree p d = .error .nameTooLong d := by
  rw [removeTree_eq, locate, h.accept_eq, hlong]
  rfl

theorem removeTree_absent (h : HasPlace d p parent name) (hshort : isTooLongPath p = false)
    (hnone : d.entryAt? p.location = none) : removeTree p d = .error .noEntry d := by
  rw [removeTree_eq, h.locate_eq hshort, hnone]

theorem removeTree_file {f : File} (h : HasPlace d p parent name)
    (hshort : isTooLongPath p = false) (hfile : d.entryAt? p.location = some (.file f)) :
    removeTree p d = .error .notFolder d := by
  rw [removeTree_eq, h.locate_eq hshort, hfile]
  cases p.endsInSlash with
  | true => rfl
  | false => simp [hfile]

/-- A folder that was removed by a path is gone, or the path crossed it and leads nowhere now. What
was in the folder is gone in any case. -/
structure Cleared (p : Path) (d e : Node) : Prop where
  below : ∀ name below, e.entryAt? (p.location ++ name :: below) = none
  agree : AgreeOff (p.location <+: ·) e d
  gone : ¬p.CrossesItself → e.entryAt? p.location = none
  cut_off : p.CrossesItself → place e p = .error .noEntry

/-- A folder is always removed with success, also by a path that crosses it. -/
theorem removeTree_folder (h : HasPlace d p parent name) (hshort : isTooLongPath p = false)
    (hfolder : d.entryAt? p.location = some .folder) :
    ∃ e, removeTree p d = .ok () e ∧ Cleared p d e := by
  have hemptied := Emptied.put hfolder
  rcases removeTree_exact ((h.isFolder_iff hshort).mpr hfolder) with ⟨-, -, hrun⟩ | ⟨hback, hrun⟩ |
    ⟨hname, -, -⟩
  · -- The folder is gone with what was in it, and with it every way through it.
    have hlost : Lost (p.location <+: ·) d ((d.put p.location (.folder [])).remove p.location) := by
      refine ⟨fun l hl => ?_, (AgreeOff.remove _ _).trans hemptied.agree, fun l hl => ?_⟩
      · rw [h.location_eq] at hl ⊢
        exact entryAt?_remove_eq_none hl
      · exact hl.trans (List.dropLast_prefix l)
    refine ⟨_, hrun, fun name below => hlost.absent _ (List.prefix_append _ _), hlost.agree,
      fun _ => hlost.absent _ List.prefix_rfl, fun hcross => ?_⟩
    exact h.place_of_lost hlost (by simp [h.location_eq]) hcross hshort
  · -- The folder is left, but the way to it led through what was in it.
    refine ⟨_, hrun, hemptied.below, hemptied.agree,
      fun hcross => absurd (hback.crossesItself h.segments_eq) hcross, fun _ => ?_⟩
    exact h.place_of_lost (hemptied.lost hfolder) (not_isBelow_nil _)
      ((doublesBack_iff h.segments_eq).mp hback) hshort
  · exact absurd h.endsInName hname

end HasPlace

end Disk

end ReleasePipeline
