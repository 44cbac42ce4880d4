import ReleasePipeline.Proofs.Disk.SideBySide

/-!
# ReleasePipeline.Proofs.Disk.Emptying

Taking entries out of a folder. `Without` is a disk that has lost some entries of a folder, each
with all that is below it, and nothing else; it says all there is to say, so two disks that have lost
the same entries are the same to every program (`Without.same`).

A file in a folder can be removed by its name unless the path to it has become too long
(`removeListed_entry`). Removing a whole tree always empties the folder, but the folder itself goes
only if the path has a name at its end to remove it by, and does not lead through what was just
removed (`removeTree_exact`): a walk by way of what is lost arrives nowhere (`Lost.walk_missing`).
-/

namespace ReleasePipeline

open Disk Node

/-! ### Names of entries -/

/-- A text that an entry of a folder can have as its name. -/
structure CanName (name : String) : Prop where
  isName : Path.IsName name
  no_nul : hasNul ⟨name⟩ = false
  short : isTooLong name = false

theorem canName_iff {name : String} :
    CanName name ↔ Path.IsName name ∧ hasNul ⟨name⟩ = false ∧ isTooLong name = false :=
  ⟨fun h => ⟨h.isName, h.no_nul, h.short⟩, fun ⟨hname, hnul, hshort⟩ => ⟨hname, hnul, hshort⟩⟩

instance (name : String) : Decidable (CanName name) :=
  decidable_of_decidable_of_iff canName_iff.symm

/-- A name that an entry of a folder can have, be it a text or not. -/
def EntryName.IsPossible : EntryName → Prop
  | .text name => CanName name
  | .raw name => isTooLong (.raw name) = false

instance : DecidablePred EntryName.IsPossible
  | .text name => inferInstanceAs (Decidable (CanName name))
  | .raw name => inferInstanceAs (Decidable (isTooLong (.raw name) = false))

theorem EntryName.IsPossible.isLegal {name : EntryName} (h : name.IsPossible) : name.IsLegal := by
  cases name with
  | text name => exact CanName.isName h
  | raw name => trivial

theorem EntryName.IsPossible.short {name : EntryName} (h : name.IsPossible) :
    isTooLong name = false := by
  cases name with
  | text name => exact CanName.short h
  | raw name => exact h

/-- A folder whose entries have names that entries can have. -/
def Node.HoldsNames (d : Node) (folder : Location) : Prop :=
  ∀ name, d.entryAt? (folder ++ [name]) ≠ none → name.IsPossible

theorem Node.exists_child {d : Node} {folder : Location} {entries : List (EntryName × Node)}
    {name : EntryName} {entry : Entry} (hentries : d.get? folder = some (.folder entries))
    (h : d.entryAt? (folder ++ [name]) = some entry) :
    ∃ child, (name, child) ∈ entries ∧ child.entryAt? [] = some entry := by
  rw [entryAt?_append, hentries, Option.bind_some, entryAt?, get?_folder_cons] at h
  cases hchild : entries.lookup name with
  | none => simp [hchild] at h
  | some child =>
      obtain ⟨before, after, rfl, -⟩ := List.lookup_eq_some_iff.mp hchild
      refine ⟨child, by simp, ?_⟩
      rw [hchild, Option.bind_some] at h
      exact h

theorem Node.HoldsNames.of_entries {d : Node} {folder : Location}
    {entries : List (EntryName × Node)} (hentries : d.get? folder = some (.folder entries))
    (h : ∀ child ∈ entries, child.1.IsPossible) : d.HoldsNames folder := by
  intro name hthere
  obtain ⟨entry, hentry⟩ := Option.ne_none_iff_exists'.mp hthere
  obtain ⟨child, hchild, -⟩ := exists_child hentries hentry
  exact h _ hchild

namespace Disk

variable {d e : Node} {folder : Path} {name : String} {l here : Location}

theorem accept_ok {p : Path} (h : accept p = .ok ()) :
    hasNul p = false ∧ p.text.toList ≠ [] ∧ isTooLongPath p = false := by
  unfold accept at h
  split at h
  · cases h
  split at h
  · cases h
  split at h
  · cases h
  · simp_all

theorem hasNul_join (hrelative : (Path.mk name).isAbsolute = false) (hfolder : hasNul folder = false)
    (hname : hasNul ⟨name⟩ = false) : hasNul (folder / name) = false := by
  show hasNul (folder / (⟨name⟩ : Path)) = false
  rw [Path.join_of_not_isAbsolute hrelative]
  simp only [hasNul, List.contains_eq_mem, decide_eq_false_iff_not] at hfolder hname ⊢
  split
  · simp [hfolder, hname]
  · simp [hfolder, hname]

/-- What is joined to a path that the system takes can only be too long. -/
theorem accept_join (hrelative : (Path.mk name).isAbsolute = false) (hnul : hasNul ⟨name⟩ = false)
    (haccept : accept folder = .ok ()) :
    accept (folder / name) =
      if isTooLongPath (folder / name) then .error .nameTooLong else .ok () := by
  obtain ⟨hfolder, hne, -⟩ := accept_ok haccept
  have htext : (folder / name).text.toList ≠ [] := by
    show (folder / (⟨name⟩ : Path)).text.toList ≠ []
    rw [Path.join_of_not_isAbsolute hrelative]
    split
    · simp [hne]
    · simp
  unfold accept
  rw [if_neg (by simp [hasNul_join hrelative hfolder hnul]), if_neg htext]

/-- A folder is the same folder by a path with a dot more, as long as that is not too long. -/
theorem isFolder_join_here (h : isFolder d folder = true)
    (hshort : isTooLongPath (folder / ".") = false) : isFolder d (folder / ".") = true := by
  obtain ⟨l, hlocate, hfolder⟩ := isFolder_iff.mp h
  obtain ⟨haccept, hwalk, -⟩ := locate_ok hlocate
  have haccept' : accept (folder / ".") = .ok () := by
    rw [accept_join (by decide) (by decide) haccept, hshort]
    rfl
  have hwalk' : walk d [] (folder / ".").segments = .ok l := by
    rw [Path.segments_join_here, walk_concat, hwalk]
    exact step_eq_ok_iff.mpr ⟨hfolder, Path.goTo_here l, .inl rfl⟩
  refine isFolder_iff.mpr ⟨l, ?_, hfolder⟩
  rw [locate, haccept']
  dsimp only
  rw [follow, hwalk']
  dsimp only
  rw [Node.isFolderAt_iff.mpr hfolder, Bool.not_true, Bool.and_false]
  rfl

/-- The path of an entry in a folder that the system takes can only be too long. -/
theorem acceptEntry_ofName {name : EntryName} (hname : name.IsPossible)
    (haccept : accept folder = .ok ()) :
    acceptEntry (folder / name) =
      if isTooLongPath (folder / name) then .error .nameTooLong else .ok () := by
  cases name with
  | text name =>
      have hname : CanName name := hname
      exact accept_join hname.isName.not_isAbsolute hname.no_nul haccept
  | raw name =>
      obtain ⟨hnul, -, -⟩ := accept_ok haccept
      change acceptEntry (.raw folder name) = if isTooLongPath (.raw folder name) then _ else _
      rw [acceptEntry, hnul]
      rfl

/-- An entry of a folder is removed by its name if it is a file and the path is not too long. -/
theorem removeListed_entry {name : EntryName} (hname : name.IsPossible)
    (haccept : accept folder = .ok ()) (h : Reaches d folder) :
    removeListed (folder / name) d =
      if isTooLongPath (folder / name) then .error .nameTooLong d
      else
        match d.entryAt? (folder.location ++ [name]) with
        | some .folder => .error .isFolder d
        | some (.file _) => .ok () (d.remove (folder.location ++ [name]))
        | none => .error .noEntry d := by
  rw [removeListed_join hname.isLegal h, acceptEntry_ofName hname haccept, hname.short]
  cases isTooLongPath (folder / name) <;> rfl

/-- A folder is listed with each of its entries once, in whatever order. -/
theorem list_of_isFolder (order : ListingOrder) (h : isFolder d folder = true) :
    ∃ names, list order folder d = .ok names d ∧ names.Nodup ∧
      ∀ name, name ∈ names ↔ d.entryAt? (folder.location ++ [name]) ≠ none := by
  obtain ⟨l, hl, hfolder⟩ := isFolder_iff.mp h
  obtain ⟨entries, hentries⟩ := entryAt?_eq_folder_iff.mp hfolder
  obtain rfl := location_of_locate hl
  refine ⟨order.arrange (Node.folder entries).names, ?_, ?_, fun name => ?_⟩
  · unfold list
    rw [hl]
    dsimp only
    rw [hentries]
  · rw [(order.perm _).nodup_iff]
    exact (List.mergeSort_perm _ _).nodup_iff.mpr (nodup_eraseDups _)
  · rw [(order.perm _).mem_iff, mem_names, ← Node.isSome_entryAt?_name hentries,
      Option.isSome_iff_ne_none]

end Disk

/-! ### Folders without some entries -/

/-- A disk that has lost some entries of a folder, and nothing else. -/
structure Without (gone : EntryName → Prop) (folder : Location) (d e : Node) : Prop where
  lost : ∀ name below, gone name → e.entryAt? (folder ++ name :: below) = none
  agree : AgreeOff (fun l => ∃ name, gone name ∧ folder ++ [name] <+: l) e d

namespace Without

variable {gone gone' : EntryName → Prop} {folder : Location} {c d e : Node} {name : EntryName}

theorem refl (d : Node) : Without (fun _ => False) folder d d :=
  ⟨fun _ _ => False.elim, .refl d⟩

theorem remove (d : Node) (folder : Location) (name : EntryName) :
    Without (· = name) folder d (d.remove (folder ++ [name])) := by
  refine ⟨?_, (AgreeOff.remove d _).weaken fun l hl => ⟨name, rfl, hl⟩⟩
  rintro _ below rfl
  exact entryAt?_remove_append d folder _ below

theorem entryAt?_eq (h : Without gone folder d e) (hname : ¬gone name) (below : Location) :
    e.entryAt? (folder ++ name :: below) = d.entryAt? (folder ++ name :: below) := by
  refine h.agree _ ?_
  rintro ⟨other, hother, hbelow⟩
  by_cases heq : other = name
  · exact hname (heq ▸ hother)
  · exact not_prefix_of_ne heq hbelow

theorem trans (hcd : Without gone folder c d) (hde : Without gone' folder d e) :
    Without (fun name => gone name ∨ gone' name) folder c e := by
  refine ⟨fun name below hname => ?_, (hde.agree.weaken ?_).trans (hcd.agree.weaken ?_)⟩
  · by_cases hlater : gone' name
    · exact hde.lost name below hlater
    · rw [hde.entryAt?_eq hlater]
      exact hcd.lost name below (hname.resolve_right hlater)
  · rintro l ⟨name, hname, hl⟩
    exact ⟨name, .inr hname, hl⟩
  · rintro l ⟨name, hname, hl⟩
    exact ⟨name, .inl hname, hl⟩

/-- What was lost can be told by names that were there. -/
theorem congr (h : Without gone folder d e)
    (hiff : ∀ name, d.entryAt? (folder ++ [name]) ≠ none → (gone name ↔ gone' name)) :
    Without gone' folder d e := by
  have habsent : ∀ {name : EntryName}, d.entryAt? (folder ++ [name]) = none → ∀ below,
      d.entryAt? (folder ++ name :: below) = none := by
    intro name hnone below
    cases below with
    | nil => exact hnone
    | cons first rest =>
        have hbelow := entryAt?_below_eq_none first rest (by rw [hnone]; exact nofun)
        rwa [List.append_assoc] at hbelow
  refine ⟨fun name below hname => ?_, fun l hl => ?_⟩
  · by_cases hgone : gone name
    · exact h.lost name below hgone
    · rw [h.entryAt?_eq hgone]
      exact habsent (Decidable.byContradiction fun hthere =>
        hgone ((hiff name hthere).mpr hname)) below
  · by_cases hlost : ∃ name, gone name ∧ folder ++ [name] <+: l
    · obtain ⟨name, hname, below, rfl⟩ := hlost
      rw [List.append_assoc, List.singleton_append, h.lost name below hname]
      refine (habsent (Decidable.byContradiction fun hthere => hl ?_) below).symm
      exact ⟨name, (hiff name hthere).mp hname, List.prefix_append _ _⟩
    · exact h.agree l hlost

/-- Two disks that have lost the same are the same. -/
theorem same {e' : Node} (h : Without gone folder d e) (h' : Without gone folder d e')
    (l : Location) : e.entryAt? l = e'.entryAt? l := by
  by_cases hlost : ∃ name, gone name ∧ folder ++ [name] <+: l
  · obtain ⟨name, hname, below, rfl⟩ := hlost
    rw [List.append_assoc, List.singleton_append, h.lost name below hname,
      h'.lost name below hname]
  · rw [h.agree l hlost, h'.agree l hlost]

/-- A folder that has lost nothing but files is still there. -/
theorem isFolder {p : Path} (h : Without gone p.location d e) (hfolder : Disk.isFolder d p = true)
    (hgone : ∀ name, gone name → d.entryAt? (p.location ++ [name]) ≠ some .folder) :
    Disk.isFolder e p = true := by
  have hroad : ∀ l ∈ p.road, d.entryAt? l = e.entryAt? l := by
    intro l hl
    have hthere := (Reaches.of_isFolder hfolder).folders l hl
    refine (h.agree l ?_).symm
    -- Whatever is lost was no folder, so it was neither on the road nor above it.
    rintro ⟨name, hname, below, rfl⟩
    cases below with
    | nil => exact hgone name hname (by rwa [List.append_nil] at hthere)
    | cons first rest =>
        have hbelow : d.entryAt? (p.location ++ [name] ++ first :: rest) ≠ none := by
          rw [hthere]
          exact nofun
        exact hgone name hname (entryAt?_of_below hbelow)
  rw [← hfolder]
  exact (isFolder_congr fun l hl => by rw [hroad l hl]).symm

end Without

/-! ### Walks to what is lost -/

/-- A disk that has lost what was at some locations and below them, and nothing else. -/
structure Lost (gone : Location → Prop) (d e : Node) : Prop where
  absent : ∀ l, gone l → e.entryAt? l = none
  agree : AgreeOff gone e d
  below : ∀ l, gone l.dropLast → gone l

namespace Lost

open ReleasePipeline.Path

variable {gone : Location → Prop} {here l : Location} {d e : Node} {segment : String}
  {segments : List String}

/-- Only a name leads to what is lost. -/
theorem goTo_eq (h : Lost gone d e) (hnext : gone (goTo here segment)) (hhere : ¬gone here) :
    segment ≠ "." ∧ segment ≠ ".." ∧ goTo here segment = here ++ [.text segment] := by
  have hdot : segment ≠ "." := by
    intro heq
    rw [heq, goTo_here] at hnext
    exact hhere hnext
  have hup : segment ≠ ".." := by
    intro heq
    rw [heq] at hnext
    exact hhere (h.below _ hnext)
  exact ⟨hdot, hup, by rw [goTo, if_neg hdot, if_neg hup]⟩

/-- A walk that arrived by way of what is lost finds nothing there. -/
theorem walk_missing (h : Lost gone d e) (hhere : ¬gone here) (hwalk : walk d here segments = .ok l)
    (hthrough : ∃ m ∈ passed here segments, gone m) :
    walk e here segments = .error .noEntry := by
  induction segments generalizing here with
  | nil =>
      obtain ⟨m, hm, hgone⟩ := hthrough
      rw [List.mem_singleton.mp hm] at hgone
      exact absurd hgone hhere
  | cons segment rest ih =>
      rw [walk] at hwalk ⊢
      cases hstep : step d here segment with
      | error fault =>
          rw [hstep] at hwalk
          cases hwalk
      | ok next =>
          rw [hstep] at hwalk
          obtain ⟨hfolder, rfl, hsegment⟩ := step_eq_ok_iff.mp hstep
          by_cases hnext : gone (goTo here segment)
          · obtain ⟨hdot, hup, hgoes⟩ := h.goTo_eq hnext hhere
            have hgone : e.entryAt? (here ++ [.text segment]) = none := hgoes ▸ h.absent _ hnext
            obtain ⟨hlong, -⟩ := (hsegment.resolve_left hdot).resolve_left hup
            rw [step_eq, h.agree here hhere, hfolder]
            dsimp only
            rw [if_neg hdot, if_neg hup, hlong, hgone]
            rfl
          · have hstep' : step e here segment = .ok (goTo here segment) := by
              rw [← hstep]
              exact step_congr (h.agree here hhere) (h.agree _ hnext)
            rw [hstep']
            refine ih hnext hwalk ?_
            obtain ⟨m, hm, hgone⟩ := hthrough
            rcases List.mem_cons.mp hm with rfl | hm
            · exact absurd hgone hhere
            · exact ⟨m, hm, hgone⟩

end Lost

/-! ### Emptied folders -/

/-- A folder that was emptied. -/
structure Emptied (folder : Location) (d e : Node) : Prop where
  kept : e.entryAt? folder = some .folder
  below : ∀ name below, e.entryAt? (folder ++ name :: below) = none
  agree : AgreeOff (folder <+: ·) e d

/-- A location in a folder, at whatever depth. -/
def IsBelow (folder l : Location) : Prop :=
  ∃ name below, l = folder ++ name :: below

theorem IsBelow.irrefl (l : Location) : ¬IsBelow l l := by
  rintro ⟨name, below, h⟩
  simpa using congrArg List.length h

theorem not_isBelow_nil (folder : Location) : ¬IsBelow folder [] := by
  intro h
  obtain ⟨name, below, heq⟩ := h
  simp at heq

theorem IsBelow.of_dropLast {folder l : Location} (h : IsBelow folder l.dropLast) :
    IsBelow folder l := by
  obtain ⟨name, below, h⟩ := h
  rcases List.eq_nil_or_concat l with rfl | ⟨front, last, rfl⟩
  · simp at h
  · rw [List.concat_eq_append, List.dropLast_concat] at h
    exact ⟨name, below ++ [last], by simp [h]⟩

namespace Path

/-- A path whose last segment is the name of an entry. -/
def EndsInName (p : Path) : Prop :=
  ∃ front name, p.segments = front ++ [name] ∧ name ≠ "." ∧ name ≠ ".."

/-- A path that leads through the folder that it names, into it and out again. -/
def DoublesBack (p : Path) : Prop :=
  ∃ l ∈ p.road, IsBelow p.location l

end Path

namespace Emptied

open ReleasePipeline.Path

variable {folder here l : Location} {d e : Node} {segments : List String}

theorem put (h : d.entryAt? folder = some .folder) :
    Emptied folder d (d.put folder (.folder [])) := by
  have hthere : d.entryAt? folder ≠ none := by
    rw [h]
    exact nofun
  refine ⟨entryAt?_eq_folder_iff.mpr ⟨[], get?_put_self_of_there hthere _⟩, fun name below => ?_,
    .put d _ _⟩
  rw [entryAt?, get?_put_of_there hthere]
  rfl

theorem entryAt?_eq (h : Emptied folder d e) (hd : d.entryAt? folder = some .folder)
    (hl : ¬IsBelow folder l) : e.entryAt? l = d.entryAt? l := by
  by_cases hbelow : folder <+: l
  · obtain ⟨below, rfl⟩ := hbelow
    cases below with
    | nil => rw [List.append_nil, h.kept, hd]
    | cons name below => exact absurd ⟨name, below, rfl⟩ hl
  · exact h.agree l hbelow

/-- A walk that keeps out of the folder still arrives. -/
theorem walk_eq (h : Emptied folder d e) (hd : d.entryAt? folder = some .folder)
    (hout : ∀ m ∈ passed here segments, ¬IsBelow folder m) :
    walk e here segments = walk d here segments :=
  walk_congr fun m hm => h.entryAt?_eq hd (hout m hm)

theorem lost (h : Emptied folder d e) (hd : d.entryAt? folder = some .folder) :
    Lost (IsBelow folder) d e where
  absent := by
    intro l hl
    obtain ⟨name, below, rfl⟩ := hl
    exact h.below name below
  agree := fun _ hl => h.entryAt?_eq hd hl
  below := fun _ => .of_dropLast

end Emptied

/-! ### Removing a tree -/

namespace Disk

open ReleasePipeline.Path

variable {d e : Node} {p : Path}

theorem not_doublesBack_of_segments_nil (h : p.segments = []) : ¬DoublesBack p := by
  rintro ⟨l, hl, hbelow⟩
  rw [road, h, passed, List.mem_singleton] at hl
  rw [hl, location, h] at hbelow
  exact IsBelow.irrefl _ hbelow

/-- Where a path leads before its last segment is where it can double back. -/
theorem doublesBack_iff {front : List String} {last : String} (h : p.segments = front ++ [last]) :
    DoublesBack p ↔ ∃ l ∈ passed [] front, IsBelow p.location l := by
  have hlast : goTo (front.foldl goTo []) last = p.location := by
    rw [location, h, List.foldl_append]
    rfl
  unfold DoublesBack
  rw [road, h, passed_concat, hlast]
  constructor
  · rintro ⟨l, hl, hbelow⟩
    rcases List.mem_append.mp hl with hl | hl
    · exact ⟨l, hl, hbelow⟩
    · rw [List.mem_singleton.mp hl] at hbelow
      exact absurd hbelow (IsBelow.irrefl _)
  · rintro ⟨l, hl, hbelow⟩
    exact ⟨l, List.mem_append_left _ hl, hbelow⟩

theorem endsInName_iff {front : List String} {last : String} (h : p.segments = front ++ [last]) :
    EndsInName p ↔ last ≠ "." ∧ last ≠ ".." := by
  constructor
  · rintro ⟨front', name, hsegments, hhere, hup⟩
    obtain ⟨-, hlast⟩ := List.append_inj' (h.symm.trans hsegments) rfl
    obtain rfl : last = name := List.head_eq_of_cons_eq hlast
    exact ⟨hhere, hup⟩
  · rintro ⟨hhere, hup⟩
    exact ⟨front, last, h, hhere, hup⟩

/-- A folder that is removed by its name leaves nothing behind. -/
theorem entryAt?_remove_location (h : EndsInName p) (below : Location) :
    (d.remove p.location).entryAt? (p.location ++ below) = none := by
  obtain ⟨front, name, hsegments, hhere, hup⟩ := h
  rw [location_of_segments hsegments hhere hup, List.append_assoc, List.singleton_append]
  exact entryAt?_remove_append d _ name below

theorem placeOf_of_walk_ok {front : List String} {last : String} {parent : Location} {slash : Bool}
    (hwalk : walk d [] front = .ok parent) (hparent : d.isFolderAt parent = true) :
    placeOf d (front ++ [last]) slash = .ok ⟨parent, .ofSegment last, slash⟩ := by
  simp [placeOf, walkToFolder, hwalk, hparent]

theorem placeOf_of_walk_error {front : List String} {last : String} {fault : Fault} {slash : Bool}
    (hwalk : walk d [] front = .error fault) :
    placeOf d (front ++ [last]) slash = .error fault := by
  simp [placeOf, walkToFolder, hwalk]

/-- Where a path is placed once its folder is empty: where it was, unless it doubles back. -/
theorem place_emptied {front : List String} {last : String} (hlocate : locate d p = .ok p.location)
    (hfolder : d.entryAt? p.location = some .folder) (h : Emptied p.location d e)
    (hsegments : p.segments = front ++ [last]) :
    DoublesBack p ∧ place e p = .error .noEntry ∨
      ¬DoublesBack p ∧ ∃ parent, place e p = .ok ⟨parent, .ofSegment last, p.endsInSlash⟩ ∧
        goTo parent last = p.location ∧ (last = "." ∨ last = ".." ∨ isTooLong last = false) := by
  obtain ⟨haccept, hwalk, -⟩ := locate_ok hlocate
  have hplace : place e p = placeOf e (front ++ [last]) p.endsInSlash := by
    rw [place, haccept, hsegments]
  rw [hsegments, walk_concat] at hwalk
  cases hfront : walk d [] front with
  | error fault =>
      rw [hfront] at hwalk
      cases hwalk
  | ok parent =>
      rw [hfront] at hwalk
      obtain ⟨hparent, hgoes, hentry⟩ := step_eq_ok_iff.mp hwalk
      by_cases hback : DoublesBack p
      · have hmissing := (h.lost hfolder).walk_missing (not_isBelow_nil _) hfront
          ((doublesBack_iff hsegments).mp hback)
        exact .inl ⟨hback, hplace.trans (placeOf_of_walk_error hmissing)⟩
      · have hout : ∀ m ∈ passed [] front, ¬IsBelow p.location m := fun m hm hbelow =>
          hback ((doublesBack_iff hsegments).mpr ⟨m, hm, hbelow⟩)
        have hpassed : parent ∈ passed [] front := by
          rw [walk_ok hfront]
          exact location_mem_passed [] front
        have hstill : e.isFolderAt parent = true := by
          rw [Node.isFolderAt_iff, h.entryAt?_eq hfolder (hout parent hpassed), hparent]
        refine .inr ⟨hback, parent, ?_, hgoes, hentry.imp_right (Or.imp_right And.left)⟩
        exact hplace.trans (placeOf_of_walk_ok ((h.walk_eq hfolder hout).trans hfront) hstill)

/-- The removal of a tree always empties its folder, and how it ends can be told from the path. -/
theorem removeTree_exact (h : isFolder d p = true) :
    EndsInName p ∧ ¬DoublesBack p ∧ removeTree p d =
        .ok () ((d.put p.location (.folder [])).remove p.location) ∨
      DoublesBack p ∧ removeTree p d = .ok () (d.put p.location (.folder [])) ∨
      ¬EndsInName p ∧ ¬DoublesBack p ∧ ∃ fault,
        removeTree p d = .error fault (d.put p.location (.folder [])) := by
  obtain ⟨l, hlocate, hfolder⟩ := isFolder_iff.mp h
  obtain rfl := location_of_locate hlocate
  have hnode : (d.put p.location (.folder [])).get? p.location = some (.folder []) :=
    get?_put_self_of_there (by rw [hfolder]; exact nofun) _
  rw [removeTree_eq, hlocate]
  dsimp only
  rw [hfolder]
  dsimp only
  rw [removeFolder_eq]
  rcases List.eq_nil_or_concat p.segments with hnil | ⟨front, last, hsegments⟩
  · -- The root is busy.
    rw [place, (locate_ok hlocate).1, hnil]
    refine .inr (.inr ⟨?_, not_doublesBack_of_segments_nil hnil, _, rfl⟩)
    rintro ⟨front, name, hsegments, -, -⟩
    simp [hnil] at hsegments
  · rw [List.concat_eq_append] at hsegments
    rcases place_emptied hlocate hfolder (.put hfolder) hsegments with ⟨hback, hplace⟩ |
      ⟨hback, parent, hplace, hgoes, hentry⟩
    · rw [hplace]
      exact .inr (.inl ⟨hback, rfl⟩)
    · rw [hplace, endsInName_iff hsegments, Last.ofSegment]
      -- The two dots are refused, the one as the folder itself and the other as not empty.
      by_cases hhere : last = "."
      · rw [if_pos hhere]
        exact .inr (.inr ⟨fun hname => hname.1 hhere, hback, _, rfl⟩)
      by_cases hup : last = ".."
      · rw [if_neg hhere, if_pos hup]
        exact .inr (.inr ⟨fun hname => hname.2 hup, hback, _, rfl⟩)
      rw [goTo, if_neg hhere, if_neg hup] at hgoes
      rw [if_neg hhere, if_neg hup]
      dsimp only
      rw [(hentry.resolve_left hhere).resolve_left hup, hgoes, hnode]
      exact .inl ⟨⟨hhere, hup⟩, hback, rfl⟩

end Disk

end ReleasePipeline
