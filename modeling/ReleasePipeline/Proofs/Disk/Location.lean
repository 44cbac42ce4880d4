import ReleasePipeline.Disk.Walk
import ReleasePipeline.Proofs.Disk.Entries

/-!
# ReleasePipeline.Proofs.Disk.Location

Where a path leads. A disk has no links, so the text of a path alone determines the location it can
name (`Path.location`) and the locations it passes on the way (`Path.road`); the disk only decides
whether the walk gets there. Two disks with the same entries along the road therefore give a walk
the same end (`walk_congr`), and a walk that arrives has passed folders only.

`Disk.Reaches` is the state of a disk in which a folder can be worked in: the path leads to a
folder, over folders.
-/

namespace ReleasePipeline

namespace Path

/-! ### Locations by text -/

/-- Where one segment leads from a location. -/
def goTo (here : Location) (segment : String) : Location :=
  if segment = "." then here else if segment = ".." then here.dropLast else here ++ [.text segment]

/-- The locations from a start to where segments lead, both included. -/
def passed : Location → List String → List Location
  | here, [] => [here]
  | here, segment :: rest => here :: passed (goTo here segment) rest

/-- The location that a path can name. -/
def location (p : Path) : Location :=
  p.segments.foldl goTo []

/-- The locations on the way to the one that a path can name, from the root on. -/
def road (p : Path) : List Location :=
  passed [] p.segments

theorem goTo_here (here : Location) : goTo here "." = here :=
  if_pos rfl

theorem goTo_of_isName {name : String} (h : IsName name) (here : Location) :
    goTo here name = here ++ [.text name] := by
  rw [goTo, if_neg h.not_here, if_neg h.not_up]

theorem location_join_name {folder : Path} {name : String} (h : IsName name) :
    (folder / name).location = folder.location ++ [.text name] := by
  rw [location, segments_join_name h, List.foldl_append]
  exact goTo_of_isName h _

/-- The location of a path whose last segment is none of the two dots ends in that segment. -/
theorem location_of_segments {p : Path} {front : List String} {name : String}
    (h : p.segments = front ++ [name]) (hhere : name ≠ ".") (hup : name ≠ "..") :
    p.location = front.foldl goTo [] ++ [.text name] := by
  rw [location, h, List.foldl_append, List.foldl_cons, List.foldl_nil, goTo, if_neg hhere, if_neg hup]

theorem location_mem_passed (here : Location) (segments : List String) :
    segments.foldl goTo here ∈ passed here segments := by
  induction segments generalizing here with
  | nil => exact List.mem_singleton.mpr rfl
  | cons segment rest ih => exact List.mem_cons_of_mem _ (ih _)

theorem location_mem_road (p : Path) : p.location ∈ p.road :=
  location_mem_passed [] p.segments

theorem passed_concat (here : Location) (segments : List String) (last : String) :
    passed here (segments ++ [last]) =
      passed here segments ++ [goTo (segments.foldl goTo here) last] := by
  induction segments generalizing here with
  | nil => rfl
  | cons segment rest ih => exact congrArg (here :: ·) (ih _)

theorem road_join_name {folder : Path} {name : String} (h : IsName name) :
    (folder / name).road = folder.road ++ [folder.location ++ [.text name]] := by
  rw [road, segments_join_name h, passed_concat, ← goTo_of_isName h]
  rfl

theorem location_join_here (folder : Path) : (folder / ".").location = folder.location := by
  rw [location, segments_join_here, List.foldl_append]
  exact goTo_here _

theorem road_join_here (folder : Path) : (folder / ".").road = folder.road ++ [folder.location] := by
  rw [road, segments_join_here, passed_concat, goTo_here]
  rfl

/-- A segment other than the two dots is a name. -/
theorem isName_of_mem_segments {p : Path} {segment : String} (h : segment ∈ p.segments)
    (hhere : segment ≠ ".") (hup : segment ≠ "..") : IsName segment :=
  have hsegment := isSegment_of_mem_segments h
  ⟨hsegment.ne_nil, hsegment.no_slash, hhere, hup⟩

end Path

namespace Disk

open ReleasePipeline.Path (goTo passed)

variable {d e : Node} {here l : Location} {segment : String} {segments : List String}

/-! ### Walks -/

/-- A step looks at the entry it starts from and at the one it leads to. -/
theorem step_eq (d : Node) (here : Location) (segment : String) :
    step d here segment = match d.entryAt? here with
      | some .folder =>
        if segment = "." then .ok here
        else if segment = ".." then .ok here.dropLast
        else if isTooLong segment then .error .nameTooLong
        else if (d.entryAt? (here ++ [.text segment])).isSome then .ok (here ++ [.text segment])
        else .error .noEntry
      | some (.file _) => .error .notFolder
      | none => .error .noEntry := by
  unfold step
  cases hnode : d.get? here with
  | none => rw [Node.entryAt?_eq_none_iff.mpr hnode]
  | some node =>
      cases node with
      | file f => rw [Node.entryAt?_eq_file_iff.mpr hnode]
      | folder entries =>
          rw [Node.entryAt?_eq_folder_iff.mpr ⟨entries, hnode⟩]
          simp only [Node.isSome_entryAt?_name hnode]

theorem step_congr (hhere : d.entryAt? here = e.entryAt? here)
    (hnext : d.entryAt? (goTo here segment) = e.entryAt? (goTo here segment)) :
    step d here segment = step e here segment := by
  rw [step_eq, step_eq, hhere]
  unfold goTo at hnext
  split
  · split
    · rfl
    · rename_i hdot
      rw [if_neg hdot] at hnext
      split
      · rfl
      · rename_i hup
        rw [if_neg hup] at hnext
        rw [hnext]
  · rfl
  · rfl

/-- A step that is taken starts at a folder and leads where its segment says. A name leads only to
what is there. -/
theorem step_eq_ok_iff {next : Location} :
    step d here segment = .ok next ↔ d.entryAt? here = some .folder ∧ goTo here segment = next ∧
      (segment = "." ∨ segment = ".." ∨
        isTooLong segment = false ∧ (d.entryAt? (here ++ [.text segment])).isSome = true) := by
  rw [step_eq]
  cases hentry : d.entryAt? here with
  | none => simp
  | some entry =>
      cases entry with
      | file f => simp
      | folder =>
          by_cases hdot : segment = "."
          · simp [goTo, hdot]
          by_cases hup : segment = ".."
          · simp [goTo, hup]
          cases hlong : isTooLong segment <;>
            cases hsome : (d.entryAt? (here ++ [.text segment])).isSome <;>
              simp [goTo, hdot, hup]

theorem step_of_sheds {next : Location} (h : Node.Sheds d e)
    (hstep : step e here segment = .ok next) : step d here segment = .ok next := by
  rw [step_eq_ok_iff] at hstep ⊢
  obtain ⟨hhere, hnext, hsegment⟩ := hstep
  refine ⟨h _ _ hhere, hnext, hsegment.imp id (Or.imp id fun ⟨hlong, hsome⟩ => ⟨hlong, ?_⟩)⟩
  obtain ⟨entry, hentry⟩ := Option.isSome_iff_exists.mp hsome
  rw [h _ _ hentry]
  rfl

theorem walk_congr (h : ∀ l ∈ passed here segments, d.entryAt? l = e.entryAt? l) :
    walk d here segments = walk e here segments := by
  induction segments generalizing here with
  | nil => rfl
  | cons segment rest ih =>
      have hnext : ∀ l ∈ passed (goTo here segment) rest, d.entryAt? l = e.entryAt? l :=
        fun l hl => h l (List.mem_cons_of_mem _ hl)
      have hhead : goTo here segment ∈ passed (goTo here segment) rest := by
        cases rest <;> exact List.mem_cons_self ..
      rw [walk, walk, step_congr (h here (List.mem_cons_self ..)) (hnext _ hhead)]
      cases hstep : step e here segment with
      | error fault => rfl
      | ok next =>
          -- The step leads where its segment says, which is the start of the rest of the road.
          rw [← (step_eq_ok_iff.mp hstep).2.1]
          exact ih hnext

/-- A walk that arrives ends where the text says. -/
theorem walk_ok (h : walk d here segments = .ok l) : l = segments.foldl goTo here := by
  induction segments generalizing here with
  | nil => exact (Except.ok.inj h).symm
  | cons segment rest ih =>
      rw [walk] at h
      cases hstep : step d here segment with
      | error fault =>
          rw [hstep] at h
          cases h
      | ok next =>
          rw [hstep] at h
          rw [List.foldl_cons, (step_eq_ok_iff.mp hstep).2.1]
          exact ih h

/-- A walk that arrives at a folder has passed folders only. -/
theorem folder_of_mem_passed (h : walk d here segments = .ok l) (hl : d.entryAt? l = some .folder) :
    ∀ m ∈ passed here segments, d.entryAt? m = some .folder := by
  induction segments generalizing here with
  | nil =>
      cases h
      intro m hm
      rw [List.mem_singleton.mp hm]
      exact hl
  | cons segment rest ih =>
      rw [walk] at h
      cases hstep : step d here segment with
      | error fault =>
          rw [hstep] at h
          cases h
      | ok next =>
          rw [hstep] at h
          obtain ⟨hhere, rfl, -⟩ := step_eq_ok_iff.mp hstep
          intro m hm
          rcases List.mem_cons.mp hm with rfl | hm
          · exact hhere
          · exact ih h m hm

theorem walk_concat (d : Node) (here : Location) (segments : List String) (last : String) :
    walk d here (segments ++ [last]) = match walk d here segments with
      | .ok l => step d l last
      | .error fault => .error fault := by
  induction segments generalizing here with
  | nil =>
      simp only [List.nil_append, walk]
      cases step d here last <;> rfl
  | cons segment rest ih =>
      rw [List.cons_append, walk, walk]
      cases step d here segment with
      | error fault => rfl
      | ok next => exact ih next

/-- A walk still arrives when there is more on the disk. -/
theorem walk_of_sheds (h : Node.Sheds d e) (hwalk : walk e here segments = .ok l) :
    walk d here segments = .ok l := by
  induction segments generalizing here with
  | nil => exact hwalk
  | cons segment rest ih =>
      rw [walk] at hwalk ⊢
      cases hstep : step e here segment with
      | error fault =>
          rw [hstep] at hwalk
          cases hwalk
      | ok next =>
          rw [hstep] at hwalk
          rw [step_of_sheds h hstep]
          exact ih hwalk

/-! ### Paths that arrive -/

theorem isTooLongPath_eq_false_iff {p : Path} :
    isTooLongPath p = false ↔ p.text.utf8ByteSize < pathLimit := by
  rw [isTooLongPath, decide_eq_false_iff_not, Nat.not_le]
  exact Iff.rfl

theorem locate_ok {p : Path} (h : locate d p = .ok l) :
    accept p = .ok () ∧ walk d [] p.segments = .ok l ∧
      (p.endsInSlash = true → d.entryAt? l = some .folder) := by
  unfold locate at h
  cases haccept : accept p with
  | error fault =>
      rw [haccept] at h
      cases h
  | ok u =>
      rw [haccept] at h
      dsimp only [follow] at h
      cases hwalk : walk d [] p.segments with
      | error fault =>
          rw [hwalk] at h
          cases h
      | ok m =>
          rw [hwalk] at h
          dsimp only at h
          split at h
          · cases h
          · rename_i hslash
            cases h
            refine ⟨rfl, rfl, ?_⟩
            intro hp
            rw [hp, Bool.true_and, Bool.not_eq_true', Bool.not_eq_false] at hslash
            exact Node.isFolderAt_iff.mp hslash

theorem location_of_locate {p : Path} (h : locate d p = .ok l) : l = p.location :=
  walk_ok (locate_ok h).2.1

theorem isFolder_iff {p : Path} :
    isFolder d p = true ↔ ∃ l, locate d p = .ok l ∧ d.entryAt? l = some .folder := by
  unfold isFolder
  cases locate d p with
  | error fault => simp
  | ok l => simp [Node.isFolderAt_iff]

theorem isFolder_eq_false_iff {p : Path} :
    isFolder d p = false ↔ ∀ l, locate d p = .ok l → d.entryAt? l ≠ some .folder := by
  rw [← Bool.not_eq_true, isFolder_iff]
  exact ⟨fun h l hl hfolder => h ⟨l, hl, hfolder⟩, fun h ⟨l, hl, hfolder⟩ => h l hl hfolder⟩

/-- What can be located after something was taken away could be located before. -/
theorem locate_of_sheds {p : Path} (h : Node.Sheds d e) (hlocate : locate e p = .ok l) :
    locate d p = .ok l := by
  obtain ⟨haccept, hwalk, hslash⟩ := locate_ok hlocate
  unfold locate follow
  rw [haccept]
  dsimp only
  rw [walk_of_sheds h hwalk]
  dsimp only
  refine if_neg ?_
  intro hbad
  rw [Bool.and_eq_true, Bool.not_eq_true'] at hbad
  have hfolder := h l _ (hslash hbad.1)
  rw [Node.isFolderAt_iff.mpr hfolder] at hbad
  cases hbad.2

/-! ### The last segment -/

theorem eq_dropLast_append {xs : List α} {last : α} (h : xs.getLast? = some last) :
    xs = xs.dropLast ++ [last] := by
  obtain ⟨front, rfl⟩ := List.getLast?_eq_some_iff.mp h
  rw [List.dropLast_concat]

theorem walkToFolder_eq_ok_iff :
    walkToFolder d segments = .ok l ↔ walk d [] segments = .ok l ∧ d.entryAt? l = some .folder := by
  unfold walkToFolder
  cases walk d [] segments with
  | error fault => simp
  | ok m =>
      simp only [Except.ok.injEq, ← Node.isFolderAt_iff]
      constructor
      · intro h
        split at h
        · rename_i hfolder
          cases h
          exact ⟨rfl, hfolder⟩
        · cases h
      · rintro ⟨rfl, hfolder⟩
        exact if_pos hfolder

/-- A place with a name is around the location that its segments lead to. -/
theorem placeOf_ok {folder : Location} {name : String} {slash slash' : Bool}
    (h : placeOf d segments slash = .ok ⟨folder, .name name, slash'⟩) :
    slash' = slash ∧ segments = segments.dropLast ++ [name] ∧ name ≠ "." ∧ name ≠ ".." ∧
      walk d [] segments.dropLast = .ok folder ∧ d.entryAt? folder = some .folder := by
  unfold placeOf at h
  cases hlast : segments.getLast? with
  | none =>
      rw [hlast] at h
      cases h
  | some segment =>
      rw [hlast] at h
      dsimp only at h
      cases hwalk : walkToFolder d segments.dropLast with
      | error fault =>
          rw [hwalk] at h
          cases h
      | ok m =>
          rw [hwalk] at h
          simp only [Except.ok.injEq, Place.mk.injEq] at h
          obtain ⟨rfl, hname, rfl⟩ := h
          obtain ⟨harrives, hfolder⟩ := walkToFolder_eq_ok_iff.mp hwalk
          unfold Last.ofSegment at hname
          split at hname
          · cases hname
          · rename_i hhere
            split at hname
            · cases hname
            · rename_i hup
              cases hname
              exact ⟨rfl, eq_dropLast_append hlast, hhere, hup, harrives, hfolder⟩

/-- A place with a name is around the location that its path can name. -/
theorem place_ok {p : Path} {folder : Location} {name : String} {slash : Bool}
    (h : place d p = .ok ⟨folder, .name name, slash⟩) :
    accept p = .ok () ∧ slash = p.endsInSlash ∧ p.segments = p.segments.dropLast ++ [name] ∧
      Path.IsName name ∧ walk d [] p.segments.dropLast = .ok folder ∧
      d.entryAt? folder = some .folder := by
  unfold place at h
  cases haccept : accept p with
  | error fault =>
      rw [haccept] at h
      cases h
  | ok u =>
      rw [haccept] at h
      obtain ⟨hslash, hsegments, hhere, hup, hwalk, hfolder⟩ := placeOf_ok h
      have hmem : name ∈ p.segments := by
        rw [hsegments]
        exact List.mem_append_right _ (List.mem_singleton.mpr rfl)
      exact ⟨rfl, hslash, hsegments, Path.isName_of_mem_segments hmem hhere hup, hwalk, hfolder⟩

theorem location_of_place {p : Path} {folder : Location} {name : String} {slash : Bool}
    (h : place d p = .ok ⟨folder, .name name, slash⟩) : p.location = folder ++ [.text name] := by
  obtain ⟨-, -, hsegments, hname, hwalk, -⟩ := place_ok h
  rw [Path.location, hsegments, List.foldl_append, ← walk_ok hwalk]
  exact Path.goTo_of_isName hname folder

/-- What can be located has a place. -/
theorem exists_place_of_locate {p : Path} (h : locate d p = .ok l) : ∃ found, place d p = .ok found := by
  obtain ⟨haccept, hwalk, -⟩ := locate_ok h
  unfold place placeOf
  rw [haccept]
  dsimp only
  cases hlast : p.segments.getLast? with
  | none => exact ⟨_, rfl⟩
  | some segment =>
      rw [eq_dropLast_append hlast, walk_concat] at hwalk
      cases hfolder : walk d [] p.segments.dropLast with
      | error fault =>
          rw [hfolder] at hwalk
          cases hwalk
      | ok m =>
          rw [hfolder] at hwalk
          rw [walkToFolder_eq_ok_iff.mpr ⟨hfolder, (step_eq_ok_iff.mp hwalk).1⟩]
          exact ⟨_, rfl⟩

/-- A path whose place holds nothing by its name cannot be located. -/
theorem locate_ne_ok_of_entryAt?_eq_none {p : Path} {folder : Location} {name : String}
    {slash : Bool} (h : place d p = .ok ⟨folder, .name name, slash⟩)
    (hnone : e.entryAt? (folder ++ [.text name]) = none) (l : Location) : locate e p ≠ .ok l := by
  intro hlocate
  obtain ⟨-, -, hsegments, hname, hwalk, -⟩ := place_ok h
  obtain ⟨-, hfound, -⟩ := locate_ok hlocate
  rw [hsegments, walk_concat] at hfound
  cases hfolder : walk e [] p.segments.dropLast with
  | error fault =>
      rw [hfolder] at hfound
      cases hfound
  | ok m =>
      rw [hfolder] at hfound
      obtain ⟨-, -, hdot | hup | ⟨-, hsome⟩⟩ := step_eq_ok_iff.mp hfound
      · exact hname.not_here hdot
      · exact hname.not_up hup
      · rw [walk_ok hfolder, ← walk_ok hwalk, hnone] at hsome
        cases hsome

/-- A path to something in a folder may be refused, but not as one that is missing. -/
theorem accept_join_error {folder : Path} {name : String} {fault : Fault}
    (hname : Path.IsName name)
    (h : accept (folder / name) = .error fault) : fault.saysMissing = false := by
  unfold accept at h
  split at h
  · cases h
    rfl
  split at h
  · rename_i hempty
    have hsegments : (folder / name).segments = folder.segments ++ [name] :=
      Path.segments_join_name hname
    rw [Path.segments_eq_partsOf, hempty] at hsegments
    exact absurd hsegments.symm (by simp [Path.partsOf_nil])
  split at h
  · cases h
    rfl
  · cases h

/-! ### Working in a folder -/

/-- A path leads to a folder, over folders. -/
structure Reaches (d : Node) (folder : Path) : Prop where
  walk : walk d [] folder.segments = .ok folder.location
  folders : ∀ l ∈ folder.road, d.entryAt? l = some .folder

namespace Reaches

variable {folder : Path} {name : String}

theorem folder_location (h : Reaches d folder) : d.entryAt? folder.location = some .folder :=
  h.folders _ (Path.location_mem_road folder)

theorem walkToFolder_eq (h : Reaches d folder) :
    walkToFolder d folder.segments = .ok folder.location :=
  walkToFolder_eq_ok_iff.mpr ⟨h.walk, h.folder_location⟩

theorem of_walk (h : Disk.walk d [] folder.segments = .ok l) (hl : d.entryAt? l = some .folder) :
    Reaches d folder :=
  ⟨by rw [h, walk_ok h, Path.location], folder_of_mem_passed h hl⟩

/-- A folder can still be reached if everything on the road is still a folder. -/
theorem congr (h : Reaches d folder) (he : ∀ l ∈ folder.road, e.entryAt? l = some .folder) :
    Reaches e folder := by
  refine ⟨?_, he⟩
  rw [← h.walk]
  exact walk_congr fun l hl => (he l hl).trans (h.folders l hl).symm

/-- Where a change does not turn a folder of the road into something else, the path still leads to
its folder. -/
theorem of_agree {touched : Location → Prop}
    (h : Reaches d folder) (hagree : Node.AgreeOff touched e d)
    (hroad : ∀ l ∈ folder.road, touched l → e.entryAt? l = some .folder) : Reaches e folder := by
  refine h.congr ?_
  intro l hl
  by_cases htouched : touched l
  · exact hroad l hl htouched
  · rw [hagree l htouched]
    exact h.folders l hl

/-- No file is on the road to a folder. -/
theorem remove_file {above : Location} {other : EntryName} {f : File} (h : Reaches d folder)
    (hfile : d.entryAt? (above ++ [other]) = some (.file f)) :
    Reaches (d.remove (above ++ [other])) folder := by
  refine h.of_agree (.remove_file hfile) ?_
  intro l hl hremoved
  have hfolder := h.folders l hl
  rw [hremoved, hfile] at hfolder
  cases hfolder

/-- A path over folders goes on to a folder in the last of them. -/
theorem join (hname : Path.IsName name)
    (h : Reaches d folder) (hlong : isTooLong name = false)
    (hfolder : d.entryAt? (folder.location ++ [.text name]) = some .folder) :
    Reaches d (folder / name) := by
  constructor
  · rw [Path.segments_join_name hname, walk_concat, h.walk, Path.location_join_name hname,
      ← Path.goTo_of_isName hname]
    refine step_eq_ok_iff.mpr ⟨h.folder_location, rfl, .inr (.inr ⟨hlong, ?_⟩)⟩
    rw [hfolder]
    rfl
  · intro l hl
    rw [Path.road_join_name hname] at hl
    rcases List.mem_append.mp hl with hl | hl
    · exact h.folders l hl
    · rw [List.mem_singleton.mp hl]
      exact hfolder

theorem of_isFolder (h : isFolder d folder = true) : Reaches d folder := by
  obtain ⟨l, hl, hfolder⟩ := isFolder_iff.mp h
  exact of_walk (locate_ok hl).2.1 hfolder

/-- The way to a folder leads over the folders that it is in. -/
theorem of_join (hname : Path.IsName name) (h : Reaches d (folder / name)) : Reaches d folder := by
  have hfolders : ∀ l ∈ folder.road, d.entryAt? l = some .folder := fun l hl => by
    refine h.folders l ?_
    rw [Path.road_join_name hname]
    exact List.mem_append_left _ hl
  have hwalk := h.walk
  rw [Path.segments_join_name hname, walk_concat] at hwalk
  cases hfolder : Disk.walk d [] folder.segments with
  | error fault =>
      rw [hfolder] at hwalk
      cases hwalk
  | ok l =>
      obtain rfl : l = folder.location := walk_ok hfolder
      exact ⟨hfolder, hfolders⟩

/-- Where something in a folder is placed, once the folder is reached. -/
theorem place_eq (hname : Path.IsName name) (h : Reaches d folder) :
    place d (folder / name) = match accept (folder / name) with
      | .ok () => .ok ⟨folder.location, .name name, false⟩
      | .error fault => .error fault := by
  unfold place placeOf
  cases accept (folder / name) with
  | error fault => rfl
  | ok u =>
      rw [Path.segments_join_name hname, List.getLast?_concat, List.dropLast_concat, h.walkToFolder_eq,
        Path.not_endsInSlash_join_name hname]
      dsimp only
      rw [Last.ofSegment, if_neg hname.not_here, if_neg hname.not_up]

theorem locate_eq (hname : Path.IsName name) (h : Reaches d folder) :
    locate d (folder / name) = match accept (folder / name) with
      | .ok () =>
        if isTooLong name then .error .nameTooLong
        else if (d.entryAt? (folder.location ++ [.text name])).isSome then
          .ok (folder.location ++ [.text name])
        else .error .noEntry
      | .error fault => .error fault := by
  unfold locate follow
  rw [Path.segments_join_name hname, walk_concat, h.walk, Path.not_endsInSlash_join_name hname]
  dsimp only
  rw [step_eq, h.folder_location]
  dsimp only
  rw [if_neg hname.not_here, if_neg hname.not_up]
  cases accept (folder / name) with
  | error fault => rfl
  | ok u =>
      cases isTooLong name with
      | true => rfl
      | false => cases (d.entryAt? (folder.location ++ [.text name])).isSome <;> rfl

/-- Whoever has found a place in a folder has reached the folder. -/
theorem of_place {found : Place} (hname : Path.IsName name)
    (h : place d (folder / name) = .ok found) : Reaches d folder := by
  unfold place placeOf at h
  rw [Path.segments_join_name hname, List.getLast?_concat, List.dropLast_concat] at h
  cases haccept : accept (folder / name) with
  | error fault =>
      rw [haccept] at h
      cases h
  | ok u =>
      rw [haccept] at h
      dsimp only at h
      cases hwalk : walkToFolder d folder.segments with
      | error fault =>
          rw [hwalk] at h
          cases h
      | ok m =>
          obtain ⟨harrives, hfolder⟩ := walkToFolder_eq_ok_iff.mp hwalk
          exact of_walk harrives hfolder

/-- What can be located in a folder shows that the folder is reached. -/
theorem of_locate (hname : Path.IsName name) (h : locate d (folder / name) = .ok l) :
    Reaches d folder := by
  obtain ⟨found, hfound⟩ := exists_place_of_locate h
  exact .of_place hname hfound

/-- A folder that is reached with less on the disk is reached with more. -/
theorem of_sheds (h : Node.Sheds d e) (he : Reaches e folder) : Reaches d folder :=
  ⟨walk_of_sheds h he.walk, fun l hl => h l _ (he.folders l hl)⟩

/-- Nothing changes for a folder that is reached if one location changes, and a folder stays one. -/
theorem change (h : Reaches d folder) (hagree : Node.AgreeOff (· = l) e d)
    (hfolder : d.entryAt? l = some .folder → e.entryAt? l = some .folder) : Reaches e folder := by
  refine h.of_agree hagree ?_
  rintro _ hl rfl
  exact hfolder (h.folders _ hl)

end Reaches

theorem entryAt?_of_locate {folder : Path} {name : String} (hname : Path.IsName name)
    (h : locate d (folder / name) = .ok l) : d.entryAt? (folder.location ++ [.text name]) ≠ none := by
  intro hnone
  rw [(Reaches.of_locate hname h).locate_eq hname, hnone] at h
  split at h
  · split at h <;> cases h
  · cases h

/-! ### Files -/

/-- A path that leads to a file. -/
structure FileAt (d : Node) (p : Path) (f : File) : Prop where
  locate : locate d p = .ok p.location
  entry : d.entryAt? p.location = some (.file f)

/-- A file is there as long as its entry is and its folder is reached. -/
theorem FileAt.keep {folder : Path} {name : String} {f : File} (hname : Path.IsName name)
    (h : FileAt d (folder / name) f) (he : Reaches e folder)
    (hentry : e.entryAt? (folder.location ++ [.text name]) =
      d.entryAt? (folder.location ++ [.text name])) :
    FileAt e (folder / name) f := by
  have hd : Reaches d folder := .of_locate hname h.locate
  constructor
  · rw [he.locate_eq hname, hentry, ← hd.locate_eq hname]
    exact h.locate
  · rw [Path.location_join_name hname, hentry, ← Path.location_join_name hname]
    exact h.entry

end Disk

end ReleasePipeline
