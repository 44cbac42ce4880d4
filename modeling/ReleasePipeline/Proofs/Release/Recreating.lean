import ReleasePipeline.Proofs.Release.Pruning
import ReleasePipeline.Proofs.Release.StepsAlike

/-!
# ReleasePipeline.Proofs.Release.Recreating

What making the staging folder anew does to a disk, for every path that has a place
(`Disk.HasPlace`) and whatever is there. Where nothing is in the way the folder is made, and it is
empty. A file is refused, and so is whatever is named by a path that is too long; then nothing has
changed. A path that leads through the folder itself has lost its place when the folder is to be
made again. The three endings together decide when it succeeds
(`Pipeline.exists_recreateFolder_ok_iff`).
-/

namespace ReleasePipeline

open Disk Node

namespace Pipeline

open Stage ReleasePipeline.Path

variable {w : Workspace} {d : Node} {m₀ : σ} {p : Path} {parent : Location} {name : String}

/-! ### How it ends -/

/-- A folder that its own path crosses is removed and cannot be made again. -/
theorem recreateFolder_cut_off (h : HasPlace d p parent name) (hshort : isTooLongPath p = false)
    (hcross : p.CrossesItself) :
    Runs w (fun c m => c = d ∧ m = m₀) (recreateFolder p) (fun _ _ _ => False)
      fun cause e _ => cause = .diskFailed "create" p .noEntry ∧
        ∀ name below, e.entryAt? (p.location ++ name :: below) = none := by
  obtain ⟨e, hrun, hcleared⟩ :=
    h.removeTree_folder hshort (h.entryAt?_of_crossesItself hcross)
  refine .recreateFolder_of_cleared (.inl hrun) (.attempt ?_)
  intro c m hc
  obtain ⟨rfl, -⟩ := hc
  rw [makeFolder_eq, hcleared.cut_off hcross]
  exact ⟨rfl, hcleared.below⟩

section

variable {s : Session σ}

theorem recreateFolder_of_free (h : HasPlace s.bench.disk p parent name)
    (hshort : isTooLongPath p = false)
    (hfree : s.bench.disk.entryAt? p.location = none ∨
      s.bench.disk.entryAt? p.location = some .folder ∧ ¬p.CrossesItself) :
    ∃ t, recreateFolder p s = .ok () t ∧ isFolder t.bench.disk p = true ∧
      ∀ other below, t.bench.disk.entryAt? (p.location ++ other :: below) = none := by
  obtain ⟨_, t, hrun, hmade⟩ := (Runs.recreateFolder_makes h hshort hfree).exists_ok rfl ⟨rfl, rfl⟩
  exact ⟨t, hrun, hmade⟩

/-- What cannot be removed stays as it is. -/
theorem recreateFolder_of_removeTree_error {fault : Fault}
    (hremove : removeTree p s.bench.disk = .error fault s.bench.disk)
    (hmissing : fault.saysMissing = false) :
    ∃ t, recreateFolder p s = .error (.diskFailed "remove" p fault) t ∧
      t.bench.disk = s.bench.disk := by
  obtain ⟨_, t, hrun, rfl, hdisk, -⟩ :=
    (Runs.recreateFolder_error hremove hmissing).exists_error rfl ⟨rfl, rfl⟩
  exact ⟨t, hrun, hdisk⟩

theorem recreateFolder_of_crossesItself (h : HasPlace s.bench.disk p parent name)
    (hshort : isTooLongPath p = false) (hcross : p.CrossesItself) :
    ∃ t, recreateFolder p s = .error (.diskFailed "create" p .noEntry) t ∧
      ∀ other below, t.bench.disk.entryAt? (p.location ++ other :: below) = none := by
  obtain ⟨_, t, hrun, rfl, hbelow⟩ :=
    (recreateFolder_cut_off h hshort hcross).exists_error rfl ⟨rfl, rfl⟩
  exact ⟨t, hrun, hbelow⟩

/-- The path and the entry that it names decide on success. -/
theorem exists_recreateFolder_ok_iff (h : HasPlace s.bench.disk p parent name) :
    (∃ t, recreateFolder p s = .ok () t) ↔
      isTooLongPath p = false ∧ (s.bench.disk.entryAt? p.location = none ∨
        s.bench.disk.entryAt? p.location = some .folder ∧ ¬p.CrossesItself) := by
  constructor
  · intro hok
    obtain ⟨t, hok⟩ := hok
    have hno : ∀ failure t', recreateFolder p s ≠ .error failure t' := by
      rw [hok]
      exact nofun
    cases hlong : isTooLongPath p with
    | true =>
        obtain ⟨t', hrun, -⟩ := recreateFolder_of_removeTree_error (h.removeTree_tooLong hlong) rfl
        exact absurd hrun (hno _ t')
    | false =>
        refine ⟨rfl, ?_⟩
        by_cases hcross : p.CrossesItself
        · obtain ⟨t', hrun, -⟩ := recreateFolder_of_crossesItself h hlong hcross
          exact absurd hrun (hno _ t')
        cases hentry : s.bench.disk.entryAt? p.location with
        | none => exact .inl rfl
        | some entry =>
            cases entry with
            | folder => exact .inr ⟨rfl, hcross⟩
            | file f =>
                obtain ⟨t', hrun, -⟩ :=
                  recreateFolder_of_removeTree_error (h.removeTree_file hlong hentry) rfl
                exact absurd hrun (hno _ t')
  · intro hfree
    obtain ⟨t, hrun, -⟩ := recreateFolder_of_free h hfree.1 hfree.2
    exact ⟨t, hrun⟩

/-- However it ends, nothing is changed outside the folder. -/
theorem recreateFolder_outside (p : Path) (s : Session σ) :
    AgreeOff (p.location <+: ·) (sessionAfter (recreateFolder p) s).bench.disk s.bench.disk := by
  have hruns : Runs s.workspace (fun c (_ : σ) => c = s.bench.disk) (recreateFolder p)
      (fun _ e _ => AgreeOff (p.location <+: ·) e s.bench.disk)
      fun _ e _ => AgreeOff (p.location <+: ·) e s.bench.disk := by
    refine .recreateFolder ?_ ?_
    · intro c m e hc hrecreated
      exact hc ▸ hrecreated.agree
    · intro _ c m e hc hthinned
      exact hc ▸ hthinned.agree
  exact (hruns.sessionAfter s rfl rfl).2

end

/-! ### The main statement -/

/-- All there is to say about making a folder anew at a place. -/
structure RecreatesExactly (p : Path) (parent : Location) (name : String) (s : Session σ) :
    Prop where
  /-- It succeeds exactly if the path is not too long and nothing is there, or a folder that the
  path does not cross. -/
  ok_iff : (∃ t, recreateFolder p s = .ok () t) ↔
    isTooLongPath p = false ∧ (s.bench.disk.entryAt? p.location = none ∨
      s.bench.disk.entryAt? p.location = some .folder ∧ ¬p.CrossesItself)
  /-- Then the path names a folder with nothing in it. -/
  made : ∀ t, recreateFolder p s = .ok () t → isFolder t.bench.disk p = true ∧
    ∀ other below, t.bench.disk.entryAt? (p.location ++ other :: below) = none
  /-- A file is refused and stays. -/
  file : ∀ f, isTooLongPath p = false → s.bench.disk.entryAt? p.location = some (.file f) →
    ∃ t, recreateFolder p s = .error (.diskFailed "remove" p .notFolder) t ∧
      t.bench.disk = s.bench.disk
  /-- So does whatever a path names that is too long. -/
  too_long : isTooLongPath p = true →
    ∃ t, recreateFolder p s = .error (.diskFailed "remove" p .nameTooLong) t ∧
      t.bench.disk = s.bench.disk
  /-- A folder that the path crosses is emptied and cannot be made again. -/
  cut_off : isTooLongPath p = false → p.CrossesItself →
    ∃ t, recreateFolder p s = .error (.diskFailed "create" p .noEntry) t ∧
      ∀ other below, t.bench.disk.entryAt? (p.location ++ other :: below) = none
  outside : AgreeOff (p.location <+: ·) (sessionAfter (recreateFolder p) s).bench.disk s.bench.disk
  /-- What is beside the folder stays, whatever its name starts with. -/
  beside : ∀ (other : EntryName) below, other ≠ name →
    (sessionAfter (recreateFolder p) s).bench.disk.entryAt? (parent ++ other :: below) =
      s.bench.disk.entryAt? (parent ++ other :: below)

/-- **Making a folder anew is complete and local.** At a place in a folder, whatever is there, it
succeeds exactly if nothing is in the way, and leaves an empty folder then. Otherwise a file is
refused and stays, or the folder is lost that its own path led through. Nothing beside the folder
changes in any case. -/
theorem recreateFolder_exact {s : Session σ} (h : HasPlace s.bench.disk p parent name) :
    RecreatesExactly p parent name s := by
  constructor
  case ok_iff => exact exists_recreateFolder_ok_iff h
  case made =>
    intro t hok
    obtain ⟨hshort, hfree⟩ := (exists_recreateFolder_ok_iff h).mp ⟨t, hok⟩
    obtain ⟨t', hrun, hmade⟩ := recreateFolder_of_free h hshort hfree
    cases hok.symm.trans hrun
    exact hmade
  case file =>
    intro f hshort hfile
    exact recreateFolder_of_removeTree_error (h.removeTree_file hshort hfile) rfl
  case too_long =>
    intro hlong
    exact recreateFolder_of_removeTree_error (h.removeTree_tooLong hlong) rfl
  case cut_off =>
    intro hshort hcross
    exact recreateFolder_of_crossesItself h hshort hcross
  case outside => exact recreateFolder_outside p s
  case beside =>
    intro other below hother
    refine recreateFolder_outside p s _ ?_
    rw [h.location_eq]
    exact not_prefix_of_ne hother.symm

end Pipeline

/-! ### Folders and paths to them -/

namespace PlainTools

/-- A project with a filled staging folder, and beside it what has a name that starts alike. -/
def stagingDisk : Node :=
  .folder [("project", .folder [
    ("archive-root", .folder [("old.dll", .file { content := [1] }),
      ("imageformats", .folder [("qsvg.dll", .file { content := [2] })])]),
    ("archive-root-old", .folder [("kept.dll", .file { content := [3] })]),
    ("archive-root.7z", .file { content := [4] })])]

end PlainTools

namespace Pipeline

open Stage ReleasePipeline.Path PlainTools

theorem recreateFolder_exact_of_staging :
    let s := sessionIn "/project" stagingDisk
    let staging := (⟨"/project"⟩ : Path) / stagingFolder
    HasPlace stagingDisk staging ["project"] stagingFolder ∧
      RecreatesExactly staging ["project"] stagingFolder s ∧
      ∃ t, recreateFolder staging s = .ok () t := by
  have hplace : HasPlace stagingDisk ((⟨"/project"⟩ : Path) / stagingFolder) ["project"]
      stagingFolder := .of_isFolder (by decide +kernel) (by decide)
  have hexact : RecreatesExactly ((⟨"/project"⟩ : Path) / stagingFolder) ["project"] stagingFolder
      (sessionIn "/project" stagingDisk) := recreateFolder_exact hplace
  exact ⟨hplace, hexact, hexact.ok_iff.mpr ⟨by decide, .inr ⟨by decide, by decide⟩⟩⟩

/-- Two paths by which a folder cannot be made anew, though a folder or nothing is there: one leads
through the folder itself, the other is too long. -/
theorem recreating_depends_on_path :
    let s := sessionIn "/project" stagingDisk
    let crossing := (⟨"/project/archive-root/.."⟩ : Path) / stagingFolder
    let t := sessionIn "/project" pluginDisk
    let long := dotted 2037 / stagingFolder
    (HasPlace s.bench.disk crossing ["project"] stagingFolder ∧
        ¬((∃ s', recreateFolder crossing s = .ok () s') ↔
          s.bench.disk.entryAt? crossing.location = none ∨ isFolder s.bench.disk crossing = true)) ∧
      HasPlace t.bench.disk long ["project", "imageformats"] stagingFolder ∧
        ¬((∃ t', recreateFolder long t = .ok () t') ↔
          t.bench.disk.entryAt? long.location = none ∨ isFolder t.bench.disk long = true) := by
  have hcrossing : HasPlace stagingDisk ((⟨"/project/archive-root/.."⟩ : Path) / stagingFolder)
      ["project"] stagingFolder := .of_isFolder (by decide +kernel) (by decide)
  have hlong : HasPlace pluginDisk (dotted 2037 / stagingFolder) ["project", "imageformats"]
      stagingFolder := by
    rw [← dotted_location 2037]
    exact .of_isFolder (isFolder_dotted (by decide)) (by decide)
  refine ⟨⟨hcrossing, fun hiff => ?_⟩, hlong, fun hiff => ?_⟩
  · obtain ⟨-, hfree⟩ := (exists_recreateFolder_ok_iff (s := sessionIn "/project" stagingDisk)
      hcrossing).mp (hiff.mpr (.inr (by decide +kernel)))
    exact absurd hfree (by decide)
  · have hnone : pluginDisk.entryAt? (dotted 2037 / stagingFolder).location = none := by
      rw [hlong.location_eq]
      decide
    obtain ⟨hshort, -⟩ := (exists_recreateFolder_ok_iff (s := sessionIn "/project" pluginDisk)
      hlong).mp (hiff.mpr (.inl hnone))
    obtain ⟨hne, hslash⟩ := dotted_joinable 2037
    have hshort := isTooLongPath_eq_false_iff.mp hshort
    rw [text_join hne hslash (by decide), String.utf8ByteSize_append, String.utf8ByteSize_append,
      size_dotted] at hshort
    exact absurd hshort (by decide)

end Pipeline

end ReleasePipeline
