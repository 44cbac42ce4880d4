import Mathlib.Data.List.Nodup
import ReleasePipeline.Proofs.Build.History
import ReleasePipeline.Proofs.Disk.Emptying
import ReleasePipeline.Proofs.Job.BuildFolder

/-!
# ReleasePipeline.Proofs.Build.ProperChild

Where the build folder is: in the current folder, whatever texts the job is made of. Its name is one
plain component of a path, so the path of the build folder is that of the current folder with one
component more, and `..` leads from the one folder to the other. That is how CMake finds the
project, and it finds the right one because the build folder is a folder when CMake is called
(`build_configures`).

The folder is out of the way of all other files that the pipeline works with, those of other jobs
included (`Job.namesBeside`).
-/

namespace ReleasePipeline

open Disk Node

namespace Path

/-- The components of the folder around the last component of a path. There is none around a root,
and none around nothing. -/
def parent? (p : Path) : Option (List Component) :=
  match p.components.getLast? with
  | none | some .root => none
  | some _ => some p.components.dropLast

theorem parent?_join_name {folder : Path} {name : String} (h : IsName name) :
    (folder / name).parent? = some folder.components := by
  rw [parent?, components_join_name h, List.getLast?_concat, List.dropLast_concat]

theorem components_of_isName {name : String} (h : IsName name) :
    (Path.mk name).components = [.name name] := by
  -- A name is what comes of joining it to the empty path.
  have hempty : (⟨""⟩ : Path) / (⟨name⟩ : Path) = ⟨name⟩ := by
    rw [join_of_not_isAbsolute h.not_isAbsolute, if_pos (.inl rfl), String.empty_append]
  rw [← hempty]
  exact components_join_name h

end Path

/-! ### The way up -/

namespace Disk

variable {d : Node} {folder : Path} {name : String}

/-- The system takes the path of a folder if it takes that of something in it. -/
theorem accept_of_join (hname : Path.IsName name) (hfolder : folder.isAbsolute = true)
    (h : accept (folder / name) = .ok ()) : accept folder = .ok () := by
  obtain ⟨hnul, -, hshort⟩ := accept_ok h
  obtain ⟨rest, hrest⟩ : ∃ rest, (folder / name).text = folder.text ++ rest := by
    change ∃ rest, (folder / (⟨name⟩ : Path)).text = folder.text ++ rest
    rw [Path.join_of_not_isAbsolute hname.not_isAbsolute]
    split
    · exact ⟨_, rfl⟩
    · exact ⟨_, String.append_assoc⟩
  have hne : folder.text.toList ≠ [] := by
    intro hnil
    rw [Path.isAbsolute, hnil] at hfolder
    cases hfolder
  have hnul' : hasNul folder = false := by
    simp only [hasNul, hrest, String.toList_append, List.contains_eq_mem, List.mem_append,
      decide_eq_false_iff_not, not_or] at hnul ⊢
    exact hnul.1
  have hshort' : isTooLongPath folder = false := by
    rw [isTooLongPath_eq_false_iff, hrest, String.utf8ByteSize_append] at hshort
    exact isTooLongPath_eq_false_iff.mpr (by omega)
  unfold accept
  rw [hnul', hshort', if_neg Bool.false_ne_true, if_neg hne, if_neg Bool.false_ne_true]

/-- A folder is located by its path if something in it is. -/
theorem locate_of_isFolder_join (hname : Path.IsName name) (hfolder : folder.isAbsolute = true)
    (h : isFolder d (folder / name) = true) : locate d folder = .ok folder.location := by
  obtain ⟨l, hl, -⟩ := isFolder_iff.mp h
  have hreaches : Reaches d folder := .of_join hname (.of_isFolder h)
  rw [locate, accept_of_join hname hfolder (locate_ok hl).1]
  dsimp only
  rw [follow, hreaches.walk]
  dsimp only
  rw [Node.isFolderAt_iff.mpr hreaches.folder_location, Bool.not_true, Bool.and_false]
  rfl

/-- From a folder in it, `..` leads to the folder. -/
theorem locateFrom_up (hname : Path.IsName name) (h : isFolder d (folder / name) = true) :
    locateFrom d (folder / name) ⟨".."⟩ = .ok folder.location := by
  have hreaches := Reaches.of_isFolder h
  have hup : (Path.mk "..").isAbsolute = false := by decide
  have hslash : (folder / name / (⟨".."⟩ : Path)).endsInSlash = false := by
    obtain ⟨front, hfront⟩ := Path.exists_text_join (folder / name) ⟨".."⟩
    rw [Path.endsInSlash, hfront, Job.getLast?_append (c := '.') (by decide)]
    decide
  have hwalk : walk d [] (folder / name / (⟨".."⟩ : Path)).segments = .ok folder.location := by
    rw [Path.segments_join hup, show (Path.mk "..").segments = [".."] by decide, walk_concat,
      hreaches.walk]
    refine step_eq_ok_iff.mpr ⟨hreaches.folder_location, ?_, .inr (.inl rfl)⟩
    rw [Path.location_join_name hname]
    exact List.dropLast_concat
  change follow d (folder / name / (⟨".."⟩ : Path)) = _
  rw [follow, hwalk, hslash]
  rfl

end Disk

/-! ### Configuring -/

/-- A call that is made in a folder and is given `..`, which leads to where a path leads at that
moment, and there is a folder. -/
structure ConfiguresAbove (cwd folder : Path) (x : Sighting) : Prop where
  folder_eq : x.call.folder = folder
  source : x.call.args.head? = some ".."
  leads : ∃ l, locateFrom x.before x.call.folder ⟨".."⟩ = .ok l ∧ locate x.before cwd = .ok l ∧
    x.before.entryAt? l = some .folder

namespace Pipeline

open Stage

/-- The calls of a build are CMake's in front, and one of Ninja. -/
theorem build_calls_begin (pipeline : Pipeline σ) (s : Session σ)
    (hcwd : s.workspace.cwd.isAbsolute = true) :
    ∃ compilers, (pipeline.afterBuild s).bench.memory.seen.map Sighting.call <+:
      pipeline.job.buildPlan s.workspace.cwd compilers := by
  rw [afterBuild]
  cases hcompilers : pipeline.compilersOn s.bench.disk s.workspace.cwd with
  | ok compilers => exact ⟨compilers, (build_follows hcwd hcompilers).calls_begin⟩
  | error failure =>
      obtain ⟨t, hrun, hseen⟩ := build_of_compilersOn_error hcwd hcompilers
      rw [sessionAfter, hrun]
      exact ⟨⟨⟨""⟩, ⟨""⟩⟩, hseen ▸ List.nil_prefix⟩

/-- When CMake is called, the build folder is there, and `..` is the current folder. -/
theorem build_configures (pipeline : Pipeline σ) (s : Session σ)
    (hcwd : s.workspace.cwd.isAbsolute = true) {x : Sighting}
    (hx : x ∈ (pipeline.afterBuild s).bench.memory.seen) (hprogram : x.call.program = "cmake") :
    ConfiguresAbove s.workspace.cwd (s.workspace.cwd / pipeline.job.buildFolder) x := by
  obtain ⟨compilers, hbegins⟩ := pipeline.build_calls_begin s hcwd
  obtain ⟨-, prepared, -, hworked⟩ := pipeline.build_account s hcwd
  rw [← afterBuild] at hworked
  generalize (pipeline.afterBuild s).bench.memory.seen = seen at hx hbegins hworked
  generalize (pipeline.afterBuild s).bench.disk = final at hworked
  obtain ⟨hlinked, -, hentered⟩ := hworked
  have hname := pipeline.job.isName_buildFolder
  cases hlinked with
  | nil => cases hx
  | @cons first rest _ hrest =>
      have hthere := hentered (List.cons_ne_nil first rest)
      rw [Job.buildPlan, List.map_cons, List.cons_prefix_cons] at hbegins
      obtain ⟨hfirst, hsecond⟩ := hbegins
      -- What comes after the first call is no call of CMake.
      obtain rfl : x = first := by
        rcases List.mem_cons.mp hx with heq | hmem
        · exact heq
        · have hcall := hsecond.subset (List.mem_map_of_mem hmem)
          rw [List.mem_singleton.mp hcall] at hprogram
          exact absurd hprogram (show "ninja" ≠ "cmake" by decide)
      have hreaches : Reaches x.before s.workspace.cwd := .of_join hname (.of_isFolder hthere)
      refine ⟨by rw [hfirst], by rw [hfirst]; rfl, s.workspace.cwd.location, ?_, ?_, ?_⟩
      · rw [hfirst]
        exact locateFrom_up hname hthere
      · exact locate_of_isFolder_join hname hcwd hthere
      · exact hreaches.folder_location

end Pipeline

/-! ### Out of the way -/

namespace Job

/-- The names in the current folder that belong to a build of one job and a release of another. -/
def namesBeside (job other : Job) : List String :=
  [job.buildFolder, "archive-root", "cmake_user_begin.cmake"] ++ other.publishedNames

variable {job other : Job}

theorem nodup_publishedNames (job : Job) : job.publishedNames.Nodup := by
  have hmap : job.publishedNames = [".7z", ".pdb.7z", ".pdb"].map (job.archiveName ++ ·) := rfl
  rw [hmap]
  exact List.Nodup.map (fun _ _ h => (String.append_right_inj _).mp h) (by decide)

theorem nodup_namesBeside (job other : Job) : (job.namesBeside other).Nodup := by
  -- The names of the first list differ in their first characters, and none of them is an `e`.
  have hheads : [job.buildFolder, "archive-root", "cmake_user_begin.cmake"].map
      (·.toList.head?) = [some 'b', some 'a', some 'c'] := by
    rw [List.map_cons, head_buildFolder]
    rfl
  have hapart : ∀ name ∈ [job.buildFolder, "archive-root", "cmake_user_begin.cmake"],
      ∀ published ∈ other.publishedNames, name ≠ published := by
    rintro name hname _ hpublished rfl
    have hhead := List.mem_map_of_mem (f := (·.toList.head?)) hname
    rw [hheads, head_of_mem_publishedNames hpublished] at hhead
    exact absurd hhead (by decide)
  refine List.nodup_append.mpr ⟨.of_map (·.toList.head?) ?_, nodup_publishedNames other, hapart⟩
  rw [hheads]
  decide

theorem isName_of_mem_namesBeside (hplain : other.HasPlainNames) {name : String}
    (h : name ∈ job.namesBeside other) : Path.IsName name := by
  rcases List.mem_append.mp h with h | h
  · simp only [List.mem_cons, List.not_mem_nil, or_false] at h
    rcases h with rfl | rfl | rfl
    · exact job.isName_buildFolder
    · decide
    · decide
  · exact isName_of_mem_publishedNames hplain h

/-- An archive of a job is never one of debug symbols of a job, compressed or not. -/
theorem application_ne_symbols (job other : Job) :
    job.archiveName ++ ".7z" ≠ other.archiveName ++ ".pdb.7z" ∧
      job.archiveName ++ ".7z" ≠ other.archiveName ++ ".pdb" := by
  refine ⟨archiveName_append_ne job other, fun heq => ?_⟩
  have hz : (job.archiveName ++ ".7z").toList.getLast? = some 'z' := getLast?_append (by decide)
  have hb : (other.archiveName ++ ".pdb").toList.getLast? = some 'b' := getLast?_append (by decide)
  rw [heq, hb] at hz
  cases hz

theorem utf8ByteSize_buildFolder (job : Job) :
    job.buildFolder.utf8ByteSize = 7 + job.name.length + job.configuration.length := by
  have hprefix : "build-".utf8ByteSize = 6 := by decide
  have hdash : "-".length = 1 := by decide
  have hsafe : ∀ c ∈ job.label.toList.map Text.sanitizeChar, Text.IsNameChar c := by
    rw [← Text.toList_sanitize]
    exact fun c => Text.isNameChar_of_mem_sanitize
  rw [buildFolder_eq, String.utf8ByteSize_append, hprefix, Text.sanitize,
    Text.utf8ByteSize_ofList hsafe, List.length_map, String.length_toList, label,
    String.length_append, String.length_append, hdash]
  omega

/-- What is said of the place of a job's build folder. The name is a plain component that starts
with `build-` and has a byte for each character. In whichever folder it is, that folder is the one around
it, and CMake is called there to configure that folder. It is none of the other files that the
pipeline works with, and neither in one of them nor around one. -/
structure HasProperFolder (job : Job) : Prop where
  chars : ∀ c ∈ job.buildFolder.toList, Text.IsNameChar c
  starts : ∃ rest, job.buildFolder = "build-" ++ rest
  size : job.buildFolder.utf8ByteSize = 7 + job.name.length + job.configuration.length
  name : Path.IsName job.buildFolder
  component : (Path.mk job.buildFolder).components = [.name job.buildFolder]
  parent : ∀ cwd : Path, (cwd / job.buildFolder).parent? = some cwd.components
  configured : ∀ {σ : Type} (pipeline : Pipeline σ) (s : Session σ), pipeline.job = job →
    s.workspace.cwd.isAbsolute = true → ∀ x ∈ (pipeline.afterBuild s).bench.memory.seen,
      x.call.program = "cmake" →
        ConfiguresAbove s.workspace.cwd (s.workspace.cwd / job.buildFolder) x
  distinct : ∀ other : Job, (job.namesBeside other).Nodup
  apart : ∀ other : Job, other.HasPlainNames → ∀ cwd : Path,
    (job.namesBeside other).Pairwise fun (a b : String) =>
      ¬(cwd / a).location <+: (cwd / b).location ∧ ¬(cwd / b).location <+: (cwd / a).location
  releases : ∀ other : Job, job.archiveName ++ ".7z" ≠ other.archiveName ++ ".pdb.7z" ∧
    job.archiveName ++ ".7z" ≠ other.archiveName ++ ".pdb"

/-- **The build folder is a proper child of the current folder,** for every text that a job may be
named by, and it is clear of all other files. -/
theorem buildFolder_properChild (job : Job) : job.HasProperFolder where
  chars c hc := by
    rw [buildFolder] at hc
    exact Text.isNameChar_of_mem_sanitize hc
  starts := ⟨_, job.buildFolder_eq⟩
  size := job.utf8ByteSize_buildFolder
  name := job.isName_buildFolder
  component := Path.components_of_isName job.isName_buildFolder
  parent cwd := Path.parent?_join_name job.isName_buildFolder
  configured pipeline s hjob hcwd x hx hprogram := by
    subst hjob
    exact pipeline.build_configures s hcwd hx hprogram
  distinct other := nodup_namesBeside job other
  apart other hplain cwd := by
    refine (nodup_namesBeside job other).imp_of_mem ?_
    intro a b ha hb hne
    rw [Path.location_join_name (isName_of_mem_namesBeside hplain ha),
      Path.location_join_name (isName_of_mem_namesBeside hplain hb)]
    exact ⟨not_prefix_of_text_ne hne, not_prefix_of_text_ne hne.symm⟩
  releases other := application_ne_symbols job other

end Job

/-! ### A job that is no name -/

namespace PlainTools

/-- A pipeline for a job with a way out of the project for a name. -/
def unnameable : Pipeline Unit :=
  { headerless (some "/bin/cc") (some "/bin/cc") with
    job := { (headerless (some "/bin/cc") (some "/bin/cc")).job with
      name := "../..", configuration := "\x00/é" } }

end PlainTools

namespace Job

open PlainTools

theorem buildFolder_properChild_of_unnameable :
    let s := sessionIn "/bin/../project" hookedDisk
    (s.workspace.cwd.isAbsolute = true ∧ (headerless none none).job.HasPlainNames ∧
        ∃ x ∈ (unnameable.afterBuild s).bench.memory.seen, x.call.program = "cmake") ∧
      unnameable.job.HasProperFolder ∧
      ∃ x ∈ (unnameable.afterBuild s).bench.memory.seen,
        ConfiguresAbove ⟨"/bin/../project"⟩ ⟨"/bin/../project/build-.._..-___"⟩ x := by
  intro s
  have hcalled : (unnameable.afterBuild s).bench.memory.seen.any
      (·.call.program == "cmake") = true := by decide +kernel
  obtain ⟨x, hx, hprogram⟩ := List.any_eq_true.mp hcalled
  have hprogram : x.call.program = "cmake" := beq_iff_eq.mp hprogram
  have hfolder : s.workspace.cwd / unnameable.job.buildFolder =
      ⟨"/bin/../project/build-.._..-___"⟩ := by decide
  have hproper := buildFolder_properChild unnameable.job
  have hconfigures := hproper.configured unnameable s rfl (by decide) x hx hprogram
  rw [hfolder] at hconfigures
  exact ⟨⟨by decide, ⟨by decide, by decide⟩, x, hx, hprogram⟩, hproper, x, hx, hconfigures⟩

end Job

end ReleasePipeline
