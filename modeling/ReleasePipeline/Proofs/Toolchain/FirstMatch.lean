import ReleasePipeline.Proofs.Path.NormalForm
import ReleasePipeline.Proofs.Toolchain.Lookup

/-!
# ReleasePipeline.Proofs.Toolchain.FirstMatch

Compilers are looked up by first match, and each kind of selector reads only what concerns it. The
paths that a selector may stand for are its candidates; one that is an executable regular file is a
program. A selector of several components has a single candidate, which is told from its text and
the current folder (`StandsFor`). A lookup ends well exactly if there is such a candidate, and then
takes the first in the order of the search path: whatever else earlier entries hold of that name is
passed over, and whatever later entries hold is not looked at. Of the two selectors of a job the C
compiler's comes first, so a failure is about the other only where this one was found.
-/

namespace ReleasePipeline

/-! ### Longer search paths -/

namespace SearchPath

/-- Bytes with a colon in them spell the entries before the colon and those behind it. -/
theorem ofBytes_append (bytes more : Bytes) :
    ofBytes (bytes ++ UInt8.ofNat ':'.toNat :: more) = ofBytes bytes ++ ofBytes more := by
  unfold ofBytes
  rw [List.splitOn_append_cons_self, List.filterMap_append, List.map_append]

end SearchPath

/-! ### Programs -/

/-- A path that leads to an executable regular file, if relative then from a folder. -/
def Node.HoldsProgram (disk : Node) (folder p : Path) : Prop :=
  ∃ l f, Disk.locateFrom disk folder p = .ok l ∧ disk.entryAt? l = some (.file f) ∧
    f.executable = true

theorem Disk.isExecutable_iff {disk : Node} {folder p : Path} :
    isExecutable disk folder p = true ↔ disk.HoldsProgram folder p := by
  unfold isExecutable Node.HoldsProgram
  cases locateFrom disk folder p with
  | error fault => simp
  | ok l =>
      dsimp only
      constructor
      · intro h
        split at h
        · rename_i f hfile
          exact ⟨l, f, rfl, Node.entryAt?_eq_file_iff.mpr hfile, h⟩
        · cases h
      · rintro ⟨_, f, hl, hfile, hexec⟩
        cases hl
        rw [Node.entryAt?_eq_file_iff.mp hfile]
        exact hexec

/-! ### Lookups that fail -/

namespace Toolchain

variable {disk : Node} {processFolder cwd p : Path} {home : Option String}
  {searchPath : Option SearchPath} {selector : String} {cause : LookupFault}

/-- What a selector of several components stands for: itself if it is absolute, else the path from
the current folder over its segments, those left out that are dots. -/
inductive StandsFor (cwd : Path) (selector : String) : Path → Prop
  | itself (absolute : (Path.mk selector).isAbsolute = true) : StandsFor cwd selector ⟨selector⟩
  | fromCwd (relative : (Path.mk selector).isAbsolute = false) :
      StandsFor cwd selector (cwd.joinAll ((Path.mk selector).segments.filter (· ≠ ".")))

/-- The paths that a selector may stand for. -/
inductive Candidate (home : Option String) (searchPath : Option SearchPath) (cwd : Path)
    (selector : String) : Path → Prop
  | seenFromCwd {p : Path} (several : isPathLike selector = true)
      (stands : StandsFor cwd selector p) : Candidate home searchPath cwd selector p
  | atEntry {folders : SearchPath} {folder : Path} (single : isPathLike selector = false)
      (given : searchPath = some folders) (entry : folder ∈ folders) :
      Candidate home searchPath cwd selector (expandHome home folder / selector)

/-- What is said of a selector that no program was found for. -/
def lookupFault (searchPath : Option SearchPath) (selector : String) : LookupFault :=
  if isPathLike selector = false ∧ searchPath = none then .noSearchPath else .nowhere

theorem standsFor_iff : StandsFor cwd selector p ↔ p = fromFolder cwd selector := by
  unfold fromFolder
  dsimp only
  cases habsolute : (Path.mk selector).isAbsolute with
  | true =>
      rw [if_pos rfl]
      constructor
      · rintro (- | hrelative)
        · rfl
        · rw [habsolute] at hrelative
          cases hrelative
      · rintro rfl
        exact .itself habsolute
  | false =>
      rw [if_neg Bool.false_ne_true, Path.dropWhile_components habsolute,
        Path.extend_map_ofSegment]
      constructor
      · rintro (hroot | -)
        · rw [habsolute] at hroot
          cases hroot
        · rfl
      · rintro rfl
        exact .fromCwd habsolute

theorem candidate_iff :
    Candidate home searchPath cwd selector p ↔
      ∃ tried, candidates home searchPath cwd selector = .ok tried ∧ p ∈ tried := by
  unfold candidates
  constructor
  · rintro (⟨hseveral, hstands⟩ | ⟨hsingle, rfl, hentry⟩)
    · exact ⟨_, if_pos hseveral, List.mem_singleton.mpr (standsFor_iff.mp hstands)⟩
    · rw [if_neg (by simp [hsingle])]
      exact ⟨_, rfl, List.mem_map_of_mem hentry⟩
  · rintro ⟨tried, htried, hp⟩
    split at htried
    · rename_i hseveral
      cases htried
      exact .seenFromCwd hseveral (standsFor_iff.mpr (List.mem_singleton.mp hp))
    · rename_i hsingle
      split at htried
      · cases htried
      · cases htried
        obtain ⟨folder, hentry, rfl⟩ := List.mem_map.mp hp
        exact .atEntry (Bool.not_eq_true _ ▸ hsingle) rfl hentry

theorem candidates_eq_error_iff :
    candidates home searchPath cwd selector = .error cause ↔
      isPathLike selector = false ∧ searchPath = none ∧ cause = .noSearchPath := by
  unfold candidates
  cases hseveral : isPathLike selector <;> cases searchPath <;> simp [eq_comm]

/-- A lookup finds something exactly if some candidate is a program. -/
theorem exists_find_iff :
    (∃ p, find disk processFolder home searchPath cwd selector = .ok p) ↔
      ∃ p, Candidate home searchPath cwd selector p ∧ disk.HoldsProgram processFolder p := by
  simp only [find_eq_ok_iff_find?, candidate_iff, ← Disk.isExecutable_iff]
  constructor
  · rintro ⟨p, tried, htried, hfound⟩
    exact ⟨p, ⟨tried, htried, List.mem_of_find?_eq_some hfound⟩, List.find?_some hfound⟩
  · rintro ⟨p, ⟨tried, htried, hp⟩, hexec⟩
    obtain ⟨q, hq⟩ := Option.isSome_iff_exists.mp (List.find?_isSome.mpr ⟨p, hp, hexec⟩)
    exact ⟨q, tried, htried, hq⟩

theorem find_eq_error_iff :
    find disk processFolder home searchPath cwd selector = .error cause ↔
      (¬∃ p, Candidate home searchPath cwd selector p ∧ disk.HoldsProgram processFolder p) ∧
        cause = lookupFault searchPath selector := by
  rw [← exists_find_iff]
  unfold find lookupFault
  cases hcandidates : candidates home searchPath cwd selector with
  | error fault =>
      obtain ⟨hsingle, rfl, rfl⟩ := candidates_eq_error_iff.mp hcandidates
      simp [bind, Except.bind, hsingle, eq_comm]
  | ok tried =>
      have hother : ¬(isPathLike selector = false ∧ searchPath = none) := by
        rintro ⟨hsingle, hnone⟩
        rw [candidates_eq_error_iff.mpr ⟨hsingle, hnone, rfl⟩] at hcandidates
        cases hcandidates
      rw [if_neg hother]
      cases htaken : tried.find? (Disk.isExecutable disk processFolder) <;>
        simp [bind, Except.bind, htaken, eq_comm]

/-! ### What a lookup does not read -/

/-- A selector of several components is seen from the current folder alone. -/
theorem find_of_isPathLike (h : isPathLike selector = true) (hcwd : cwd.isAbsolute = true)
    (otherFolder : Path) (otherHome : Option String) (otherPath : Option SearchPath) :
    find disk otherFolder otherHome otherPath cwd selector =
      find disk processFolder home searchPath cwd selector := by
  have hfrom := isAbsolute_fromFolder hcwd selector
  unfold find candidates
  rw [if_pos h, if_pos h]
  simp only [bind, Except.bind, List.find?_singleton, Disk.isExecutable, Disk.locateFrom,
    Path.join_of_isAbsolute hfrom]

/-- Any other selector is not seen from the current folder at all. -/
theorem find_of_not_isPathLike (h : isPathLike selector = false) (otherCwd : Path) :
    find disk processFolder home searchPath otherCwd selector =
      find disk processFolder home searchPath cwd selector := by
  unfold find candidates
  rw [if_neg (by simp [h]), if_neg (by simp [h])]

/-- What was found at an entry is found there, whatever entries follow. -/
theorem find_append {folders : SearchPath} (more : SearchPath)
    (h : find disk processFolder home (some folders) cwd selector = .ok p) :
    find disk processFolder home (some (folders ++ more)) cwd selector = .ok p := by
  rw [find_eq_ok_iff] at h ⊢
  refine h.imp_right ?_
  rintro ⟨hsingle, _, folder, hgiven, ⟨before, after, hfolders, hbefore⟩, hp, hexec⟩
  cases hgiven
  refine ⟨hsingle, _, folder, rfl, ⟨before, after ++ more, ?_, hbefore⟩, hp, hexec⟩
  rw [hfolders, List.append_assoc, List.cons_append]

end Toolchain

/-! ### Both compilers -/

namespace Pipeline

open Toolchain

/-- The path that is a selector's program: the only candidate of a selector of several components,
or else the one at the first entry of the search path that has any. -/
inductive Takes (pipeline : Pipeline σ) (disk : Node) (cwd : Path) (selector : String) :
    Path → Prop
  | seenFromCwd {p : Path} (several : isPathLike selector = true)
      (stands : StandsFor cwd selector p)
      (program : disk.HoldsProgram pipeline.host.folder p) : Takes pipeline disk cwd selector p
  | atEntry {before after : SearchPath} {folder : Path} (single : isPathLike selector = false)
      (given : pipeline.searchPath = some (before ++ folder :: after))
      (passed : ∀ earlier ∈ before, ¬disk.HoldsProgram pipeline.host.folder
        (expandHome pipeline.host.home earlier / selector))
      (program : disk.HoldsProgram pipeline.host.folder
        (expandHome pipeline.host.home folder / selector)) :
      Takes pipeline disk cwd selector (expandHome pipeline.host.home folder / selector)

/-- Whether a selector is set and any candidate of it is a program. -/
def HasProgram (pipeline : Pipeline σ) (disk : Node) (cwd : Path) (wanted : Option String) : Prop :=
  ∃ selector, wanted = some selector ∧ ∃ p,
    Candidate pipeline.host.home pipeline.searchPath cwd selector p ∧
      disk.HoldsProgram pipeline.host.folder p

/-- The failure of a lookup for a setting: there is no selector, or no candidate of it is a
program. -/
inductive Unresolved (pipeline : Pipeline σ) (disk : Node) (cwd : Path) (setting : String) :
    Option String → Failure → Prop
  | missing : Unresolved pipeline disk cwd setting none (.missingVariable setting)
  | notFound {selector : String} (nowhere : ¬pipeline.HasProgram disk cwd (some selector)) :
      Unresolved pipeline disk cwd setting (some selector)
        (.compilerNotFound setting selector (lookupFault pipeline.searchPath selector))

/-- The same pipeline with some search path. -/
def searching (pipeline : Pipeline σ) (folders : SearchPath) : Pipeline σ :=
  { pipeline with searchPath := some folders }

variable {pipeline : Pipeline σ} {disk : Node} {cwd p : Path} {selector setting : String}
  {wanted : Option String} {compilers : Compilers} {failure : Failure}

theorem takes_iff :
    pipeline.Takes disk cwd selector p ↔
      find disk pipeline.host.folder pipeline.host.home pipeline.searchPath cwd selector =
        .ok p := by
  rw [find_eq_ok_iff]
  constructor
  · rintro (⟨hseveral, hstands, hprogram⟩ | ⟨hsingle, hgiven, hpassed, hprogram⟩)
    · exact .inl ⟨hseveral, standsFor_iff.mp hstands, Disk.isExecutable_iff.mpr hprogram⟩
    · refine .inr ⟨hsingle, _, _, hgiven, ⟨_, _, rfl, fun earlier hearlier => ?_⟩, rfl,
        Disk.isExecutable_iff.mpr hprogram⟩
      rw [← Bool.not_eq_true, Disk.isExecutable_iff]
      exact hpassed earlier hearlier
  · rintro (⟨hseveral, hpath, hexec⟩ |
      ⟨hsingle, _, folder, hgiven, ⟨before, after, rfl, hbefore⟩, rfl, hexec⟩)
    · exact .seenFromCwd hseveral (standsFor_iff.mpr hpath) (Disk.isExecutable_iff.mp hexec)
    · refine .atEntry hsingle hgiven (fun earlier hearlier => ?_) (Disk.isExecutable_iff.mp hexec)
      rw [← Disk.isExecutable_iff, Bool.not_eq_true]
      exact hbefore earlier hearlier

theorem hasProgram_iff (setting : String) :
    pipeline.HasProgram disk cwd wanted ↔
      ∃ found, pipeline.compilerOn disk cwd setting wanted = .ok found := by
  unfold HasProgram compilerOn
  constructor
  · rintro ⟨selector, rfl, hprogram⟩
    obtain ⟨p, hp⟩ := exists_find_iff.mpr hprogram
    exact ⟨(selector, p), resolve_eq_ok_iff.mpr ⟨rfl, hp⟩⟩
  · rintro ⟨⟨selector, p⟩, hfound⟩
    obtain ⟨hwanted, hp⟩ := resolve_eq_ok_iff.mp hfound
    exact ⟨selector, hwanted, exists_find_iff.mp ⟨p, hp⟩⟩

theorem compilerOn_eq_error_iff :
    pipeline.compilerOn disk cwd setting wanted = .error failure ↔
      pipeline.Unresolved disk cwd setting wanted failure := by
  have hprogram : ∀ selector, pipeline.HasProgram disk cwd (some selector) ↔
      ∃ p, Candidate pipeline.host.home pipeline.searchPath cwd selector p ∧
        disk.HoldsProgram pipeline.host.folder p := fun selector => by
    simp [HasProgram]
  unfold compilerOn resolve
  constructor
  · intro h
    split at h
    · cases h
      exact .missing
    · split at h
      · cases h
      · rename_i hfind
        cases h
        obtain ⟨hnowhere, rfl⟩ := find_eq_error_iff.mp hfind
        exact .notFound (mt (hprogram _).mp hnowhere)
  · rintro (_ | hnowhere)
    · rfl
    · dsimp only
      rw [find_eq_error_iff.mpr ⟨mt (hprogram _).mpr hnowhere, rfl⟩]

/-- The other selector is only looked at when the C compiler was found. -/
theorem compilersOn_eq_error_iff :
    pipeline.compilersOn disk cwd = .error failure ↔
      pipeline.Unresolved disk cwd "CC" pipeline.job.compilers.c failure ∨
      pipeline.HasProgram disk cwd pipeline.job.compilers.c ∧
        pipeline.Unresolved disk cwd "CXX" pipeline.job.compilers.cxx failure := by
  rw [hasProgram_iff "CC", ← compilerOn_eq_error_iff, ← compilerOn_eq_error_iff]
  unfold compilersOn Setting.cc Setting.cxx
  cases hc : pipeline.compilerOn disk cwd "CC" pipeline.job.compilers.c with
  | error cause => simp
  | ok found =>
      obtain ⟨program, cc⟩ := found
      cases pipeline.compilerOn disk cwd "CXX" pipeline.job.compilers.cxx <;> simp

theorem exists_compilersOn_iff :
    (∃ compilers, pipeline.compilersOn disk cwd = .ok compilers) ↔
      pipeline.HasProgram disk cwd pipeline.job.compilers.c ∧
        pipeline.HasProgram disk cwd pipeline.job.compilers.cxx := by
  rw [hasProgram_iff "CC", hasProgram_iff "CXX"]
  unfold compilersOn Setting.cc Setting.cxx
  cases pipeline.compilerOn disk cwd "CC" pipeline.job.compilers.c with
  | error cause => simp
  | ok found =>
      obtain ⟨program, cc⟩ := found
      cases pipeline.compilerOn disk cwd "CXX" pipeline.job.compilers.cxx <;> simp

theorem takes_of_compilersOn_iff :
    pipeline.compilersOn disk cwd = .ok compilers ↔
      ∃ c cxx, pipeline.job.compilers = ⟨some c, some cxx⟩ ∧
        pipeline.Takes disk cwd c compilers.cc ∧ pipeline.Takes disk cwd cxx compilers.cxx := by
  simp only [compilersOn_eq_ok_iff, takes_iff]

/-- How resolving the compilers ends, and that it leaves all but the events as it was. -/
theorem resolveCompilers_ending (pipeline : Pipeline σ) (s : Session σ) :
    match pipeline.resolveCompilers s with
    | .ok compilers t => pipeline.compilersOn s.bench.disk s.workspace.cwd = .ok compilers ∧
        t.workspace = s.workspace ∧ t.bench.disk = s.bench.disk ∧
        t.bench.memory = s.bench.memory
    | .error failure t => pipeline.compilersOn s.bench.disk s.workspace.cwd = .error failure ∧
        t.workspace = s.workspace ∧ t.bench.disk = s.bench.disk ∧
        t.bench.memory = s.bench.memory := by
  have hruns : Stage.Runs s.workspace (fun d m => d = s.bench.disk ∧ m = s.bench.memory)
    pipeline.resolveCompilers _ _ := resolveCompilers_runs
  have h := hruns.ending s rfl ⟨rfl, rfl⟩
  cases hrun : pipeline.resolveCompilers s with
  | ok compilers t =>
      rw [hrun] at h
      exact ⟨h.2.1, h.1, h.2.2⟩
  | error failure t =>
      rw [hrun] at h
      exact ⟨h.2.1, h.1, h.2.2⟩

theorem exists_resolveCompilers_ok_iff {s : Session σ} :
    (∃ t, pipeline.resolveCompilers s = .ok compilers t) ↔
      pipeline.compilersOn s.bench.disk s.workspace.cwd = .ok compilers := by
  have h := pipeline.resolveCompilers_ending s
  cases hrun : pipeline.resolveCompilers s with
  | ok found t =>
      rw [hrun] at h
      simp [h.1]
  | error failure t =>
      rw [hrun] at h
      simp [h.1]

theorem exists_resolveCompilers_error_iff {s : Session σ} :
    (∃ t, pipeline.resolveCompilers s = .error failure t) ↔
      pipeline.compilersOn s.bench.disk s.workspace.cwd = .error failure := by
  have h := pipeline.resolveCompilers_ending s
  cases hrun : pipeline.resolveCompilers s with
  | ok found t =>
      rw [hrun] at h
      simp [h.1]
  | error cause t =>
      rw [hrun] at h
      simp [h.1]

/-- What a lookup of both compilers comes to, and what it depends on. -/
structure TakesFirstMatch (pipeline : Pipeline σ) (s : Session σ) : Prop where
  /-- It ends well exactly if each selector is set and has a candidate that is a program. -/
  succeeds_iff : (∃ compilers t, pipeline.resolveCompilers s = .ok compilers t) ↔
    pipeline.HasProgram s.bench.disk s.workspace.cwd pipeline.job.compilers.c ∧
      pipeline.HasProgram s.bench.disk s.workspace.cwd pipeline.job.compilers.cxx
  /-- It takes the first such candidate of each selector. -/
  ok_iff : ∀ compilers, (∃ t, pipeline.resolveCompilers s = .ok compilers t) ↔
    ∃ c cxx, pipeline.job.compilers = ⟨some c, some cxx⟩ ∧
      pipeline.Takes s.bench.disk s.workspace.cwd c compilers.cc ∧
      pipeline.Takes s.bench.disk s.workspace.cwd cxx compilers.cxx
  /-- It fails for the C compiler whenever that has no program, and else for the other. -/
  error_iff : ∀ failure, (∃ t, pipeline.resolveCompilers s = .error failure t) ↔
    pipeline.Unresolved s.bench.disk s.workspace.cwd "CC" pipeline.job.compilers.c failure ∨
      pipeline.HasProgram s.bench.disk s.workspace.cwd pipeline.job.compilers.c ∧
        pipeline.Unresolved s.bench.disk s.workspace.cwd "CXX" pipeline.job.compilers.cxx failure
  /-- A selector of several components means the same in every pipeline. -/
  several : ∀ setting selector, isPathLike selector = true → ∀ other : Pipeline σ,
    other.compilerOn s.bench.disk s.workspace.cwd setting (some selector) =
      pipeline.compilerOn s.bench.disk s.workspace.cwd setting (some selector)
  /-- Any other means the same from every current folder. -/
  single : ∀ setting selector, isPathLike selector = false → ∀ cwd,
    pipeline.compilerOn s.bench.disk cwd setting (some selector) =
      pipeline.compilerOn s.bench.disk s.workspace.cwd setting (some selector)
  /-- What was found is still found when entries are added to the search path. -/
  further : ∀ folders more setting wanted found, pipeline.searchPath = some folders →
    pipeline.compilerOn s.bench.disk s.workspace.cwd setting wanted = .ok found →
      (pipeline.searching (folders ++ more)).compilerOn s.bench.disk s.workspace.cwd setting
        wanted = .ok found
  /-- The same for a search path as the environment spells it. -/
  further_spelled : ∀ bytes more setting wanted found,
    pipeline.searchPath = some (.ofBytes bytes) →
    pipeline.compilerOn s.bench.disk s.workspace.cwd setting wanted = .ok found →
      (pipeline.searching (.ofBytes (bytes ++ UInt8.ofNat ':'.toNat :: more))).compilerOn
        s.bench.disk s.workspace.cwd setting wanted = .ok found
  /-- The two paths are all that is put in the environment of the build tools. -/
  handed : ∀ compilers, pipeline.compilersOn s.bench.disk s.workspace.cwd = .ok compilers →
    compilers.env = [("CC", compilers.cc.text), ("CXX", compilers.cxx.text)] ∧
      ∀ x ∈ (Stage.sessionAfter pipeline.watched.build s.watched).bench.memory.seen,
        x.call.env = compilers.env

theorem compilerOn_append {folders : SearchPath} {found : String × Path} (more : SearchPath)
    (hgiven : pipeline.searchPath = some folders)
    (h : pipeline.compilerOn disk cwd setting wanted = .ok found) :
    (pipeline.searching (folders ++ more)).compilerOn disk cwd setting wanted = .ok found := by
  obtain ⟨hwanted, hfind⟩ := resolve_eq_ok_iff.mp h
  rw [hgiven] at hfind
  exact resolve_eq_ok_iff.mpr ⟨hwanted, find_append more hfind⟩

/-- **Compilers are looked up by first match.** From an absolute folder, both compilers are found
exactly if each selector has a candidate that is a program, and the first such candidate is taken.
Otherwise the failure is about the first selector that has none. A selector of several components
is not looked for on the search path, any other has nothing to do with the current folder, and
longer search paths find no other programs than shorter ones that find any. -/
theorem takesFirstMatch (pipeline : Pipeline σ) (s : Session σ)
    (hcwd : s.workspace.cwd.isAbsolute = true) : pipeline.TakesFirstMatch s := by
  constructor
  case succeeds_iff => simp only [exists_resolveCompilers_ok_iff, exists_compilersOn_iff]
  case ok_iff =>
    intro compilers
    rw [exists_resolveCompilers_ok_iff, takes_of_compilersOn_iff]
  case error_iff =>
    intro failure
    rw [exists_resolveCompilers_error_iff, compilersOn_eq_error_iff]
  case several =>
    intro setting selector hseveral other
    unfold compilerOn resolve
    dsimp only
    rw [find_of_isPathLike hseveral hcwd]
  case single =>
    intro setting selector hsingle cwd
    unfold compilerOn resolve
    dsimp only
    rw [find_of_not_isPathLike hsingle]
  case further =>
    intro folders more setting wanted found hgiven hfound
    exact compilerOn_append more hgiven hfound
  case further_spelled =>
    intro bytes more setting wanted found hgiven hfound
    rw [SearchPath.ofBytes_append]
    exact compilerOn_append _ hgiven hfound
  case handed =>
    intro compilers hcompilers
    refine ⟨rfl, fun x hx => ?_⟩
    have hmem := (build_follows hcwd hcompilers).call_mem hx
    simp only [Job.buildPlan, List.mem_cons, List.not_mem_nil, or_false] at hmem
    rcases hmem with hcall | hcall
    · rw [hcall]
      rfl
    · rw [hcall]
      rfl

end Pipeline

/-! ### A search path with obstacles -/

namespace PlainTools

/-- A disk on which a folder and a file that is no program have the name of a compiler too. The
project has one of its own. -/
def crowdedDisk : Node :=
  .folder [("folders", .folder [("cc", .folder [])]),
    ("texts", .folder [("cc", .file { content := [7] })]),
    ("bin", .folder [("cc", .file { content := [], executable := true })]),
    ("later", .folder [("cc", .file { content := [], executable := true })]),
    ("project", .folder [
      ("tools", .folder [("cc", .file { content := [], executable := true })])])]

/-- A pipeline with two selectors and with obstacles on its search path. -/
def choosing (c cxx : String) : Pipeline Unit :=
  { headerless (some c) (some cxx) with
    host := ⟨⟨"/project"⟩, some "/", .byName⟩
    searchPath := some (.ofText "/folders:/texts:/none:/bin:/later") }

end PlainTools

namespace Pipeline

open PlainTools

theorem takesFirstMatch_behind_obstacles :
    (sessionIn "/project" crowdedDisk).workspace.cwd.isAbsolute = true ∧
      (choosing "cc" ".//tools/./cc").compilersOn crowdedDisk ⟨"/project"⟩ =
        .ok ⟨⟨"/bin/cc"⟩, ⟨"/project/tools/cc"⟩⟩ ∧
      (choosing "cc" ".//tools/./cc").TakesFirstMatch (sessionIn "/project" crowdedDisk) :=
  ⟨by decide, by rfl, takesFirstMatch _ _ (by decide)⟩

end Pipeline

end ReleasePipeline
