import ReleasePipeline.Proofs.Build.History
import ReleasePipeline.Proofs.Disk.Location

/-!
# ReleasePipeline.Proofs.Toolchain.Lookup

Where a compiler selector is found, and what kind of path comes of it. A selector of several
components gives an absolute path, since the current folder is absolute. Any other is found at an
entry of the search path, and its path is put together from that entry as it was written
(`FoundAt`). So an entry that is relative after its `~` was replaced gives a relative path, and a
build hands it to tools that run in another folder than the one it was seen from.
-/

namespace ReleasePipeline

/-! ### When a joined path is absolute -/

namespace Path

/-- Joining components other than the root never makes a relative path absolute. -/
theorem isAbsolute_extend_iff {p : Path} {parts : List Component}
    (h : ∀ part ∈ parts, part.toPath.isAbsolute = false) :
    (p.extend parts).isAbsolute = true ↔ p.isAbsolute = true := by
  induction parts generalizing p with
  | nil => exact Iff.rfl
  | cons part rest ih =>
      have hpart : part.toPath.isAbsolute = false := h part (List.mem_cons_self ..)
      change ((p / part.toPath).extend rest).isAbsolute = true ↔ _
      rw [ih fun other hother => h other (List.mem_cons_of_mem _ hother), isAbsolute_join_iff]
      simp [hpart]

/-- The component of a segment is a relative path. -/
theorem not_isAbsolute_ofSegment {p : Path} {segment : String} (h : segment ∈ p.segments) :
    (Component.ofSegment segment).toPath.isAbsolute = false := by
  unfold Component.ofSegment
  by_cases hhere : segment = "."
  · rw [if_pos hhere]
    decide
  · by_cases hup : segment = ".."
    · rw [if_neg hhere, if_pos hup]
      decide
    · rw [if_neg hhere, if_neg hup]
      exact (isName_of_mem_segments h hhere hup).not_isAbsolute

/-- The components of a path are relative, but for a root in front. -/
theorem not_isAbsolute_of_mem_components {p : Path} {first part : Component}
    {rest : List Component} (h : p.components = first :: rest) (hpart : part ∈ rest) :
    part.toPath.isAbsolute = false := by
  have hmem : part ∈ (p.segments.map Component.ofSegment).filter (· ≠ .here) := by
    unfold components at h
    dsimp only at h
    split at h
    · cases h
      exact hpart
    · split at h
      · cases h
        exact hpart
      · rw [h]
        exact List.mem_cons_of_mem _ hpart
  obtain ⟨segment, hsegment, rfl⟩ := List.mem_map.mp (List.mem_filter.mp hmem).1
  exact not_isAbsolute_ofSegment hsegment

theorem components_of_isAbsolute {p : Path} (h : p.isAbsolute = true) :
    ∃ rest, p.components = .root :: rest :=
  ⟨_, if_pos h⟩

end Path

namespace Toolchain

variable {disk : Node} {processFolder cwd p : Path} {home : Option String}
  {searchPath : Option SearchPath} {selector : String}

/-! ### Lookups -/

/-- An entry of a search path that is absolute, or becomes so when its `~` is replaced. -/
def IsAnchored (home : Option String) (folder : Path) : Prop :=
  folder.isAbsolute = true ∨
    ∃ rest text, folder.components = .name "~" :: rest ∧ home = some text ∧
      (Path.mk text).isAbsolute = true

theorem isAbsolute_expandHome_iff {folder : Path} :
    (expandHome home folder).isAbsolute = true ↔ IsAnchored home folder := by
  unfold expandHome IsAnchored
  split
  · rename_i rest text hcomponents
    have hrelative : folder.isAbsolute = false := by
      rw [← Bool.not_eq_true]
      intro h
      obtain ⟨others, hroot⟩ := Path.components_of_isAbsolute h
      rw [hroot] at hcomponents
      cases hcomponents
    by_cases hempty : text.toList = []
    · simp [hempty, Path.isAbsolute]
    · rw [if_neg hempty, Path.isAbsolute_extend_iff fun part hpart =>
        Path.not_isAbsolute_of_mem_components hcomponents hpart]
      simp [hcomponents, hrelative]
  · rename_i hother
    constructor
    · exact .inl
    · rintro (h | ⟨rest, text, hcomponents, rfl, -⟩)
      · exact h
      · exact absurd rfl (hother rest text hcomponents)

/-- A selector is found at an entry of a search path: it is the first at which there is an executable
file for it. -/
structure FoundAt (disk : Node) (processFolder : Path) (home : Option String)
    (folders : SearchPath) (selector : String) (folder p : Path) : Prop where
  first : ∃ before after, folders = before ++ folder :: after ∧ ∀ earlier ∈ before,
    Disk.isExecutable disk processFolder (expandHome home earlier / selector) = false
  path : p = expandHome home folder / selector
  executable : Disk.isExecutable disk processFolder p = true

/-- A lookup gives the first of the candidates that is an executable file. -/
theorem find_eq_ok_iff_find? :
    find disk processFolder home searchPath cwd selector = .ok p ↔
      ∃ tried, candidates home searchPath cwd selector = .ok tried ∧
        tried.find? (Disk.isExecutable disk processFolder) = some p := by
  unfold find
  cases candidates home searchPath cwd selector with
  | error fault => simp [bind, Except.bind]
  | ok tried =>
      cases hfound : tried.find? (Disk.isExecutable disk processFolder) with
      | none => simp [bind, Except.bind, hfound]
      | some q => simp [bind, Except.bind, hfound]

theorem foundAt_iff {folders : SearchPath} {folder : Path} :
    FoundAt disk processFolder home folders selector folder p ↔
      folders.find? (fun folder =>
        Disk.isExecutable disk processFolder (expandHome home folder / selector)) = some folder ∧
      expandHome home folder / selector = p := by
  rw [List.find?_eq_some_iff_append]
  constructor
  · rintro ⟨⟨before, after, hfolders, hbefore⟩, rfl, hexec⟩
    exact ⟨⟨hexec, before, after, hfolders, by simpa using hbefore⟩, rfl⟩
  · rintro ⟨⟨hexec, before, after, hfolders, hbefore⟩, rfl⟩
    exact ⟨⟨before, after, hfolders, by simpa using hbefore⟩, rfl, hexec⟩

/-- A selector of several components has one candidate; any other is found at the first entry that
has it. -/
theorem find_eq_ok_iff :
    find disk processFolder home searchPath cwd selector = .ok p ↔
      (isPathLike selector = true ∧ p = fromFolder cwd selector ∧
        Disk.isExecutable disk processFolder p = true) ∨
      (isPathLike selector = false ∧ ∃ folders folder, searchPath = some folders ∧
        FoundAt disk processFolder home folders selector folder p) := by
  rw [find_eq_ok_iff_find?]
  unfold candidates
  cases hpath : isPathLike selector with
  | true =>
      simp only [if_true, Except.ok.injEq, exists_eq_left', List.find?_singleton,
        Option.ite_none_right_eq_some, Option.some.injEq]
      constructor
      · rintro ⟨hexec, rfl⟩
        exact .inl ⟨trivial, rfl, hexec⟩
      · rintro (⟨-, rfl, hexec⟩ | ⟨hfalse, -⟩)
        · exact ⟨hexec, rfl⟩
        · cases hfalse
  | false =>
      cases searchPath with
      | none => simp
      | some folders =>
          have hfirst : (∃ folder, folders.find? (Disk.isExecutable disk processFolder ∘ fun folder =>
              expandHome home folder / selector) = some folder ∧
                expandHome home folder / selector = p) ↔
              ∃ folder, FoundAt disk processFolder home folders selector folder p :=
            exists_congr fun folder => foundAt_iff.symm
          simpa [List.find?_map] using hfirst

theorem isAbsolute_fromFolder (h : cwd.isAbsolute = true) (selector : String) :
    (fromFolder cwd selector).isAbsolute = true := by
  unfold fromFolder
  dsimp only
  split
  · assumption
  · exact Path.isAbsolute_extend _ h

/-- What a lookup from an absolute folder says about the path that it gives. -/
structure Gives (disk : Node) (processFolder : Path) (home : Option String)
    (searchPath : Option SearchPath) (selector : String) (p : Path) : Prop where
  executable : Disk.isExecutable disk processFolder p = true
  isAbsolute_iff : p.isAbsolute = true ↔
    isPathLike selector = true ∨ (Path.mk selector).isAbsolute = true ∨
      ∃ folders folder, searchPath = some folders ∧
        FoundAt disk processFolder home folders selector folder p ∧ IsAnchored home folder

theorem gives_of_find (hcwd : cwd.isAbsolute = true)
    (h : find disk processFolder home searchPath cwd selector = .ok p) :
    Gives disk processFolder home searchPath selector p := by
  rcases find_eq_ok_iff.mp h with ⟨hpath, rfl, hexec⟩ | ⟨hpath, folders, folder, hfolders, hfound⟩
  · exact ⟨hexec, iff_of_true (isAbsolute_fromFolder hcwd selector) (.inl hpath)⟩
  · refine ⟨hfound.executable, ?_⟩
    have hjoin : p.isAbsolute = true ↔
        (Path.mk selector).isAbsolute = true ∨ IsAnchored home folder := by
      rw [hfound.path, ← isAbsolute_expandHome_iff]
      exact Path.isAbsolute_join_iff
    constructor
    · intro habsolute
      rcases hjoin.mp habsolute with hselector | hanchored
      · exact .inr (.inl hselector)
      · exact .inr (.inr ⟨folders, folder, hfolders, hfound, hanchored⟩)
    · rintro (hmany | hselector | ⟨others, other, hothers, hfound, hanchored⟩)
      · rw [hpath] at hmany
        cases hmany
      · exact hjoin.mpr (.inl hselector)
      · rw [hfound.path]
        exact Path.isAbsolute_join _ (isAbsolute_expandHome_iff.mpr hanchored)

/-- Where every entry is anchored, whatever is found is absolute. -/
theorem isAbsolute_of_find (hcwd : cwd.isAbsolute = true)
    (hanchored : ∀ folders, searchPath = some folders → ∀ folder ∈ folders, IsAnchored home folder)
    (h : find disk processFolder home searchPath cwd selector = .ok p) : p.isAbsolute = true := by
  rcases find_eq_ok_iff.mp h with ⟨-, rfl, -⟩ | ⟨-, folders, folder, hfolders, hfound⟩
  · exact isAbsolute_fromFolder hcwd selector
  · obtain ⟨before, after, hsplit, -⟩ := hfound.first
    have hmem : folder ∈ folders := by simp [hsplit]
    rw [hfound.path]
    exact Path.isAbsolute_join _
      (isAbsolute_expandHome_iff.mpr (hanchored folders hfolders folder hmem))

theorem resolve_eq_ok_iff {setting program : String} {wanted : Option String} :
    resolve disk processFolder home searchPath cwd setting wanted = .ok (program, p) ↔
      wanted = some program ∧ find disk processFolder home searchPath cwd program = .ok p := by
  unfold resolve
  cases wanted with
  | none => simp
  | some text =>
      dsimp only
      constructor
      · intro h
        split at h
        · cases h
          exact ⟨rfl, by assumption⟩
        · cases h
      · rintro ⟨htext, hfind⟩
        cases htext
        rw [hfind]

end Toolchain

namespace Pipeline

open Toolchain

variable {pipeline : Pipeline σ} {disk : Node} {cwd : Path} {compilers : Compilers}

theorem compilersOn_eq_ok_iff :
    pipeline.compilersOn disk cwd = .ok compilers ↔
      ∃ c cxx, pipeline.job.compilers = ⟨some c, some cxx⟩ ∧
        find disk pipeline.host.folder pipeline.host.home pipeline.searchPath cwd c =
          .ok compilers.cc ∧
        find disk pipeline.host.folder pipeline.host.home pipeline.searchPath cwd cxx =
          .ok compilers.cxx := by
  unfold compilersOn compilerOn
  constructor
  · intro h
    split at h
    · cases h
    · rename_i c cc hc
      split at h
      · cases h
      · rename_i cxx cxxPath hcxx
        cases h
        obtain ⟨hc, hcfind⟩ := resolve_eq_ok_iff.mp hc
        obtain ⟨hcxx, hcxxfind⟩ := resolve_eq_ok_iff.mp hcxx
        refine ⟨c, cxx, ?_, hcfind, hcxxfind⟩
        cases hcompilers : pipeline.job.compilers
        rw [hcompilers] at hc hcxx
        exact congr (congrArg _ hc) hcxx
  · rintro ⟨c, cxx, hcompilers, hc, hcxx⟩
    rw [hcompilers, resolve_eq_ok_iff.mpr ⟨rfl, hc⟩]
    dsimp only
    rw [resolve_eq_ok_iff.mpr ⟨rfl, hcxx⟩]

/-- What is known of the compilers that a build has found: what kind of paths they are, and where
they are used. -/
structure KnowsCompilers (pipeline : Pipeline σ) (s : Session σ) (compilers : Compilers) :
    Prop where
  selected : ∃ c cxx, pipeline.job.compilers = ⟨some c, some cxx⟩ ∧
    Gives s.bench.disk pipeline.host.folder pipeline.host.home pipeline.searchPath c
      compilers.cc ∧
    Gives s.bench.disk pipeline.host.folder pipeline.host.home pipeline.searchPath cxx
      compilers.cxx
  anchored : (∀ folders, pipeline.searchPath = some folders → ∀ folder ∈ folders,
    IsAnchored pipeline.host.home folder) →
      compilers.cc.isAbsolute = true ∧ compilers.cxx.isAbsolute = true
  handed : ∀ x ∈ (Stage.sessionAfter pipeline.watched.build s.watched).bench.memory.seen,
    x.call.folder = s.workspace.cwd / pipeline.job.buildFolder ∧
      x.call.env = [("CC", compilers.cc.text), ("CXX", compilers.cxx.text)]

/-- **Compilers are as absolute as the place they were found at.** A build that finds both compilers
hands their paths to tools that run in the build folder. Each is absolute if its selector has
several components or if the entry of the search path it was found at is anchored; a compiler that
was found at any other entry is a relative path, which leads elsewhere from the build folder. -/
theorem knowsCompilers (pipeline : Pipeline σ) (s : Session σ) (compilers : Compilers)
    (hcwd : s.workspace.cwd.isAbsolute = true)
    (h : pipeline.compilersOn s.bench.disk s.workspace.cwd = .ok compilers) :
    pipeline.KnowsCompilers s compilers := by
  obtain ⟨c, cxx, hselected, hc, hcxx⟩ := compilersOn_eq_ok_iff.mp h
  constructor
  case selected => exact ⟨c, cxx, hselected, gives_of_find hcwd hc, gives_of_find hcwd hcxx⟩
  case anchored =>
    intro hanchored
    exact ⟨isAbsolute_of_find hcwd hanchored hc, isAbsolute_of_find hcwd hanchored hcxx⟩
  case handed =>
    intro x hx
    have hmem := (build_follows hcwd h).call_mem hx
    simp only [Job.buildPlan, List.mem_cons, List.not_mem_nil, or_false] at hmem
    rcases hmem with hcall | hcall
    · rw [hcall]
      exact ⟨rfl, rfl⟩
    · rw [hcall]
      exact ⟨rfl, rfl⟩

end Pipeline

/-! ### A search path with a relative entry -/

namespace PlainTools

/-- A pipeline that looks for `cc` on a search path, on a machine whose home folder is the root. -/
def looking (searchPath : String) : Pipeline Unit :=
  { headerless (some "cc") (some "cc") with
    host := ⟨⟨"/project"⟩, some "/", .byName⟩
    searchPath := some (.ofText searchPath) }

end PlainTools

namespace Pipeline

open PlainTools

theorem knowsCompilers_of_home_entry :
    (sessionIn "/project" hookedDisk).workspace.cwd.isAbsolute = true ∧
      (looking "none:~/bin:../bin").compilersOn hookedDisk ⟨"/project"⟩ =
        .ok ⟨⟨"/bin/cc"⟩, ⟨"/bin/cc"⟩⟩ ∧
      (looking "none:~/bin:../bin").KnowsCompilers (sessionIn "/project" hookedDisk)
        ⟨⟨"/bin/cc"⟩, ⟨"/bin/cc"⟩⟩ :=
  ⟨by decide, by rfl, knowsCompilers _ _ _ (by decide) (by rfl)⟩

/-- A compiler that is found at a relative entry is a relative path, and there is no such program
where the build tools run. -/
theorem relative_compilers_of_relative_entry :
    (looking "none:../bin").compilersOn hookedDisk ⟨"/project"⟩ =
        .ok ⟨⟨"../bin/cc"⟩, ⟨"../bin/cc"⟩⟩ ∧
      (Path.mk "../bin/cc").isAbsolute = false ∧
      Disk.isExecutable hookedDisk
        ((⟨"/project"⟩ : Path) / (looking "none:../bin").job.buildFolder) ⟨"../bin/cc"⟩ = false :=
  ⟨by rfl, by decide, by decide +kernel⟩

end Pipeline

end ReleasePipeline
