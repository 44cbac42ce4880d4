import ReleasePipeline.Job.Basic
import ReleasePipeline.Proofs.Path.Joining

/-!
# ReleasePipeline.Proofs.Job.Names

The names that a job derives are names of entries, and no two of them are the same. The build folder
is made safe, so this needs no condition there. The names of what is published take the version and
the configuration as they are, so neither may have a slash in it.

The names differ in their first characters: the build folder starts with `b`, the published files
with `e`, and the staging folder with `a`. The published files differ in their endings.
-/

namespace ReleasePipeline

namespace Path

/-- A text without slashes that does not start with a point is a name. -/
theorem IsName.of_head {name : String} {c : Char} (hhead : name.toList.head? = some c)
    (hc : c ≠ '.') (hslash : '/' ∉ name.toList) : IsName name := by
  refine ⟨?_, hslash, ?_, ?_⟩
  · intro h
    rw [h] at hhead
    cases hhead
  · rintro rfl
    exact hc (Option.some.inj hhead).symm
  · rintro rfl
    exact hc (Option.some.inj hhead).symm

end Path

namespace Job

open ReleasePipeline.Path

/-! ### The build folder -/

theorem toList_buildFolder (job : Job) :
    job.buildFolder.toList =
      "build-".toList ++ (job.name.toList ++ '-' :: job.configuration.toList).map Text.sanitizeChar := by
  have hprefix : "build-".toList.map Text.sanitizeChar = "build-".toList := by decide
  have hdash : Text.sanitizeChar '-' = '-' := by decide
  simp only [buildFolder, Text.sanitize, String.toList_ofList, String.toList_append,
    List.map_append, hprefix, List.append_assoc, List.map_cons, hdash]
  rfl

theorem head_buildFolder (job : Job) : job.buildFolder.toList.head? = some 'b' := by
  rw [toList_buildFolder]
  rfl

theorem isName_buildFolder (job : Job) : IsName job.buildFolder := by
  refine .of_head job.head_buildFolder (by decide) ?_
  intro hslash
  rw [buildFolder, Text.sanitize, String.toList_ofList, List.mem_map] at hslash
  obtain ⟨c, -, hc⟩ := hslash
  have hsafe := Text.isSafe_sanitizeChar c
  rw [hc] at hsafe
  exact absurd hsafe (by decide)

/-- Jobs that mean the same build folder. -/
structure SharesFolder (job other : Job) : Prop where
  name_eq : job.name = other.name
  configuration_eq : job.configuration = other.configuration

theorem SharesFolder.buildFolder_eq {job other : Job} (h : job.SharesFolder other) :
    job.buildFolder = other.buildFolder := by
  rw [buildFolder, buildFolder, h.name_eq, h.configuration_eq]

/-! ### Published files -/

/-- A job whose version and configuration have no slash in them. -/
structure HasPlainNames (job : Job) : Prop where
  version : '/' ∉ job.version.toList
  configuration : '/' ∉ job.configuration.toList

/-- The file that the application is published as. -/
def applicationName (job : Job) : String :=
  job.archiveName ++ ".7z"

/-- The file that the debug symbols are published as. -/
def symbolsName (job : Job) : String :=
  match job.policy.debugSymbols with
  | .compress => job.archiveName ++ ".pdb.7z"
  | .rename => job.archiveName ++ ".pdb"

theorem not_mem_archiveName {job : Job} (h : job.HasPlainNames) : '/' ∉ job.archiveName.toList := by
  have hsuffix : '/' ∉ job.configurationSuffix.toList := by
    unfold configurationSuffix
    split
    · decide
    · rw [String.toList_append, List.mem_append, not_or]
      exact ⟨by decide, h.configuration⟩
  simp only [archiveName, String.toList_append, List.mem_append, not_or]
  exact ⟨⟨⟨by decide, h.version⟩, hsuffix⟩, by decide⟩

theorem head_archiveName_append (job : Job) (ending : String) :
    (job.archiveName ++ ending).toList.head? = some 'e' := by
  simp only [archiveName, String.toList_append, List.append_assoc]
  rfl

theorem isName_archiveName_append {job : Job} (h : job.HasPlainNames) (ending : String)
    (hending : '/' ∉ ending.toList) : IsName (job.archiveName ++ ending) := by
  refine .of_head (job.head_archiveName_append ending) (by decide) ?_
  rw [String.toList_append, List.mem_append, not_or]
  exact ⟨not_mem_archiveName h, hending⟩

theorem isName_applicationName {job : Job} (h : job.HasPlainNames) : IsName job.applicationName :=
  isName_archiveName_append h _ (by decide)

theorem isName_symbolsName {job : Job} (h : job.HasPlainNames) : IsName job.symbolsName := by
  unfold symbolsName
  cases job.policy.debugSymbols with
  | compress => exact isName_archiveName_append h _ (by decide)
  | rename => exact isName_archiveName_append h _ (by decide)

/-- The path of the application's archive. -/
def applicationPath (job : Job) (cwd : Path) : Path :=
  (cwd / (⟨job.archiveName⟩ : Path)).addExtension "7z"

/-- The path of the debug symbols. -/
def symbolsPath (job : Job) (cwd : Path) : Path :=
  match job.policy.debugSymbols with
  | .compress => ((cwd / (⟨job.archiveName⟩ : Path)).addExtension "pdb").addExtension "7z"
  | .rename => (cwd / (⟨job.archiveName⟩ : Path)).addExtension "pdb"

/-- What is published is a relative path. -/
theorem not_isAbsolute_archiveName_append (job : Job) (ending : String) :
    (Path.mk (job.archiveName ++ ending)).isAbsolute = false := by
  rw [isAbsolute, job.head_archiveName_append]
  rfl

theorem not_isAbsolute_archiveName (job : Job) :
    (Path.mk job.archiveName).isAbsolute = false := by
  have h := job.not_isAbsolute_archiveName_append ""
  rwa [String.append_empty] at h

theorem applicationPath_eq (job : Job) (cwd : Path) :
    job.applicationPath cwd = cwd / job.applicationName := by
  have hname : job.archiveName ++ "." ++ "7z" = job.applicationName := by
    rw [String.append_assoc]
    rfl
  have hfile : (Path.mk job.applicationName).isAbsolute = false :=
    job.not_isAbsolute_archiveName_append ".7z"
  rw [applicationPath, addExtension_join "7z" job.not_isAbsolute_archiveName (by rwa [hname]), hname]
  rfl

theorem symbolsPath_eq (job : Job) (cwd : Path) :
    job.symbolsPath cwd = cwd / job.symbolsName := by
  have hname : job.archiveName ++ "." ++ "pdb" = job.archiveName ++ ".pdb" := by
    rw [String.append_assoc]
    rfl
  have harchive : job.archiveName ++ ".pdb" ++ "." ++ "7z" = job.archiveName ++ ".pdb.7z" := by
    simp only [String.append_assoc]
    rfl
  have hpdb := job.not_isAbsolute_archiveName_append ".pdb"
  have hboth := job.not_isAbsolute_archiveName_append ".pdb.7z"
  have hplain : (cwd / (⟨job.archiveName⟩ : Path)).addExtension "pdb" =
      cwd / (⟨job.archiveName ++ ".pdb"⟩ : Path) := by
    rw [addExtension_join "pdb" job.not_isAbsolute_archiveName (by rwa [hname]), hname]
  unfold symbolsPath symbolsName
  cases job.policy.debugSymbols with
  | compress =>
      dsimp only
      rw [hplain, addExtension_join "7z" hpdb (by rwa [harchive]), harchive]
      rfl
  | rename => exact hplain

/-! ### Names apart -/

theorem ne_of_head {a b : String} {c : Char} (ha : a.toList.head? = some c)
    (hb : b.toList.head? ≠ some c) : a ≠ b :=
  fun h => hb (h ▸ ha)

theorem head_symbolsName (job : Job) : job.symbolsName.toList.head? = some 'e' := by
  unfold symbolsName
  cases job.policy.debugSymbols with
  | compress => exact job.head_archiveName_append _
  | rename => exact job.head_archiveName_append _

theorem applicationName_ne_symbolsName (job : Job) : job.applicationName ≠ job.symbolsName := by
  -- Both names start with the archive name, so they differ if their endings do.
  have hends : ∀ ending : String, ".7z" ≠ ending →
      job.archiveName ++ ".7z" ≠ job.archiveName ++ ending := fun ending hne h =>
    hne (String.append_right_inj job.archiveName |>.mp h)
  unfold applicationName symbolsName
  cases job.policy.debugSymbols with
  | compress => exact hends _ (by decide)
  | rename => exact hends _ (by decide)

theorem buildFolder_ne_staging (job : Job) : job.buildFolder ≠ "archive-root" :=
  ne_of_head job.head_buildFolder (by decide)

theorem buildFolder_ne_applicationName (job : Job) : job.buildFolder ≠ job.applicationName :=
  ne_of_head job.head_buildFolder (by rw [applicationName, head_archiveName_append]; decide)

theorem buildFolder_ne_symbolsName (job : Job) : job.buildFolder ≠ job.symbolsName :=
  ne_of_head job.head_buildFolder (by rw [head_symbolsName]; decide)

theorem applicationName_ne_staging (job : Job) : job.applicationName ≠ "archive-root" :=
  ne_of_head (job.head_archiveName_append _) (by decide)

theorem symbolsName_ne_staging (job : Job) : job.symbolsName ≠ "archive-root" :=
  ne_of_head job.head_symbolsName (by decide)

/-! ### Names of two jobs -/

/-- The names of everything that can be published as a job's release. -/
def publishedNames (job : Job) : List String :=
  [job.archiveName ++ ".7z", job.archiveName ++ ".pdb.7z", job.archiveName ++ ".pdb"]

theorem applicationName_mem_publishedNames (job : Job) :
    job.applicationName ∈ job.publishedNames :=
  List.mem_cons_self ..

theorem symbolsName_mem_publishedNames (job : Job) : job.symbolsName ∈ job.publishedNames := by
  unfold symbolsName publishedNames
  cases job.policy.debugSymbols <;> simp

variable {job other : Job} {name : String}

theorem head_of_mem_publishedNames (h : name ∈ job.publishedNames) :
    name.toList.head? = some 'e' := by
  simp only [publishedNames, List.mem_cons, List.not_mem_nil, or_false] at h
  rcases h with rfl | rfl | rfl <;> exact job.head_archiveName_append _

theorem isName_of_mem_publishedNames (hplain : job.HasPlainNames) (h : name ∈ job.publishedNames) :
    IsName name := by
  simp only [publishedNames, List.mem_cons, List.not_mem_nil, or_false] at h
  rcases h with rfl | rfl | rfl <;> exact isName_archiveName_append hplain _ (by decide)

theorem ne_staging_of_mem_publishedNames (h : name ∈ job.publishedNames) : name ≠ "archive-root" :=
  ne_of_head (head_of_mem_publishedNames h) (by decide)

theorem ne_buildFolder_of_mem_publishedNames (h : name ∈ job.publishedNames) (other : Job) :
    name ≠ other.buildFolder :=
  ne_of_head (head_of_mem_publishedNames h) (by rw [head_buildFolder]; decide)

theorem getLast?_append {text ending : String} {c : Char} (h : ending.toList.getLast? = some c) :
    (text ++ ending).toList.getLast? = some c := by
  rw [String.toList_append, List.getLast?_append, h]
  rfl

/-- An archive name does not end in `.pdb`, so with one ending more it does not take the place of
the other ending with `.pdb` in front of it. -/
theorem archiveName_append_ne (job other : Job) :
    job.archiveName ++ ".7z" ≠ other.archiveName ++ ".pdb.7z" := by
  intro heq
  have hsplit : other.archiveName ++ ".pdb.7z" = other.archiveName ++ ".pdb" ++ ".7z" := by
    rw [String.append_assoc]
    rfl
  rw [hsplit, String.append_left_inj] at heq
  have hdev : job.archiveName.toList.getLast? = some 'v' := getLast?_append (by decide)
  have hpdb : (other.archiveName ++ ".pdb").toList.getLast? = some 'b' :=
    getLast?_append (by decide)
  rw [heq, hpdb] at hdev
  cases hdev

/-- Releases with different archive names have no published file in common. -/
theorem ne_of_archiveName_ne {a b : String} (h : job.archiveName ≠ other.archiveName)
    (ha : a ∈ job.publishedNames) (hb : b ∈ other.publishedNames) : a ≠ b := by
  have hsame : ∀ ending : String, job.archiveName ++ ending ≠ other.archiveName ++ ending :=
    fun ending heq => h ((String.append_left_inj ending).mp heq)
  -- One of two names ends in `z` and the other in `b`.
  have hlast : ∀ {a b : String}, a.toList.getLast? = some 'z' → b.toList.getLast? = some 'b' →
      a ≠ b := by
    rintro a b ha hb rfl
    rw [ha] at hb
    cases hb
  simp only [publishedNames, List.mem_cons, List.not_mem_nil, or_false] at ha hb
  rcases ha with rfl | rfl | rfl <;> rcases hb with rfl | rfl | rfl
  · exact hsame _
  · exact archiveName_append_ne _ _
  · exact hlast (getLast?_append (by decide)) (getLast?_append (by decide))
  · exact (archiveName_append_ne _ _).symm
  · exact hsame _
  · exact hlast (getLast?_append (by decide)) (getLast?_append (by decide))
  · exact (hlast (getLast?_append (by decide)) (getLast?_append (by decide))).symm
  · exact (hlast (getLast?_append (by decide)) (getLast?_append (by decide))).symm
  · exact hsame _

end Job

end ReleasePipeline
