import ReleasePipeline.Proofs.Release.Frame
import ReleasePipeline.Proofs.Release.InRoot
import ReleasePipeline.Proofs.Stage.Unwatched
import ReleasePipeline.Proofs.Text.Quoted

/-!
# ReleasePipeline.Proofs.Release.ToldApart

What an archive name says about its release. The name is put together from the version and the
configuration, where a configuration of `Release` is left out together with its dash. It gives both
away if there is no dash in the version: the version ends at the first dash, and a configuration
that is left out is told from every other one, also from an empty one, because only the others bring a
dash of their own (`suffix_inj`). With dashes in the version it still gives away one of the two if
the other is known.

So releases with different names have different files in the current folder, and making one spares
the other. A slash in the configuration is the exception: it makes the name a path, which may well
lead to the file of another release.
-/

namespace ReleasePipeline

open Disk Node

namespace Job

variable {job other : Job}

/-- Jobs that mean the same release. -/
structure SharesRelease (job other : Job) : Prop where
  version_eq : job.version = other.version
  configuration_eq : job.configuration = other.configuration

/-- Jobs whose releases are told apart by their names: their versions have no dashes, or they
differ in one thing only. -/
inductive ToldApart (job other : Job) : Prop where
  | plain_versions (job_version : '-' ∉ job.version.toList)
      (other_version : '-' ∉ other.version.toList)
  | same_version (version_eq : job.version = other.version)
  | same_configuration (configuration_eq : job.configuration = other.configuration)

/-- What the name says about the configuration gives the configuration away. -/
theorem suffix_inj (h : job.configurationSuffix = other.configurationSuffix) :
    job.configuration = other.configuration := by
  have hne : ∀ text : String, "" ≠ "-" ++ text := fun text heq => by
    have hchars := congrArg String.toList heq
    rw [String.toList_append] at hchars
    cases hchars
  unfold configurationSuffix at h
  by_cases hjob : job.configuration = releaseConfiguration
  · by_cases hother : other.configuration = releaseConfiguration
    · rw [hjob, hother]
    · rw [if_pos hjob, if_neg hother] at h
      exact absurd h (hne _)
  · by_cases hother : other.configuration = releaseConfiguration
    · rw [if_neg hjob, if_pos hother] at h
      exact absurd h.symm (hne _)
    · rw [if_neg hjob, if_neg hother] at h
      exact (String.append_right_inj _).mp h

/-- Whatever follows the version in a name starts with a dash. -/
theorem endsToken_suffix (job : Job) :
    Text.EndsToken '-' (job.configurationSuffix ++ "-dev").toList := by
  intro c hc
  unfold configurationSuffix at hc
  split at hc
  · exact (Option.some.inj hc).symm
  · rw [String.append_assoc, String.toList_append] at hc
    exact (Option.some.inj hc).symm

theorem version_suffix_eq (h : job.archiveName = other.archiveName) :
    job.version ++ (job.configurationSuffix ++ "-dev") =
      other.version ++ (other.configurationSuffix ++ "-dev") := by
  simp only [archiveName, String.append_assoc] at h
  exact (String.append_right_inj _).mp h

/-- Names tell releases apart. -/
theorem archiveName_eq_iff (happart : job.ToldApart other) :
    job.archiveName = other.archiveName ↔ job.SharesRelease other := by
  constructor
  · intro h
    have hrest := version_suffix_eq h
    have hsuffix : job.configurationSuffix ++ "-dev" = other.configurationSuffix ++ "-dev" →
        job.configuration = other.configuration := fun heq =>
      suffix_inj ((String.append_left_inj _).mp heq)
    cases happart with
    | plain_versions hjob hother =>
        rw [← String.toList_inj, @String.toList_append job.version,
          @String.toList_append other.version] at hrest
        obtain ⟨hversion, htail⟩ := Text.token_append_inj hjob hother job.endsToken_suffix
          other.endsToken_suffix hrest
        exact ⟨String.toList_inj.mp hversion, hsuffix (String.toList_inj.mp htail)⟩
    | same_version heq =>
        rw [heq, String.append_right_inj] at hrest
        exact ⟨heq, hsuffix hrest⟩
    | same_configuration heq =>
        rw [configurationSuffix, configurationSuffix, heq, String.append_left_inj] at hrest
        exact ⟨hrest, heq⟩
  · rintro ⟨hversion, hconfiguration⟩
    rw [archiveName, archiveName, configurationSuffix, configurationSuffix, hversion,
      hconfiguration]

end Job

/-! ### Releases side by side -/

namespace Pipeline

open Stage

/-- The names of a release and another one are the same exactly if the releases are, and if they are
not, then making the one leaves alone all that is published of the other. -/
structure KeepsApart (pipeline : Pipeline σ) (s : Session σ) (other : Job) : Prop where
  names : pipeline.job.archiveName = other.archiveName ↔ pipeline.job.SharesRelease other
  spares : ¬pipeline.job.SharesRelease other → pipeline.job.HasPlainNames →
    other.HasPlainNames → s.workspace.cwd.isAbsolute = true → s.bench.disk.Legal →
      pipeline.runner.Contained → ∀ name ∈ other.publishedNames, ∀ below,
        (sessionAfter (pipeline.archive .windows) s).bench.disk.entryAt?
            ((s.workspace.cwd / name).location ++ below) =
          s.bench.disk.entryAt? ((s.workspace.cwd / name).location ++ below)

/-- **Names tell releases apart,** whatever texts the configurations are, if there are no dashes in
the versions or if the releases differ in one thing only. Then making a release spares every other
one, as long as no slash makes a path of a name. -/
theorem archive_keepsApart (pipeline : Pipeline σ) (s : Session σ) (other : Job)
    (happart : pipeline.job.ToldApart other) : pipeline.KeepsApart s other where
  names := Job.archiveName_eq_iff happart
  spares hother hplain hplain' hcwd hlegal hrunner name hname below := by
    have hnames : other.archiveName ≠ pipeline.job.archiveName := fun heq =>
      hother ((Job.archiveName_eq_iff happart).mp heq.symm)
    have hkeeps := archive_course_after
      (I := InFrame pipeline.job s.workspace.cwd s.bench.disk) s hcwd hlegal hrunner.legal rfl
      (fun p q h _ => h.step hrunner hplain hcwd)
      (fun p failure d seen h _ => h.stop hrunner hplain hcwd) fun release d seen h => h
    have herases : sessionAfter (pipeline.archive .windows) s =
        (sessionAfter (pipeline.watched.archive .windows) s.watched).unwatched :=
      (archive_erases.sessionAfter s.watched).symm
    rw [herases, Session.disk_unwatched,
      Path.location_join_name (Job.isName_of_mem_publishedNames hplain' hname),
      List.append_assoc]
    exact hkeeps.sparesOthers.other_releases other hnames name hname below

end Pipeline

/-! ### Releases that meet -/

namespace PlainTools

/-- Variables with a version of their own and a configuration. -/
def release (version configuration : String) : String → Option String
  | "APPVEYOR_JOB_NAME" => some "w"
  | "APPVEYOR_BUILD_VERSION" => some version
  | "CONFIGURATION" => some configuration
  | _ => none

/-- A build folder with an executable of one byte. -/
def built (byte : UInt8) : Node :=
  .folder [("exotracker-qt.exe", .file { content := [byte] }),
    ("exotracker-qt.pdb", .file { content := [0] })]

/-- A project with some folders. -/
def projectOf (folders : List (EntryName × Node)) : Node :=
  .folder [("project", .folder folders)]

/-- What a run publishes the application as. -/
def applicationOf (run : Stage Unit Release) (s : Session Unit) : Option Path :=
  match run s with
  | .ok release _ => some release.application.path
  | .error _ _ => none

end PlainTools

namespace Pipeline

open PlainTools Stage

/-- A release with an empty configuration beside the one whose configuration is not mentioned. -/
theorem archive_keepsApart_of_empty_configuration :
    let pipeline := pipelineOf (release "1.0" "Release")
    let other := (pipelineOf (release "1.0" "")).job
    let s := sessionIn "/project" (projectOf
      [("build-w-Release", built 3), ("exotracker-v1.0--dev.7z", .file { content := [1] })])
    pipeline.job.ToldApart other ∧
      applicationOf (pipeline.archive .windows) s = some ⟨"/project/exotracker-v1.0-dev.7z"⟩ ∧
      pipeline.KeepsApart s other ∧
      (sessionAfter (pipeline.archive .windows) s).bench.disk.entryAt?
          (⟨"/project/exotracker-v1.0--dev.7z"⟩ : Path).location =
        some (.file { content := [1] }) := by
  intro pipeline other s
  have hlegal : s.bench.disk.Legal := by
    have hfile : ∀ content : Bytes, (Node.file { content }).Legal := fun content =>
      .of_isLeaf (isLeaf_file _)
    have hbuilt : (built 3).Legal := .folder <|
      List.forall_mem_cons.mpr ⟨⟨by decide, hfile [3]⟩,
        List.forall_mem_singleton.mpr ⟨by decide, hfile [0]⟩⟩
    refine .folder (List.forall_mem_singleton.mpr ⟨by decide, .folder ?_⟩)
    exact List.forall_mem_cons.mpr ⟨⟨by decide, hbuilt⟩,
      List.forall_mem_singleton.mpr ⟨by decide, hfile [1]⟩⟩
  have happart : pipeline.job.ToldApart other := .same_version (by decide)
  have hkeeps := archive_keepsApart pipeline s other happart
  have hother : ¬pipeline.job.SharesRelease other := fun h => absurd h.configuration_eq (by decide)
  have hspared := hkeeps.spares hother ⟨by decide, by decide⟩ ⟨by decide, by decide⟩ (by decide)
    hlegal (runner_confined none).contained "exotracker-v1.0--dev.7z" (by decide) []
  have hpath : s.workspace.cwd / "exotracker-v1.0--dev.7z" =
      ⟨"/project/exotracker-v1.0--dev.7z"⟩ := by decide
  rw [List.append_nil, hpath] at hspared
  refine ⟨happart, by decide +kernel, hkeeps, ?_⟩
  rw [hspared]
  decide +kernel

/-- Two releases without a dash in their versions, of which the second takes the place of the first:
the configuration of the first leads through a folder of the project back to the project. -/
theorem archive_overwrites_release :
    let first := pipelineOf (release "1" "x/../exotracker-v2")
    let second := pipelineOf (release "2" "Release")
    let s := sessionIn "/project" (projectOf [("build-w-x_.._exotracker-v2", built 1),
      ("build-w-Release", built 3), ("exotracker-v1-x", .folder [])])
    let t := sessionAfter (first.archive .windows) s
    let u := sessionAfter (second.archive .windows) t
    (first.job.version = "1" ∧ first.job.configuration = "x/../exotracker-v2" ∧
        second.job.version = "2" ∧ second.job.configuration = "Release") ∧
      (first.job.ToldApart second.job ∧ first.job.archiveName ≠ second.job.archiveName) ∧
      applicationOf (first.archive .windows) s =
        some ⟨"/project/exotracker-v1-x/../exotracker-v2-dev.7z"⟩ ∧
      applicationOf (second.archive .windows) t = some ⟨"/project/exotracker-v2-dev.7z"⟩ ∧
      (⟨"/project/exotracker-v1-x/../exotracker-v2-dev.7z"⟩ : Path).location =
        [.text "project", .text "exotracker-v2-dev.7z"] ∧
      t.bench.disk.entryAt? ["project", "exotracker-v2-dev.7z"] = some (.file { content := [1] }) ∧
      u.bench.disk.entryAt? ["project", "exotracker-v2-dev.7z"] = some (.file { content := [3] }) := by
  refine ⟨by decide, ⟨.plain_versions (by decide) (by decide), by decide⟩, ?_⟩
  decide +kernel

end Pipeline

end ReleasePipeline
