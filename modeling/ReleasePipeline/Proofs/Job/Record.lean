import Mathlib.Data.List.Nodup
import ReleasePipeline.Job.Record
import ReleasePipeline.Proofs.Json.RoundTrip

/-!
# ReleasePipeline.Proofs.Job.Record

A job survives being written down. Each part of a record is read back by itself: the fields of a
record with distinct names, a text, a selector that may be absent, and a choice by its name. So a job
is what its text gives, and two jobs with one text are one job.
-/

namespace ReleasePipeline

/-- A choice of which every option is found by its name. -/
class Choice.IsNamed (α : Type) [Choice α] : Prop where
  ofName?_name : ∀ choice : α, Choice.ofName? (Choice.name choice) = some choice

instance : Choice.IsNamed ExecutableTransfer := ⟨fun choice => by cases choice <;> rfl⟩

instance : Choice.IsNamed ImageFormats := ⟨fun choice => by cases choice <;> rfl⟩

instance : Choice.IsNamed DebugSymbols := ⟨fun choice => by cases choice <;> rfl⟩

namespace Json

/-! ### Fields -/

@[simp] theorem asText?_text (content : String) : asText? (.text content) = some content := rfl

@[simp] theorem asBool?_bool (value : Bool) : asBool? (.bool value) = some value := rfl

/-- An absent text stays absent, and an empty one stays empty. -/
@[simp] theorem asOptionalText?_optionalText (content : Option String) :
    asOptionalText? (.optionalText content) = some content := by
  cases content <;> rfl

@[simp] theorem asChoice?_text_name [Choice α] [Choice.IsNamed α] (choice : α) :
    asChoice? (.text (Choice.name choice)) = some choice :=
  Choice.IsNamed.ofName?_name choice

/-! ### Records -/

theorem lookup_of_nodup {members : List (String × Value)} (h : (members.map Prod.fst).Nodup)
    {member : String × Value} (hmem : member ∈ members) :
    (members.map fun m => (some m.1, m.2)).lookup (some member.1) = some member.2 := by
  induction members with
  | nil => cases hmem
  | cons first rest ih =>
      rw [List.map_cons, List.nodup_cons] at h
      rcases List.mem_cons.mp hmem with rfl | hmem
      · simp
      · have hne : member.1 ≠ first.1 := fun e => h.1 (e ▸ List.mem_map_of_mem hmem)
        have hbeq : (some member.1 == some first.1) = false := by simpa using hne
        rw [List.map_cons, List.lookup_cons, hbeq]
        exact ih h.2 hmem

/-- The fields of a record with distinct names, read by these names, are its values. -/
theorem recordFields?_record {members : List (String × Value)}
    (h : (members.map Prod.fst).Nodup) :
    recordFields? (members.map Prod.fst) (.record members) =
      some (members.map fun member => some member.2) := by
  have hcount : ∀ name,
      (members.map fun m => (some m.1, m.2)).countP (·.1 == some name) ≤ 1 := by
    intro name
    have hname := List.nodup_iff_count_le_one.mp h name
    rw [List.count, List.countP_map] at hname
    rw [List.countP_map]
    exact hname
  have hnamed : wellNamed (members.map Prod.fst) (members.map fun m => (some m.1, m.2)) = true := by
    simp only [wellNamed, Bool.and_eq_true, List.all_eq_true, decide_eq_true_eq]
    refine ⟨fun named hmem => ?_, fun name _ => hcount name⟩
    obtain ⟨member, -, rfl⟩ := List.mem_map.mp hmem
    rfl
  simp only [recordFields?, Value.record, hnamed, if_true, List.map_map, Option.some.injEq]
  exact List.map_congr_left fun member hmem => lookup_of_nodup h hmem

end Json

open Json

/-! ### The parts of a job -/

theorem ArchivePolicy.ofJson?_toJson (policy : ArchivePolicy) :
    ArchivePolicy.ofJson? policy.toJson = some policy := by
  have hfields : recordFields? ["executable", "image_formats", "debug_symbols"] policy.toJson = _ :=
    recordFields?_record (by simp)
  simp [ofJson?, hfields]

theorem CompilerChoice.ofJson?_toJson (compilers : CompilerChoice) :
    CompilerChoice.ofJson? compilers.toJson = some compilers := by
  have hfields : recordFields? ["cc", "cxx"] compilers.toJson = _ :=
    recordFields?_record (by simp)
  simp [ofJson?, hfields]

namespace Job

theorem ofJson?_toJson (job : Job) : Job.ofJson? job.toJson = some job := by
  have hfields : recordFields? ["job_name", "configuration", "version", "disable_pch", "archive",
      "compilers"] job.toJson = _ :=
    recordFields?_record (by simp)
  simp [ofJson?, hfields, ArchivePolicy.ofJson?_toJson, CompilerChoice.ofJson?_toJson]

theorem isTextual_toJson (job : Job) : job.toJson.IsTextual := by
  simp [toJson, ArchivePolicy.toJson, CompilerChoice.toJson]

/-! ### A job and its text -/

/-- **A job is what its record gives.** Whatever texts its names and selectors are, the record of a
job is read back as the very same job; so no two jobs have one record. -/
theorem toText_faithful :
    (∀ job : Job, Job.ofText? job.toText = some job) ∧ Function.Injective Job.toText := by
  have hread : ∀ job : Job, Job.ofText? job.toText = some job := by
    intro job
    rw [ofText?, toText, Value.ofText?_compact job.isTextual_toJson, Option.bind_some,
      ofJson?_toJson]
  refine ⟨hread, fun job other h => ?_⟩
  exact Option.some.inj ((hread job).symm.trans ((congrArg Job.ofText? h).trans (hread other)))

end Job

end ReleasePipeline
