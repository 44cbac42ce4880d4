import ReleasePipeline.Proofs.Job.Names
import ReleasePipeline.Proofs.Text.Quoted

/-!
# ReleasePipeline.Proofs.Job.BuildFolder

Which jobs share a build folder. The folder is named after the job's label, its name and its
configuration with a dash between them, and the label is made safe character by character. Nothing
is lost but which unsafe characters there were: two texts become the same name exactly if they are
equally long and differ only where both have a character that an underscore stands for
(`sanitize_eq_iff`).

Where all characters are safe the name holds the label itself. Then the last dash is the one between
the two parts, provided that there is none in the configuration.
-/

namespace ReleasePipeline

namespace Text

/-! ### Safe names -/

/-- The letters and digits of ASCII, the underscore, the dash and the point. -/
def IsNameChar (c : Char) : Prop :=
  ('A' ≤ c ∧ c ≤ 'Z') ∨ ('a' ≤ c ∧ c ≤ 'z') ∨ ('0' ≤ c ∧ c ≤ '9') ∨ c = '_' ∨ c = '-' ∨ c = '.'

/-- The characters that an underscore stands for in a safe name. -/
def IsBlurred (c : Char) : Prop :=
  c = '_' ∨ ¬IsNameChar c

/-- Texts of one length that differ only where both have a blurred character. -/
structure LookAlike (a b : String) : Prop where
  length_eq : a.length = b.length
  chars : ∀ (i : Nat) (c d : Char), a.toList[i]? = some c → b.toList[i]? = some d →
    c = d ∨ IsBlurred c ∧ IsBlurred d

theorem isSafe_iff {c : Char} : isSafe c = true ↔ IsNameChar c := by
  have hwithin : ∀ a b : Char,
      (decide (a.val ≤ c.val) && decide (c.val ≤ b.val)) = true ↔ a ≤ c ∧ c ≤ b := fun a b => by
    rw [Bool.and_eq_true, decide_eq_true_eq, decide_eq_true_eq]
    rfl
  have hupper : c.isUpper = true ↔ 'A' ≤ c ∧ c ≤ 'Z' := decide_eq_true_iff
  have hlower : c.isLower = true ↔ 'a' ≤ c ∧ c ≤ 'z' := hwithin 'a' 'z'
  have hdigit : c.isDigit = true ↔ '0' ≤ c ∧ c ≤ '9' := hwithin '0' '9'
  change (((c.isUpper || c.isLower) || c.isDigit) || c == '_' || c == '-' || c == '.') = true ↔ _
  simp only [IsNameChar, Bool.or_eq_true, hupper, hlower, hdigit, beq_iff_eq, or_assoc]

theorem isNameChar_of_all {text : String} (h : text.toList.all isSafe = true) :
    ∀ c ∈ text.toList, IsNameChar c :=
  fun c hc => isSafe_iff.mp (List.all_eq_true.mp h c hc)

instance (c : Char) : Decidable (IsNameChar c) :=
  decidable_of_iff _ isSafe_iff

theorem isBlurred_iff {c : Char} : IsBlurred c ↔ sanitizeChar c = '_' := by
  rw [IsBlurred, ← isSafe_iff, sanitizeChar]
  by_cases hsafe : isSafe c = true
  · simp [hsafe]
  · simp [hsafe]

theorem sanitizeChar_of_not_isBlurred {c : Char} (h : ¬IsBlurred c) : sanitizeChar c = c := by
  rw [IsBlurred, not_or, Decidable.not_not] at h
  exact sanitizeChar_of_isSafe (isSafe_iff.mpr h.2)

theorem sanitizeChar_eq_iff {c d : Char} :
    sanitizeChar c = sanitizeChar d ↔ c = d ∨ IsBlurred c ∧ IsBlurred d := by
  constructor
  · intro h
    by_cases hc : IsBlurred c
    · exact .inr ⟨hc, isBlurred_iff.mpr (h ▸ isBlurred_iff.mp hc)⟩
    · have hd : ¬IsBlurred d := fun hd => hc (isBlurred_iff.mpr (h.trans (isBlurred_iff.mp hd)))
      rw [sanitizeChar_of_not_isBlurred hc, sanitizeChar_of_not_isBlurred hd] at h
      exact .inl h
  · rintro (rfl | ⟨hc, hd⟩)
    · rfl
    · rw [isBlurred_iff.mp hc, isBlurred_iff.mp hd]

theorem toList_sanitize (text : String) : (sanitize text).toList = text.toList.map sanitizeChar :=
  String.toList_ofList

/-- Sanitising confuses texts that look alike, and no others. -/
theorem sanitize_eq_iff {a b : String} : sanitize a = sanitize b ↔ LookAlike a b := by
  rw [← String.toList_inj, toList_sanitize, toList_sanitize]
  constructor
  · intro h
    constructor
    · simpa only [List.length_map, String.length_toList] using congrArg List.length h
    · intro i c d hc hd
      have hat : (a.toList.map sanitizeChar)[i]? = (b.toList.map sanitizeChar)[i]? := by rw [h]
      rw [List.getElem?_map, List.getElem?_map, hc, hd] at hat
      exact sanitizeChar_eq_iff.mp (Option.some.inj hat)
  · rintro ⟨hlength, hchars⟩
    rw [← String.length_toList, ← String.length_toList] at hlength
    refine List.ext_getElem (by simpa using hlength) fun i hi hj => ?_
    rw [List.getElem_map, List.getElem_map, sanitizeChar_eq_iff]
    exact hchars i _ _ (List.getElem?_eq_getElem _) (List.getElem?_eq_getElem _)

theorem isNameChar_of_mem_sanitize {text : String} {c : Char} (h : c ∈ (sanitize text).toList) :
    IsNameChar c := by
  rw [toList_sanitize, List.mem_map] at h
  obtain ⟨d, -, rfl⟩ := h
  exact isSafe_iff.mp (isSafe_sanitizeChar d)

/-- A safe name stays as it is. -/
theorem sanitize_of_isNameChar {text : String} (h : ∀ c ∈ text.toList, IsNameChar c) :
    sanitize text = text := by
  rw [← String.toList_inj, toList_sanitize]
  exact (List.map_congr_left fun c hc =>
    sanitizeChar_of_isSafe (isSafe_iff.mpr (h c hc))).trans (List.map_id _)

/-- A safe name takes one byte for each of its characters. -/
theorem utf8ByteSize_ofList {cs : List Char} (h : ∀ c ∈ cs, IsNameChar c) :
    (String.ofList cs).utf8ByteSize = cs.length := by
  have hone : ∀ c, IsNameChar c → c.utf8Size = 1 := by
    intro c hc
    have hascii : c ≤ '\x7F' := by
      rcases hc with ⟨-, hle⟩ | ⟨-, hle⟩ | ⟨-, hle⟩ | rfl | rfl | rfl
      · exact Char.le_trans hle (by decide)
      · exact Char.le_trans hle (by decide)
      · exact Char.le_trans hle (by decide)
      all_goals decide
    exact if_pos hascii
  induction cs with
  | nil => rfl
  | cons c rest ih =>
      obtain ⟨hc, hrest⟩ := List.forall_mem_cons.mp h
      rw [String.ofList_cons, String.utf8ByteSize_append, String.utf8ByteSize_singleton, hone c hc,
        ih hrest, List.length_cons, Nat.add_comm]

/-- What follows the last separator is told from what stands before it. -/
theorem append_token_inj {separator : Char} {token other xs ys : List Char}
    (htoken : separator ∉ token) (hother : separator ∉ other)
    (h : xs ++ separator :: token = ys ++ separator :: other) : xs = ys ∧ token = other := by
  have hreverse := congrArg List.reverse h
  simp only [List.reverse_append, List.reverse_cons, List.append_assoc, List.singleton_append]
    at hreverse
  obtain ⟨hrest, hfront⟩ := token_append_inj (by simpa using htoken) (by simpa using hother)
    (by rintro c ⟨⟩; rfl) (by rintro c ⟨⟩; rfl) hreverse
  exact ⟨List.reverse_inj.mp (List.cons.inj hfront).2, List.reverse_inj.mp hrest⟩

end Text

namespace Job

open Text

/-! ### Labels -/

/-- The text that the build folder is named after. -/
def label (job : Job) : String :=
  job.name ++ "-" ++ job.configuration

/-- A job with a label of safe characters, where the last dash stands between the two parts. -/
structure HasSafeLabel (job : Job) : Prop where
  name : ∀ c ∈ job.name.toList, IsNameChar c
  configuration : ∀ c ∈ job.configuration.toList, IsNameChar c
  no_dash : '-' ∉ job.configuration.toList

variable {job other : Job}

theorem buildFolder_eq (job : Job) : job.buildFolder = "build-" ++ sanitize job.label := by
  have hdash : sanitizeChar '-' = '-' := by decide
  rw [← String.toList_inj, String.toList_append, toList_sanitize, toList_buildFolder, label]
  simp [hdash]

theorem buildFolder_eq_iff :
    job.buildFolder = other.buildFolder ↔ LookAlike job.label other.label := by
  rw [buildFolder_eq, buildFolder_eq, String.append_right_inj, sanitize_eq_iff]

theorem HasSafeLabel.sanitize_eq (h : job.HasSafeLabel) : sanitize job.label = job.label := by
  refine sanitize_of_isNameChar fun c hc => ?_
  simp only [label, String.toList_append, List.mem_append] at hc
  rcases hc with (hc | hc) | hc
  · exact h.name c hc
  · obtain rfl : c = '-' := List.mem_singleton.mp hc
    decide
  · exact h.configuration c hc

theorem label_inj (h : '-' ∉ job.configuration.toList) (h' : '-' ∉ other.configuration.toList)
    (heq : job.label = other.label) : job.SharesFolder other := by
  have hchars := congrArg String.toList heq
  simp only [label, String.toList_append, List.append_assoc] at hchars
  obtain ⟨hname, hconfiguration⟩ := append_token_inj h h' hchars
  exact ⟨String.toList_inj.mp hname, String.toList_inj.mp hconfiguration⟩

/-! ### Shared folders -/

/-- **Build folders are shared by look-alikes only.** The folder depends on nothing but the name and
the configuration, and it gives both away where they are safe and there is no dash in the
configuration. -/
theorem buildFolder_collisions (job other : Job) :
    (job.buildFolder = other.buildFolder ↔ LookAlike job.label other.label) ∧
      (job.HasSafeLabel → other.HasSafeLabel → job.buildFolder = other.buildFolder →
        job.name = other.name ∧ job.configuration = other.configuration) ∧
      ∀ version withoutPch policy compilers,
        Job.buildFolder { job with version, withoutPch, policy, compilers } = job.buildFolder := by
  refine ⟨buildFolder_eq_iff, fun hjob hother hfolder => ?_, fun _ _ _ _ => rfl⟩
  rw [buildFolder_eq, buildFolder_eq, String.append_right_inj, hjob.sanitize_eq,
    hother.sanitize_eq] at hfolder
  obtain ⟨hname, hconfiguration⟩ := label_inj hjob.no_dash hother.no_dash hfolder
  exact ⟨hname, hconfiguration⟩

/-- Two versions of a job, built in one folder. -/
theorem buildFolder_collisions_of_versions :
    let job : Job :=
      { name := "win-x64.msvc", configuration := "Debug", version := "1.0", withoutPch := false
        policy := ⟨.copy, .keepSvg, .compress⟩, compilers := ⟨none, none⟩ }
    let other : Job := { job with version := "1.1-rc", withoutPch := true, compilers := ⟨"cl", "cl"⟩ }
    (job.HasSafeLabel ∧ other.HasSafeLabel ∧ job.buildFolder = other.buildFolder ∧ job ≠ other) ∧
      job.name = other.name ∧ job.configuration = other.configuration := by
  intro job other
  have hname : ∀ c ∈ job.name.toList, IsNameChar c := isNameChar_of_all (by decide)
  have hconfiguration : ∀ c ∈ job.configuration.toList, IsNameChar c :=
    isNameChar_of_all (by decide)
  have hjob : job.HasSafeLabel := ⟨hname, hconfiguration, by decide⟩
  have hother : other.HasSafeLabel := ⟨hname, hconfiguration, by decide⟩
  exact ⟨⟨hjob, hother, rfl, by decide⟩, (buildFolder_collisions job other).2.1 hjob hother rfl⟩

end Job

end ReleasePipeline
