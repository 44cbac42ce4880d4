import ReleasePipeline.Proofs.Job.Settings
import ReleasePipeline.Proofs.Text.Quoted

/-!
# ReleasePipeline.Proofs.Job.Complaints

What is said of variables that give no job. The value in the message is the user's, and may hold line
breaks, escapes, or an imitation of the rest of the message. It stands between quotes, so the message
is one line of characters that print, and the three things it says can be read off again: the
variable ends at the first space, the value at its closing quote, and the reason is the rest.
-/

namespace ReleasePipeline

open Text

/-- A text on one line, without control characters. -/
def IsOneLine (text : String) : Prop :=
  ∀ c ∈ text.toList, ¬IsControl c ∧ c ≠ '\u2028' ∧ c ≠ '\u2029'

theorem isOneLine_of_prints {text : String} (h : ∀ c ∈ text.toList, isUnprintable c = false) :
    IsOneLine text := by
  have hline : isUnprintable '\u2028' = true := isUnprintable_of_isBlank (by decide) (by decide)
  have hparagraph : isUnprintable '\u2029' = true :=
    isUnprintable_of_isBlank (by decide) (by decide)
  intro c hc
  have hprints := h c hc
  refine ⟨fun hcontrol => ?_, ?_, ?_⟩
  · cases (isUnprintable_of_isControl hcontrol).symm.trans hprints
  · rintro rfl
    cases hline.symm.trans hprints
  · rintro rfl
    cases hparagraph.symm.trans hprints

namespace Failure

theorem toList_invalidSetting (setting value reason : String) :
    (invalidSetting setting value reason).message.toList =
      setting.toList ++ (" environment value ".toList ++ (quoteChars value.toList ++
        (" is invalid: ".toList ++ reason.toList))) := by
  have hmessage : (invalidSetting setting value reason).message =
      setting ++ " environment value " ++ quote value ++ " is invalid: " ++ reason := rfl
  simp only [hmessage, quote, String.toList_append, String.toList_ofList, List.append_assoc]

/-- The message of a refused setting says which variable, value and reason it is about, if the name
of the variable has no space in it. -/
theorem invalidSetting_inj {setting value reason setting' value' reason' : String}
    (hsetting : ' ' ∉ setting.toList) (hsetting' : ' ' ∉ setting'.toList)
    (h : (invalidSetting setting value reason).message =
      (invalidSetting setting' value' reason').message) :
    setting = setting' ∧ value = value' ∧ reason = reason' := by
  have hchars := congrArg String.toList h
  rw [toList_invalidSetting, toList_invalidSetting] at hchars
  obtain ⟨hname, hrest⟩ := token_append_inj hsetting hsetting' (by rintro c ⟨⟩; rfl)
    (by rintro c ⟨⟩; rfl) hchars
  obtain ⟨hvalue, hrest⟩ := quoteChars_append_inj (List.append_cancel_left hrest)
  exact ⟨String.toList_inj.mp hname, String.toList_inj.mp hvalue,
    String.toList_inj.mp (List.append_cancel_left hrest)⟩

end Failure

namespace Job

open Setting

/-- A failure with which some variables are refused, read as texts or as raw bytes. -/
def IsRefusal (failure : Failure) : Prop :=
  (∃ lookup, ofVariables lookup = .error failure) ∨ ∃ lookup, ofRawVariables lookup = .error failure

/-- What may be said of a variable. -/
def complaints : List String :=
  "not valid UTF-8" :: checks.map Check.complaint

theorem exists_of_ofVariables_error {lookup : String → Option String} {failure : Failure}
    (h : ofVariables lookup = .error failure) :
    ∃ setting ∈ Setting.matrix, ∃ value, ∃ reason ∈ complaints,
      failure = .invalidSetting setting value reason := by
  have hsettings : ∀ check ∈ checks, check.setting ∈ Setting.matrix := by decide
  obtain ⟨check, text, hfind, -, rfl⟩ := ((decides_ofVariables lookup).error_iff failure).mp h
  have hcheck : check ∈ checks := List.mem_of_find?_eq_some hfind
  exact ⟨check.setting, hsettings check hcheck, text, check.complaint,
    .tail _ (List.mem_map_of_mem hcheck), rfl⟩

theorem exists_of_ofRawVariables_error {lookup : String → Option Bytes} {failure : Failure}
    (h : ofRawVariables lookup = .error failure) :
    ∃ setting ∈ Setting.matrix, ∃ value, ∃ reason ∈ complaints,
      failure = .invalidSetting setting value reason := by
  cases hfirst : Setting.matrix.find? (isUnreadable lookup) with
  | none =>
      have hreadable : ∀ setting ∈ Setting.matrix, isUnreadable lookup setting = false :=
        fun setting hmem => by simpa using List.find?_eq_none.mp hfirst setting hmem
      rw [ofRawVariables_of_readable hreadable] at h
      exact exists_of_ofVariables_error h
  | some setting =>
      obtain ⟨raw, hraw, -⟩ := isUnreadable_iff.mp (List.find?_some hfirst)
      rw [ofRawVariables_of_unreadable hfirst hraw] at h
      exact ⟨setting, List.mem_of_find?_eq_some hfirst, _, "not valid UTF-8", List.mem_cons_self ..,
        (Except.error.inj h).symm⟩

theorem IsRefusal.exists_eq {failure : Failure} (h : IsRefusal failure) :
    ∃ setting ∈ Setting.matrix, ∃ value, ∃ reason ∈ complaints,
      failure = .invalidSetting setting value reason := by
  rcases h with ⟨lookup, h⟩ | ⟨lookup, h⟩
  · exact exists_of_ofVariables_error h
  · exact exists_of_ofRawVariables_error h

/-- The parts of a refusal that are not the user's are printing ASCII. -/
theorem prints_of_mem_message {setting value reason : String} (hsetting : setting ∈ Setting.matrix)
    (hreason : reason ∈ complaints) {c : Char}
    (hc : c ∈ (Failure.invalidSetting setting value reason).message.toList) :
    isUnprintable c = false := by
  have hfixed : (" environment value " :: " is invalid: " :: (Setting.matrix ++ complaints)).all
      (·.toList.all isPrintingAscii) = true := by decide +kernel
  have hparts : ∀ part ∈ " environment value " :: " is invalid: " :: (Setting.matrix ++ complaints),
      ∀ c ∈ part.toList, isUnprintable c = false := by
    intro part hpart c hc
    have hpart := List.all_eq_true.mp hfixed part hpart
    exact prints_ascii (List.all_eq_true.mp hpart c hc)
  simp only [Failure.toList_invalidSetting, List.mem_append] at hc
  rcases hc with hc | hc | hc | hc | hc
  · exact hparts setting (by simp [hsetting]) c hc
  · exact hparts " environment value " (by simp) c hc
  · exact prints_of_mem_quoteChars hc
  · exact hparts " is invalid: " (by simp) c hc
  · exact hparts reason (by simp [hreason]) c hc

/-- **A complaint cannot be forged.** Whatever the variables hold, the message with which they are
refused is one line, and no other refusal has it: the same message is about the same variable, value
and reason. -/
theorem refusals_tellApart {failure other : Failure} (h : IsRefusal failure)
    (hother : IsRefusal other) :
    IsOneLine failure.message ∧ (failure.message = other.message →
      ∃ setting value reason, failure = .invalidSetting setting value reason ∧
        other = .invalidSetting setting value reason) := by
  have hnames : ∀ setting ∈ Setting.matrix, ' ' ∉ setting.toList := by decide
  obtain ⟨setting, hsetting, value, reason, hreason, rfl⟩ := h.exists_eq
  obtain ⟨setting', hsetting', value', reason', hreason', rfl⟩ := hother.exists_eq
  refine ⟨isOneLine_of_prints fun c hc => prints_of_mem_message hsetting hreason hc, fun heq => ?_⟩
  obtain ⟨rfl, rfl, rfl⟩ :=
    Failure.invalidSetting_inj (hnames setting hsetting) (hnames setting' hsetting') heq
  exact ⟨setting, value, reason, rfl, rfl⟩

/-- What is said of a flag whose text goes on like a complaint about another variable. -/
def imitation : Failure :=
  .invalidSetting "DISABLE_PCH"
    "2\" is invalid: must be 0 or 1 if present\nCC environment value \"x" "must be 0 or 1 if present"

/-- What is said of a compiler whose name breaks off inside a character. -/
def brokenName : Failure :=
  .invalidSetting "CC" "x\uFFFD" "not valid UTF-8"

theorem refusals_tellApart_of_imitation :
    IsRefusal imitation ∧ IsRefusal brokenName ∧ IsOneLine imitation.message ∧
      (imitation.message = brokenName.message → ∃ setting value reason,
        imitation = .invalidSetting setting value reason ∧
          brokenName = .invalidSetting setting value reason) := by
  have himitation : IsRefusal imitation :=
    .inl ⟨fun setting => if setting = "DISABLE_PCH" then
      some "2\" is invalid: must be 0 or 1 if present\nCC environment value \"x" else none, rfl⟩
  have hbroken : IsRefusal brokenName :=
    .inr ⟨fun setting => if setting = "CC" then some [0x78, 0xE2, 0x82] else none, rfl⟩
  exact ⟨himitation, hbroken, refusals_tellApart himitation hbroken⟩

end Job

end ReleasePipeline
