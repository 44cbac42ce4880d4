import ReleasePipeline.Job.Settings
import ReleasePipeline.Proofs.Job.Record
import ReleasePipeline.Proofs.Text.Utf8

/-!
# ReleasePipeline.Proofs.Job.Settings

Which variables give a job, which job they give, and what is reported otherwise.

Reading is a sequence of checks, each on one variable (`Setting.checks`). `Decides` says what such a
sequence comes to: the first check that fails is reported with the text that failed it, and if none
fails the result is what the variables say. A sequence is put together from single checks by
`Decides.bind`, so that the order of the checks is that of the reader and nothing else has to be
known about the parts.

Raw bytes go through a sequence of their own first, one check for each variable of the matrix, and
are then read as the texts whose encodings they are.
-/

namespace ReleasePipeline

/-! ### Checks -/

namespace Setting

/-- What is asked of a variable that is set: the texts that it may hold, and what is said of any
other. -/
structure Check where
  setting : String
  allowed : List String
  complaint : String

/-- Whether a variable is set to a text that it may not hold. -/
def Check.fails (lookup : String → Option String) (check : Check) : Bool :=
  (lookup check.setting).any (· ∉ check.allowed)

/-- The checks of the matrix, in the order in which they are made. -/
def checks : List Check :=
  [{ setting := "DISABLE_PCH", allowed := ["", "0", "1"],
     complaint := "must be 0 or 1 if present" },
   { setting := "ARCHIVE_EXE_TRANSFER", allowed := ["", "copy", "move"],
     complaint := "expected one of: copy, move" },
   { setting := "ARCHIVE_IMAGEFORMATS", allowed := ["", "keep-svg", "remove-all"],
     complaint := "expected one of: keep-svg, remove-all" },
   { setting := "ARCHIVE_DEBUG_SYMBOLS", allowed := ["", "compress", "rename"],
     complaint := "expected one of: compress, rename" }]

theorem Check.fails_iff {lookup : String → Option String} {check : Check} :
    check.fails lookup = true ↔ ∃ text, lookup check.setting = some text ∧ text ∉ check.allowed := by
  cases h : lookup check.setting <;> simp [fails, h]

/-- Every variable that is checked is not set or holds a text that it may hold. -/
def Passes (lookup : String → Option String) (checks : List Check) : Prop :=
  ∀ check ∈ checks, ∀ text, lookup check.setting = some text → text ∈ check.allowed

theorem passes_iff {lookup : String → Option String} {checks : List Check} :
    Passes lookup checks ↔ checks.find? (·.fails lookup) = none := by
  rw [List.find?_eq_none]
  refine forall₂_congr fun check _ => ?_
  rw [Check.fails_iff]
  simp only [not_exists, not_and, not_not]

/-- The name of the choice that a variable makes: the one given, or that of the default. -/
def nameOr (default : String) : Option String → String
  | none => default
  | some text => if text = "" then default else text

end Setting

open Setting

/-- A part of reading a job that makes some checks one after the other. -/
structure Decides (lookup : String → Option String) (checks : List Check) (x : Except Failure α)
    (P : α → Prop) : Prop where
  refuses : ∀ check text, checks.find? (·.fails lookup) = some check →
    lookup check.setting = some text →
      x = .error (.invalidSetting check.setting text check.complaint)
  accepts : checks.find? (·.fails lookup) = none → ∃ a, x = .ok a ∧ P a

namespace Decides

variable {lookup : String → Option String} {check : Check} {checks : List Check}

theorem pure {a : α} {P : α → Prop} (h : P a) : Decides lookup [] (.ok a) P :=
  ⟨nofun, fun _ => ⟨a, rfl, h⟩⟩

/-- A single check that is made on a text if there is one. -/
theorem of_check {x : Except Failure α} {P : α → Prop}
    (hrefuses : ∀ text, lookup check.setting = some text → text ∉ check.allowed →
      x = .error (.invalidSetting check.setting text check.complaint))
    (haccepts : (∀ text, lookup check.setting = some text → text ∈ check.allowed) →
      ∃ a, x = .ok a ∧ P a) : Decides lookup [check] x P := by
  constructor
  · intro found text hfind htext
    obtain rfl : check = found := List.mem_singleton.mp (List.mem_of_find?_eq_some hfind) |>.symm
    obtain ⟨bad, hbad, hnot⟩ := Check.fails_iff.mp (List.find?_some hfind)
    obtain rfl : bad = text := Option.some.inj (hbad.symm.trans htext)
    exact hrefuses bad htext hnot
  · intro hfind
    refine haccepts fun text htext => Decidable.byContradiction fun hnot => ?_
    exact List.find?_eq_none.mp hfind check (List.mem_singleton_self check)
      (Check.fails_iff.mpr ⟨text, htext, hnot⟩)

theorem bind {x : Except Failure α} {f : α → Except Failure β} {P : α → Prop} {Q : β → Prop}
    (hx : Decides lookup [check] x P) (hf : ∀ a, P a → Decides lookup checks (f a) Q) :
    Decides lookup (check :: checks) (x >>= f) Q := by
  cases hfails : check.fails lookup with
  | true =>
      have hfirst : ∀ others : List Check,
          (check :: others).find? (·.fails lookup) = some check :=
        fun others => List.find?_cons_of_pos hfails
      constructor
      · intro found text hfind htext
        obtain rfl : check = found := Option.some.inj ((hfirst checks).symm.trans hfind)
        rw [hx.refuses check text (hfirst []) htext]
        rfl
      · intro hfind
        rw [hfirst checks] at hfind
        cases hfind
  | false =>
      have hrest : ∀ others : List Check,
          (check :: others).find? (·.fails lookup) = others.find? (·.fails lookup) :=
        fun others => List.find?_cons_of_neg (by simp [hfails])
      obtain ⟨a, rfl, ha⟩ := hx.accepts (hrest [])
      constructor
      · intro found text hfind htext
        exact (hf a ha).refuses found text ((hrest checks).symm.trans hfind) htext
      · intro hfind
        exact (hf a ha).accepts ((hrest checks).symm.trans hfind)

/-- A sequence of checks ends in one of two ways. -/
theorem ending {x : Except Failure α} {P : α → Prop} (hx : Decides lookup checks x P) :
    (Passes lookup checks ∧ ∃ a, x = .ok a ∧ P a) ∨
      ∃ check text, checks.find? (·.fails lookup) = some check ∧
        lookup check.setting = some text ∧ ¬Passes lookup checks ∧
          x = .error (.invalidSetting check.setting text check.complaint) := by
  cases hfind : checks.find? (·.fails lookup) with
  | none => exact .inl ⟨passes_iff.mpr hfind, hx.accepts hfind⟩
  | some check =>
      obtain ⟨text, htext, -⟩ := Check.fails_iff.mp (List.find?_some hfind)
      refine .inr ⟨check, text, rfl, htext, fun hpasses => ?_, hx.refuses check text hfind htext⟩
      cases (passes_iff.mp hpasses).symm.trans hfind

theorem of_ok {x : Except Failure α} {P : α → Prop} {a : α} (hx : Decides lookup checks x P)
    (h : x = .ok a) : Passes lookup checks ∧ P a := by
  rcases hx.ending with ⟨hpasses, b, hb, hP⟩ | ⟨_, _, _, _, _, herror⟩
  · rw [h] at hb
    exact ⟨hpasses, Except.ok.inj hb ▸ hP⟩
  · cases h.symm.trans herror

theorem exists_ok_iff {x : Except Failure α} {P : α → Prop} (hx : Decides lookup checks x P) :
    (∃ a, x = .ok a) ↔ Passes lookup checks := by
  refine ⟨fun ⟨a, ha⟩ => (hx.of_ok ha).1, fun hpasses => ?_⟩
  obtain ⟨a, ha, -⟩ := hx.accepts (passes_iff.mp hpasses)
  exact ⟨a, ha⟩

theorem error_iff {x : Except Failure α} {P : α → Prop} (hx : Decides lookup checks x P)
    (failure : Failure) :
    x = .error failure ↔ ∃ check text, checks.find? (·.fails lookup) = some check ∧
      lookup check.setting = some text ∧
        failure = .invalidSetting check.setting text check.complaint := by
  constructor
  · intro h
    rcases hx.ending with ⟨_, a, ha, _⟩ | ⟨check, text, hfind, htext, _, herror⟩
    · cases h.symm.trans ha
    · exact ⟨check, text, hfind, htext, Except.error.inj (h.symm.trans herror)⟩
  · rintro ⟨check, text, hfind, htext, rfl⟩
    exact hx.refuses check text hfind htext

end Decides

theorem Choice.name_injective [Choice α] [Choice.IsNamed α] {choice other : α}
    (h : Choice.name choice = Choice.name other) : choice = other := by
  have hread := Choice.IsNamed.ofName?_name choice
  rw [h, Choice.IsNamed.ofName?_name other] at hread
  exact (Option.some.inj hread).symm

namespace Job

variable {lookup : String → Option String} {setting : String}

theorem flag?_eq_none {text : String} (h : text ∉ ["", "0", "1"]) : flag? text = none := by
  simp only [List.mem_cons, List.not_mem_nil, or_false, not_or] at h
  simp [flag?, h]

theorem decides_readFlag :
    Decides lookup [⟨setting, ["", "0", "1"], "must be 0 or 1 if present"⟩]
      (readFlag lookup setting) fun flag => flag = true ↔ lookup setting = some "1" := by
  refine .of_check (fun text htext hnot => ?_) fun hall => ?_
  · simp only at htext hnot
    simp [readFlag, htext, flag?_eq_none hnot]
  · unfold readFlag
    cases htext : lookup setting with
    | none => exact ⟨false, rfl, by simp⟩
    | some text =>
        have hallowed : text ∈ ["", "0", "1"] := hall text htext
        simp only [List.mem_cons, List.not_mem_nil, or_false] at hallowed
        rcases hallowed with rfl | rfl | rfl
        · exact ⟨false, rfl, by simp⟩
        · exact ⟨false, rfl, by simp⟩
        · exact ⟨true, rfl, by simp⟩

section Choices

variable [Choice α]

theorem ofName?_eq_none {text : String}
    (h : text ∉ (Choice.options (α := α)).map Prod.fst) : Choice.ofName? (α := α) text = none := by
  rw [Choice.ofName?, List.lookup_eq_none_iff]
  intro option hoption
  rw [bne_iff_ne]
  rintro rfl
  exact h (List.mem_map_of_mem hoption)

theorem exists_ofName? {text : String} (h : text ∈ (Choice.options (α := α)).map Prod.fst) :
    ∃ choice : α, Choice.ofName? text = some choice := by
  cases hchoice : Choice.ofName? (α := α) text with
  | some choice => exact ⟨choice, rfl⟩
  | none =>
      obtain ⟨option, hoption, rfl⟩ := List.mem_map.mp h
      have hne := List.lookup_eq_none_iff.mp hchoice option hoption
      simp at hne

/-- A choice is read from its variable if every option is listed under its own name. -/
theorem decides_readChoice
    (hnames : ∀ option ∈ Choice.options (α := α), Choice.name option.2 = option.1) :
    Decides lookup
      [⟨setting, "" :: (Choice.options (α := α)).map Prod.fst, Choice.complaint α⟩]
      (readChoice α lookup setting) fun choice =>
        Choice.name choice = nameOr (Choice.name (Choice.default : α)) (lookup setting) := by
  refine .of_check (fun text htext hnot => ?_) fun hall => ?_
  · simp only [List.mem_cons, not_or] at htext hnot
    simp only [readChoice, htext, if_neg hnot.1, ofName?_eq_none hnot.2]
  · unfold readChoice
    cases htext : lookup setting with
    | none => exact ⟨_, rfl, rfl⟩
    | some text =>
        by_cases hempty : text = ""
        · exact ⟨_, if_pos hempty, by rw [nameOr, if_pos hempty]⟩
        · obtain ⟨choice, hchoice⟩ := exists_ofName? (α := α)
            ((List.mem_cons.mp (hall text htext)).resolve_left hempty)
          obtain ⟨before, after, hoptions, -⟩ := List.lookup_eq_some_iff.mp hchoice
          refine ⟨choice, by simp only [if_neg hempty, hchoice], ?_⟩
          rw [nameOr, if_neg hempty]
          exact hnames (text, choice) (by simp [hoptions])

end Choices

/-! ### A job from texts -/

/-- Every field of the job is what its own variable says. -/
structure IsReadFrom (lookup : String → Option String) (job : Job) : Prop where
  name : job.name = (lookup "APPVEYOR_JOB_NAME").getD "APPVEYOR_JOB_NAME"
  configuration : job.configuration = (lookup "CONFIGURATION").getD "Release"
  version : job.version = (lookup "APPVEYOR_BUILD_VERSION").getD "UnknownVer"
  withoutPch : job.withoutPch = true ↔ lookup "DISABLE_PCH" = some "1"
  executable : Choice.name job.policy.executable = nameOr "copy" (lookup "ARCHIVE_EXE_TRANSFER")
  imageFormats :
    Choice.name job.policy.imageFormats = nameOr "keep-svg" (lookup "ARCHIVE_IMAGEFORMATS")
  debugSymbols :
    Choice.name job.policy.debugSymbols = nameOr "compress" (lookup "ARCHIVE_DEBUG_SYMBOLS")
  cc : job.compilers.c = lookup "CC"
  cxx : job.compilers.cxx = lookup "CXX"

/-- What the variables say is said of one job only. -/
theorem IsReadFrom.unique {job other : Job} (h : job.IsReadFrom lookup)
    (h' : other.IsReadFrom lookup) : job = other := by
  obtain ⟨_, _, _, _, ⟨_, _, _⟩, ⟨_, _⟩⟩ := job
  obtain ⟨_, _, _, _, ⟨_, _, _⟩, ⟨_, _⟩⟩ := other
  simp only [mk.injEq, ArchivePolicy.mk.injEq, CompilerChoice.mk.injEq]
  refine ⟨h.name.trans h'.name.symm, h.configuration.trans h'.configuration.symm,
    h.version.trans h'.version.symm, ?_, ⟨?_, ?_, ?_⟩, h.cc.trans h'.cc.symm,
    h.cxx.trans h'.cxx.symm⟩
  · rw [Bool.eq_iff_iff]
    exact h.withoutPch.trans h'.withoutPch.symm
  · exact Choice.name_injective (h.executable.trans h'.executable.symm)
  · exact Choice.name_injective (h.imageFormats.trans h'.imageFormats.symm)
  · exact Choice.name_injective (h.debugSymbols.trans h'.debugSymbols.symm)

theorem decides_ofVariables (lookup : String → Option String) :
    Decides lookup checks (ofVariables lookup) (IsReadFrom lookup) := by
  refine decides_readFlag.bind fun withoutPch hpch => ?_
  refine (decides_readChoice (α := ExecutableTransfer) (by decide)).bind fun executable hexe => ?_
  refine (decides_readChoice (α := ImageFormats) (by decide)).bind fun imageFormats hformats => ?_
  refine (decides_readChoice (α := DebugSymbols) (by decide)).bind fun debugSymbols hsymbols => ?_
  exact .pure {
    name := rfl, configuration := rfl, version := rfl, withoutPch := hpch,
    executable := hexe, imageFormats := hformats, debugSymbols := hsymbols,
    cc := rfl, cxx := rfl }

/-- The reader looks at the variables of the matrix only. -/
theorem ofVariables_congr {lookup other : String → Option String}
    (h : ∀ setting ∈ Setting.matrix, other setting = lookup setting) :
    ofVariables other = ofVariables lookup := by
  simp only [Setting.matrix, List.mem_cons, List.not_mem_nil, or_false, forall_eq_or_imp,
    forall_eq] at h
  simp only [ofVariables, readFlag, readChoice, h]

/-- What the reader of texts does with some variables. -/
structure ReadsExactly (lookup : String → Option String) : Prop where
  accepts : (∃ job, ofVariables lookup = .ok job) ↔ Passes lookup checks
  gives : ∀ job, ofVariables lookup = .ok job ↔ Passes lookup checks ∧ job.IsReadFrom lookup
  refuses : ∀ failure, ofVariables lookup = .error failure ↔ ∃ check text,
    checks.find? (·.fails lookup) = some check ∧ lookup check.setting = some text ∧
      failure = .invalidSetting check.setting text check.complaint
  agrees : ∀ other, (∀ setting ∈ Setting.matrix, other setting = lookup setting) →
    ofVariables other = ofVariables lookup

/-- **Variables give a job exactly if each may hold what it holds**, and then every field is what its
own variable says. If some may not, the first of them in the order of the checks is reported with its
text. -/
theorem ofVariables_readsExactly (lookup : String → Option String) : ReadsExactly lookup := by
  have hreads := decides_ofVariables lookup
  refine ⟨hreads.exists_ok_iff, fun job => ⟨hreads.of_ok, ?_⟩, hreads.error_iff,
    fun other => ofVariables_congr⟩
  rintro ⟨hpasses, hjob⟩
  obtain ⟨read, hread⟩ := hreads.exists_ok_iff.mpr hpasses
  rw [hread, (hreads.of_ok hread).2.unique hjob]

/-- Of two texts that are not allowed, the one that is checked first is reported. -/
example :
    ofVariables (List.lookup · [("ARCHIVE_EXE_TRANSFER", "link"), ("DISABLE_PCH", "yes")]) =
      .error (.invalidSetting "DISABLE_PCH" "yes" "must be 0 or 1 if present") :=
  rfl

/-! ### A job from raw bytes -/

section Raw

variable {lookup : String → Option Bytes} {setting : String} {settings : List String} {raw : Bytes}

/-- Whether a variable is set to bytes that spell no text. -/
def isUnreadable (lookup : String → Option Bytes) (setting : String) : Bool :=
  (lookup setting).any (¬Utf8.IsText ·)

theorem isUnreadable_iff :
    isUnreadable lookup setting = true ↔ ∃ raw, lookup setting = some raw ∧ ¬Utf8.IsText raw := by
  cases h : lookup setting <;> simp [isUnreadable, h]

theorem decodeVariable_of_unreadable (hraw : lookup setting = some raw) (h : ¬Utf8.IsText raw) :
    decodeVariable lookup setting =
      .error (.invalidSetting setting (Utf8.decodeLossy raw) "not valid UTF-8") := by
  have hnone : Utf8.decode? raw = none := by
    rwa [Utf8.isText_iff, Bool.not_eq_true, Option.isSome_eq_false_iff, Option.isNone_iff_eq_none]
      at h
  simp only [decodeVariable, hraw, hnone]

theorem decodeVariable_of_readable (h : isUnreadable lookup setting = false) :
    decodeVariable lookup setting = .ok ((lookup setting).bind Utf8.decode?) := by
  unfold decodeVariable
  cases hraw : lookup setting with
  | none => rfl
  | some raw =>
      have htext : Utf8.IsText raw := by simpa [isUnreadable, hraw] using h
      obtain ⟨text, hread⟩ := Option.isSome_iff_exists.mp (Utf8.isText_iff.mp htext)
      simp only [hread, Option.bind_some]

/-- The first variable that cannot be read is reported, whatever stands in those after it. -/
theorem decodeVariables_of_unreadable
    (hfirst : settings.find? (isUnreadable lookup) = some setting)
    (hraw : lookup setting = some raw) :
    decodeVariables lookup settings =
      .error (.invalidSetting setting (Utf8.decodeLossy raw) "not valid UTF-8") := by
  induction settings with
  | nil => cases hfirst
  | cons other rest ih =>
      rw [List.find?_cons] at hfirst
      rw [decodeVariables]
      split at hfirst
      · rename_i hother
        obtain rfl := Option.some.inj hfirst
        obtain ⟨bad, hbad, hnot⟩ := isUnreadable_iff.mp hother
        obtain rfl : bad = raw := Option.some.inj (hbad.symm.trans hraw)
        rw [decodeVariable_of_unreadable hraw hnot]
        rfl
      · rename_i hother
        rw [decodeVariable_of_readable hother, ih hfirst]
        rfl

/-- If all can be read, they are read as the texts that they encode. -/
theorem decodeVariables_of_readable
    (h : ∀ setting ∈ settings, isUnreadable lookup setting = false) :
    ∃ texts, decodeVariables lookup settings = .ok texts ∧ ∀ setting, texts.lookup setting =
      if setting ∈ settings then (lookup setting).bind Utf8.decode? else none := by
  induction settings with
  | nil => exact ⟨[], rfl, fun setting => rfl⟩
  | cons first rest ih =>
      obtain ⟨others, hothers, hlookup⟩ := ih fun setting hmem => h setting (.tail first hmem)
      have hfirst := decodeVariable_of_readable (h first (List.mem_cons_self ..))
      rw [decodeVariables, hfirst, hothers]
      cases htext : (lookup first).bind Utf8.decode? with
      | none =>
          refine ⟨others, rfl, fun setting => ?_⟩
          by_cases heq : setting = first
          · simp [hlookup, heq, htext]
          · simp [hlookup, heq]
      | some text =>
          refine ⟨(first, text) :: others, rfl, fun setting => ?_⟩
          by_cases heq : setting = first
          · simp [heq, htext]
          · have hbeq : (setting == first) = false := beq_false_of_ne heq
            simp [List.lookup_cons, hlookup, heq, hbeq]

theorem ofRawVariables_of_readable
    (h : ∀ setting ∈ Setting.matrix, isUnreadable lookup setting = false) :
    ofRawVariables lookup = ofVariables fun setting => (lookup setting).bind Utf8.decode? := by
  obtain ⟨texts, htexts, hlookup⟩ := decodeVariables_of_readable h
  rw [ofRawVariables, htexts]
  refine ofVariables_congr fun setting hmem => ?_
  rw [hlookup, if_pos hmem]

theorem ofRawVariables_of_unreadable
    (hfirst : Setting.matrix.find? (isUnreadable lookup) = some setting)
    (hraw : lookup setting = some raw) :
    ofRawVariables lookup =
      .error (.invalidSetting setting (Utf8.decodeLossy raw) "not valid UTF-8") := by
  rw [ofRawVariables, decodeVariables_of_unreadable hfirst hraw]
  rfl

/-- What the reader of raw bytes does with some variables, next to the reader of texts. -/
structure RefinesTexts (lookup : String → Option Bytes) : Prop where
  readable : (∀ setting ∈ Setting.matrix, ∀ raw, lookup setting = some raw → Utf8.IsText raw) →
    ofRawVariables lookup = ofVariables fun setting => (lookup setting).bind Utf8.decode?
  encoded : ∀ texts : String → Option String,
    (∀ setting ∈ Setting.matrix, lookup setting = (texts setting).map Utf8.encode) →
      ofRawVariables lookup = ofVariables texts
  unreadable : (∃ setting ∈ Setting.matrix, ∃ raw, lookup setting = some raw ∧ ¬Utf8.IsText raw) →
    ∃ setting raw, Setting.matrix.find? (isUnreadable lookup) = some setting ∧
      lookup setting = some raw ∧ Utf8.StandsFor (Utf8.decodeLossy raw) raw ∧
        ofRawVariables lookup =
          .error (.invalidSetting setting (Utf8.decodeLossy raw) "not valid UTF-8")

/-- **Raw bytes are read as the texts that they encode.** If some variable of the matrix is set to
bytes that encode none, the first such variable is reported, whatever the others hold. -/
theorem ofRawVariables_refinesTexts (lookup : String → Option Bytes) : RefinesTexts lookup := by
  constructor
  case readable =>
    intro h
    refine ofRawVariables_of_readable fun setting hmem => ?_
    rw [← Bool.not_eq_true, isUnreadable_iff]
    rintro ⟨raw, hraw, hnot⟩
    exact hnot (h setting hmem raw hraw)
  case encoded =>
    intro texts htexts
    have hdecode : ∀ text, Utf8.decode? (Utf8.encode text) = some text :=
      fun text => Utf8.decode?_eq_some_iff.mpr rfl
    rw [ofRawVariables_of_readable]
    · refine ofVariables_congr fun setting hmem => ?_
      rw [htexts setting hmem]
      cases texts setting with
      | none => rfl
      | some text => exact hdecode text
    · intro setting hmem
      rw [isUnreadable, htexts setting hmem]
      cases texts setting with
      | none => rfl
      | some text => simp [Utf8.IsText]
  case unreadable =>
    rintro ⟨setting, hmem, raw, hraw, hnot⟩
    have hsome : (Setting.matrix.find? (isUnreadable lookup)).isSome = true :=
      List.find?_isSome.mpr ⟨setting, hmem, isUnreadable_iff.mpr ⟨raw, hraw, hnot⟩⟩
    obtain ⟨first, hfirst⟩ := Option.isSome_iff_exists.mp hsome
    obtain ⟨bad, hbad, hbroken⟩ := isUnreadable_iff.mp (List.find?_some hfirst)
    exact ⟨first, bad, hfirst, hbad, Utf8.standsFor_decodeLossy hbroken,
      ofRawVariables_of_unreadable hfirst hbad⟩

end Raw

end Job

end ReleasePipeline
