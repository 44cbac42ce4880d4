import ReleasePipeline.Proofs.Text.Quoted
import ReleasePipeline.ToolCall

/-!
# ReleasePipeline.Proofs.ToolCall.CommandLine

A command line is one line and says which call it is. All white space in an argument is inside quotes,
where only the space stands for itself. The tokens can be read off from the left: the program ends at
the first space, an argument that starts with a quote ends at its closing one, and any other at the
next space.

The second half needs that no bare argument starts with a quote, which would pass for an opening one.
-/

namespace ReleasePipeline.ToolCall

open Text

/-- An argument that stands on a command line as it is: it is not empty and has no white space. -/
def IsBare (arg : String) : Prop :=
  arg.toList ≠ [] ∧ ∀ c ∈ arg.toList, isBlank c = false

theorem needsQuotes_eq_false_iff {arg : String} : needsQuotes arg = false ↔ IsBare arg := by
  simp [needsQuotes, IsBare]

instance (arg : String) : Decidable (IsBare arg) :=
  decidable_of_iff _ needsQuotes_eq_false_iff

/-- A program without white space in it. -/
def HasPlainProgram (call : ToolCall) : Prop :=
  ∀ c ∈ call.program.toList, isBlank c = false

instance (call : ToolCall) : Decidable call.HasPlainProgram :=
  List.decidableBAll (fun c => isBlank c = false) call.program.toList

/-- A call whose bare arguments do not pass for quoted ones. -/
def HasPlainArgs (call : ToolCall) : Prop :=
  ∀ arg ∈ call.args, IsBare arg → arg.toList.head? ≠ some '"'

instance (call : ToolCall) : Decidable call.HasPlainArgs :=
  List.decidableBAll (fun arg => IsBare arg → arg.toList.head? ≠ some '"') call.args

/-! ### Tokens -/

theorem argText_of_isBare {arg : String} (h : IsBare arg) : argText arg = arg := by
  rw [argText, needsQuotes_eq_false_iff.mpr h]
  rfl

theorem toList_argText_of_not_isBare {arg : String} (h : ¬IsBare arg) :
    (argText arg).toList = quoteChars arg.toList := by
  rw [← needsQuotes_eq_false_iff, Bool.not_eq_false] at h
  rw [argText, if_pos h, quote, String.toList_ofList]

theorem space_not_mem {text : String} (h : ∀ c ∈ text.toList, isBlank c = false) :
    ' ' ∉ text.toList := by
  intro hmem
  exact absurd (h ' ' hmem) (by decide)

/-- The characters of the arguments on a command line. -/
def tokens (args : List String) : List Char :=
  args.flatMap fun arg => ' ' :: (argText arg).toList

theorem toList_commandLine (call : ToolCall) :
    call.commandLine.toList = call.program.toList ++ tokens call.args := by
  have hfold : ∀ (args : List String) (line : String),
      (args.foldl (fun line arg => line ++ " " ++ argText arg) line).toList =
        line.toList ++ tokens args := by
    intro args
    induction args with
    | nil => intro line; simp [tokens]
    | cons arg args ih =>
        intro line
        rw [List.foldl_cons, ih]
        simp [tokens]
  exact hfold call.args call.program

theorem endsToken_tokens (args : List String) : EndsToken ' ' (tokens args) := by
  cases args with
  | nil => exact nofun
  | cons arg args =>
      rintro c ⟨⟩
      rfl

/-! ### One line -/

/-- White space in a token is the space. -/
theorem eq_space_of_mem_argText {arg : String} {c : Char} (hc : c ∈ (argText arg).toList)
    (hblank : isBlank c = true) : c = ' ' := by
  by_cases hbare : IsBare arg
  · rw [argText_of_isBare hbare] at hc
    rw [hbare.2 c hc] at hblank
    cases hblank
  · rw [toList_argText_of_not_isBare hbare] at hc
    refine Decidable.byContradiction fun hne => ?_
    have hprints := prints_of_mem_quoteChars hc
    rw [isUnprintable_of_isBlank hblank hne] at hprints
    cases hprints

theorem eq_space_of_mem_commandLine {call : ToolCall} (h : call.HasPlainProgram) {c : Char}
    (hc : c ∈ call.commandLine.toList) (hblank : isBlank c = true) : c = ' ' := by
  rw [toList_commandLine, List.mem_append, tokens, List.mem_flatMap] at hc
  rcases hc with hc | ⟨arg, -, hc⟩
  · rw [h c hc] at hblank
    cases hblank
  · rcases List.mem_cons.mp hc with rfl | hc
    · rfl
    · exact eq_space_of_mem_argText hc hblank

/-! ### Reading the tokens off -/

/-- A bare argument does not start like a quoted one. -/
theorem bare_append_ne_quoted {arg : String} {text xs ys : List Char} (hbare : IsBare arg)
    (hhead : arg.toList.head? ≠ some '"') : arg.toList ++ xs ≠ quoteChars text ++ ys := by
  intro h
  obtain ⟨c, cs, hcs⟩ := List.exists_cons_of_ne_nil hbare.1
  rw [hcs] at h hhead
  exact hhead (congrArg some (List.cons.inj h).1)

/-- An argument is told from the tokens that follow it. -/
theorem argText_append_inj {arg other : String} {xs ys : List Char}
    (harg : IsBare arg → arg.toList.head? ≠ some '"')
    (hother : IsBare other → other.toList.head? ≠ some '"') (hxs : EndsToken ' ' xs)
    (hys : EndsToken ' ' ys) (h : (argText arg).toList ++ xs = (argText other).toList ++ ys) :
    arg = other ∧ xs = ys := by
  by_cases hbare : IsBare arg
  · rw [argText_of_isBare hbare] at h
    by_cases hbare' : IsBare other
    · rw [argText_of_isBare hbare'] at h
      obtain ⟨htext, hrest⟩ :=
        token_append_inj (space_not_mem hbare.2) (space_not_mem hbare'.2) hxs hys h
      exact ⟨String.toList_inj.mp htext, hrest⟩
    · rw [toList_argText_of_not_isBare hbare'] at h
      exact (bare_append_ne_quoted hbare (harg hbare) h).elim
  · rw [toList_argText_of_not_isBare hbare] at h
    by_cases hbare' : IsBare other
    · rw [argText_of_isBare hbare'] at h
      exact (bare_append_ne_quoted hbare' (hother hbare') h.symm).elim
    · rw [toList_argText_of_not_isBare hbare'] at h
      obtain ⟨htext, hrest⟩ := quoteChars_append_inj h
      exact ⟨String.toList_inj.mp htext, hrest⟩

theorem tokens_inj {args others : List String}
    (hargs : ∀ arg ∈ args, IsBare arg → arg.toList.head? ≠ some '"')
    (hothers : ∀ arg ∈ others, IsBare arg → arg.toList.head? ≠ some '"')
    (h : tokens args = tokens others) : args = others := by
  induction args generalizing others with
  | nil =>
      cases others with
      | nil => rfl
      | cons other others => cases h
  | cons arg args ih =>
      cases others with
      | nil => cases h
      | cons other others =>
          obtain ⟨rfl, hrest⟩ := argText_append_inj (hargs arg (List.mem_cons_self ..))
            (hothers other (List.mem_cons_self ..)) (endsToken_tokens args)
            (endsToken_tokens others) (List.cons.inj h).2
          rw [ih (fun a ha => hargs a (.tail arg ha)) (fun a ha => hothers a (.tail arg ha)) hrest]

theorem eq_of_commandLine_eq {call other : ToolCall} (hcall : call.HasPlainProgram)
    (hother : other.HasPlainProgram) (hargs : call.HasPlainArgs) (hargs' : other.HasPlainArgs)
    (h : call.commandLine = other.commandLine) :
    call.program = other.program ∧ call.args = other.args := by
  have hchars := congrArg String.toList h
  rw [toList_commandLine, toList_commandLine] at hchars
  obtain ⟨hprogram, htokens⟩ := token_append_inj (space_not_mem hcall) (space_not_mem hother)
    (endsToken_tokens call.args) (endsToken_tokens other.args) hchars
  exact ⟨String.toList_inj.mp hprogram, tokens_inj hargs hargs' htokens⟩

/-- **A command line is one line and says which call it is**, for all programs without white space:
no white space but the space is left in it, and calls whose bare arguments do not start with a quote
have the same command line only if they call the same program with the same arguments. -/
theorem commandLine_unambiguous :
    (∀ call : ToolCall, call.HasPlainProgram →
      ∀ c ∈ call.commandLine.toList, isBlank c = true → c = ' ') ∧
    ∀ call other : ToolCall, call.HasPlainProgram → other.HasPlainProgram → call.HasPlainArgs →
      other.HasPlainArgs → call.commandLine = other.commandLine →
        call.program = other.program ∧ call.args = other.args :=
  ⟨fun _ h _ hc hblank => eq_space_of_mem_commandLine h hc hblank,
    fun _ _ hcall hother hargs hargs' h => eq_of_commandLine_eq hcall hother hargs hargs' h⟩

/-- A call with arguments of all kinds: bare ones, an empty one, and texts with line breaks, quotes,
backslashes and what looks like an escape. -/
def mixedCall : ToolCall where
  program := "7z"
  args := ["a", "", "line\u2028break \"\\", "tab\there", "\\u\x7b9\x7d"]
  folder := ⟨"/project"⟩

theorem commandLine_unambiguous_of_mixed_args :
    mixedCall.HasPlainProgram ∧ mixedCall.HasPlainArgs ∧
      mixedCall.commandLine = { mixedCall with folder := ⟨"/"⟩, env := [("CC", "cc")] }.commandLine ∧
      (∀ c ∈ mixedCall.commandLine.toList, isBlank c = true → c = ' ') ∧
      mixedCall.args = { mixedCall with folder := ⟨"/"⟩, env := [("CC", "cc")] }.args := by
  have hprogram : mixedCall.HasPlainProgram := by decide
  have hargs : mixedCall.HasPlainArgs := by decide
  exact ⟨hprogram, hargs, rfl, commandLine_unambiguous.1 _ hprogram,
    (commandLine_unambiguous.2 _ _ hprogram hprogram hargs hargs rfl).2⟩

/-- With a quote in front, a bare argument starts a text that ends in another one. -/
example :
    ({ program := "7z", args := ["\"a", "b\""], folder := ⟨"/"⟩ } : ToolCall).commandLine =
      ({ program := "7z", args := ["a b"], folder := ⟨"/"⟩ } : ToolCall).commandLine := by
  decide +kernel

end ReleasePipeline.ToolCall
