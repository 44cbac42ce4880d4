import ReleasePipeline.Proofs.Build.History

/-!
# ReleasePipeline.Proofs.Build.HookLines

The lines of the hook file after builds have appended to it. Appended bytes start a line of their
own only where the bytes before them end in a newline. So the directives stand on lines of their own
below a hook file that is absent, empty or ends in a newline; below any other the first of them goes
to the end of the last line, and the project does not read it there as a directive.
-/

namespace ReleasePipeline

/-! ### Lines -/

namespace Text

variable {α : Type} [DecidableEq α] {newline : α} {xs ys : List α}

/-- The lines of a text: its parts between newlines, but for the empty one after a last newline. -/
def lines (newline : α) (xs : List α) : List (List α) :=
  if (xs.splitOn newline).getLast? = some [] then (xs.splitOn newline).dropLast
  else xs.splitOn newline

/-- A text that does not break off in the middle of a line. -/
def IsTerminated (newline : α) (xs : List α) : Prop :=
  xs = [] ∨ xs.getLast? = some newline

instance (newline : α) (xs : List α) : Decidable (IsTerminated newline xs) :=
  inferInstanceAs (Decidable (_ ∨ _))

@[simp] theorem lines_nil : lines newline ([] : List α) = [] := rfl

/-- A newline ends whatever line stands before it. -/
theorem lines_append_cons (newline : α) (xs ys : List α) :
    lines newline (xs ++ newline :: ys) = xs.splitOn newline ++ lines newline ys := by
  have hlast : ((xs ++ newline :: ys).splitOn newline).getLast? = (ys.splitOn newline).getLast? := by
    rw [List.splitOn_append_cons_self, List.getLast?_append,
      List.getLast?_eq_some_getLast (List.splitOn_ne_nil newline ys), Option.some_or]
  unfold lines
  rw [hlast, List.splitOn_append_cons_self]
  split
  · exact List.dropLast_append_of_ne_nil (List.splitOn_ne_nil newline ys)
  · rfl

theorem lines_append_of_isTerminated (h : IsTerminated newline xs) (ys : List α) :
    lines newline (xs ++ ys) = lines newline xs ++ lines newline ys := by
  rcases h with rfl | h
  · rfl
  · obtain ⟨before, rfl⟩ := List.getLast?_eq_some_iff.mp h
    rw [List.append_assoc, List.singleton_append, lines_append_cons, lines_append_cons, lines_nil,
      List.append_nil]

/-- What stands behind the last newline of a text. -/
theorem exists_last_part (newline : α) (xs : List α) :
    newline ∉ xs ∨ ∃ before last, xs = before ++ newline :: last ∧ newline ∉ last := by
  induction xs with
  | nil => exact .inl List.not_mem_nil
  | cons x xs ih =>
      rcases ih with hxs | ⟨before, last, rfl, hlast⟩
      · by_cases hx : x = newline
        · exact .inr ⟨[], xs, congrArg (· :: xs) hx, hxs⟩
        · refine .inl fun hmem => ?_
          rcases List.mem_cons.mp hmem with h | h
          · exact hx h.symm
          · exact hxs h
      · exact .inr ⟨x :: before, last, rfl, hlast⟩

/-- A text that breaks off has a last line, and what is appended up to a newline goes to the end of
that line. -/
theorem exists_last_line (h : ¬IsTerminated newline xs) :
    ∃ front last, lines newline xs = front ++ [last] ∧ last ≠ [] ∧ ∀ ys zs, newline ∉ ys →
      lines newline (xs ++ (ys ++ newline :: zs)) = front ++ (last ++ ys) :: lines newline zs := by
  obtain ⟨hne, hopen⟩ := not_or.mp h
  have happended : ∀ ys zs, lines newline (xs ++ (ys ++ newline :: zs)) =
      (xs ++ ys).splitOn newline ++ lines newline zs := by
    intro ys zs
    rw [← List.append_assoc, lines_append_cons]
  rcases exists_last_part newline xs with hxs | ⟨before, last, rfl, hlast⟩
  · refine ⟨[], xs, ?_, hne, fun ys zs hys => ?_⟩
    · rw [lines, List.splitOn_eq_singleton hxs, if_neg (by simpa using hne)]
      rfl
    · rw [happended, List.splitOn_eq_singleton (by simp [hxs, hys])]
      rfl
  · have hnotnil : last ≠ [] := by
      rintro rfl
      exact hopen (by simp)
    refine ⟨before.splitOn newline, last, ?_, hnotnil, fun ys zs hys => ?_⟩
    · rw [lines, List.splitOn_append_cons_self, List.splitOn_eq_singleton hlast,
        if_neg (by simpa using hnotnil)]
    · have hys' : newline ∉ last ++ ys := by simp [hlast, hys]
      rw [happended, List.append_assoc, List.cons_append, List.splitOn_append_cons_self,
        List.splitOn_eq_singleton hys', List.append_assoc, List.singleton_append]

end Text

/-! ### Lines of directives -/

open Text

/-- The byte that ends a line. -/
def newline : UInt8 := 10

/-- The line that switches precompiled headers off. -/
def directiveLine : Bytes := Utf8.encode "set(USE_PCH FALSE)"

theorem directives_succ (count : Nat) :
    directives (count + 1) = directiveLine ++ newline :: directives count := by
  rw [Nat.add_comm, directives_add]
  rfl

theorem newline_not_mem_directiveLine : newline ∉ directiveLine := by
  decide

theorem lines_directives (count : Nat) :
    lines newline (directives count) = List.replicate count directiveLine := by
  induction count with
  | zero => rfl
  | succ count ih =>
      rw [directives_succ, lines_append_cons,
        List.splitOn_eq_singleton newline_not_mem_directiveLine, ih, List.replicate_succ]
      rfl

/-- The lines of a file before and after directives were appended to it. -/
structure AppendsLines (before after : Bytes) (count : Nat) : Prop where
  terminated : IsTerminated newline before →
    lines newline after = lines newline before ++ List.replicate count directiveLine
  unterminated : ¬IsTerminated newline before → ∃ front last,
    lines newline before = front ++ [last] ∧ last ≠ [] ∧ ∀ more, count = more + 1 →
      lines newline after = front ++ (last ++ directiveLine) :: List.replicate more directiveLine
  follow_iff : count ≠ 0 →
    (lines newline after = lines newline before ++ List.replicate count directiveLine ↔
      IsTerminated newline before)

theorem appendsLines (before : Bytes) (count : Nat) :
    AppendsLines before (before ++ directives count) count := by
  have hterminated : IsTerminated newline before →
      lines newline (before ++ directives count) =
        lines newline before ++ List.replicate count directiveLine := by
    intro h
    rw [lines_append_of_isTerminated h, lines_directives]
  have hunterminated : ¬IsTerminated newline before → ∃ front last,
      lines newline before = front ++ [last] ∧ last ≠ [] ∧ ∀ more, count = more + 1 →
        lines newline (before ++ directives count) =
          front ++ (last ++ directiveLine) :: List.replicate more directiveLine := by
    intro h
    obtain ⟨front, last, hlines, hne, happended⟩ := exists_last_line h
    refine ⟨front, last, hlines, hne, ?_⟩
    rintro more rfl
    rw [directives_succ, happended _ _ newline_not_mem_directiveLine, lines_directives]
  refine ⟨hterminated, hunterminated, fun hcount => ⟨fun hfollow => ?_, hterminated⟩⟩
  refine Decidable.byContradiction fun hopen => ?_
  obtain ⟨more, rfl⟩ := Nat.exists_eq_succ_of_ne_zero hcount
  obtain ⟨front, last, hlines, -, hafter⟩ := hunterminated hopen
  -- The glued line is one line less.
  have hlength := congrArg List.length hfollow
  rw [hafter more rfl, hlines] at hlength
  simp only [List.length_append, List.length_cons, List.length_replicate,
    List.length_nil] at hlength
  omega

/-! ### Histories -/

namespace WorkRun

/-- Tools that leave the hook file as it is when they are called in the build folder of their
run. -/
def SparesHook (history : List (WorkRun σ)) (cwd : Path) : Prop :=
  ∀ run ∈ history, ∀ call bench, call.folder = run.folder cwd →
    (run.pipeline.runner.after call bench).disk.entryAt? (cwd / "cmake_user_begin.cmake").location =
      bench.disk.entryAt? (cwd / "cmake_user_begin.cmake").location

/-- What a history of builds and test runs leaves in the hook file: its bytes with a directive more
for each build that appended, and what that means for its lines. -/
structure WritesHook (history : List (WorkRun σ)) (s : Session σ) (hook : Location) : Prop where
  file : appended s history ≠ 0 →
    ∃ f, (performAll s history).bench.disk.entryAt? hook = some (.file f)
  bytes : (performAll s history).bench.disk.contentAt hook =
    s.bench.disk.contentAt hook ++ directives (appended s history)
  lines : AppendsLines (s.bench.disk.contentAt hook)
    ((performAll s history).bench.disk.contentAt hook) (appended s history)

/-- **A directive takes a line of its own only below a newline.** After any history of builds and
test runs whose tools leave the hook file as it is, the lines of the file are the old ones with one
directive for each build that appended, if the old bytes are none or end in a newline. If they do
not and any build appended, then the first directive has become the end of the last old line. -/
theorem performAll_writesHook (history : List (WorkRun σ)) (s : Session σ)
    (hcwd : s.workspace.cwd.isAbsolute = true)
    (htools : SparesHook history s.workspace.cwd) :
    WritesHook history s (s.workspace.cwd / "cmake_user_begin.cmake").location := by
  -- Only the hook file is looked at: all other places are where tools may do what they like.
  have htrace : Trace (· ≠ (s.workspace.cwd / "cmake_user_begin.cmake").location) (fun _ => True)
      (s.workspace.cwd / "cmake_user_begin.cmake").location (appended s history) s.bench.disk
      (performAll s history).bench.disk := by
    refine (performAll_trace history hcwd (fun h => h rfl) ?_ fun _ _ _ _ => trivial).2
    intro run hrun call bench hcall l hl
    obtain rfl := Decidable.not_not.mp hl
    exact htools run hrun call bench hcall
  refine ⟨htrace.hook_file, htrace.hook_content, ?_⟩
  rw [htrace.hook_content]
  exact appendsLines _ _

end WorkRun

/-! ### Below a comment -/

namespace PlainTools

/-- A project whose hook file has this content, and a compiler outside of it. -/
def hookedBy (content : String) : Node :=
  .folder [("bin", .folder [("cc", .file { content := [], executable := true })]),
    ("project", .folder [("cmake_user_begin.cmake", .file { content := Utf8.encode content })])]

end PlainTools

namespace WorkRun

open PlainTools

theorem performAll_writesHook_below_comment :
    (sessionIn "/project" (hookedBy "set(A 1)\n# local")).workspace.cwd.isAbsolute = true ∧
      SparesHook plainHistory (sessionIn "/project" (hookedBy "set(A 1)\n# local")).workspace.cwd ∧
      appended (sessionIn "/project" (hookedBy "set(A 1)\n# local")) plainHistory = 2 ∧
      WritesHook plainHistory (sessionIn "/project" (hookedBy "set(A 1)\n# local"))
        ((⟨"/project"⟩ : Path) / "cmake_user_begin.cmake").location := by
  have htools : SparesHook plainHistory
      (sessionIn "/project" (hookedBy "set(A 1)\n# local")).workspace.cwd := by
    intro run hrun call bench hcall
    have hrunner : run.pipeline.runner = libraryRunner := by
      simp only [plainHistory, List.mem_cons, List.not_mem_nil, or_false] at hrun
      rcases hrun with rfl | rfl | rfl | rfl <;> rfl
    rw [hrunner]
    refine libraryRunner_after call bench _ fun hbelow => ?_
    exact not_inBuildFolders_hook plainHistory _ ⟨run, hrun, hcall ▸ hbelow⟩
  exact ⟨by decide, htools, by decide +kernel, performAll_writesHook _ _ (by decide) htools⟩

/-- A build that ends well, but has put the directive at the end of a comment. -/
theorem directive_swallowed_by_comment :
    Stage.succeeds (headerless (some "/bin/cc") (some "/bin/cc")).build
        (sessionIn "/project" (hookedBy "# local")) = true ∧
      appended (sessionIn "/project" (hookedBy "# local"))
        [.build (headerless (some "/bin/cc") (some "/bin/cc"))] = 1 ∧
      lines newline ((hookedBy "# local").contentAt ["project", "cmake_user_begin.cmake"]) =
        [Utf8.encode "# local"] ∧
      lines newline ((performAll (sessionIn "/project" (hookedBy "# local"))
        [.build (headerless (some "/bin/cc") (some "/bin/cc"))]).bench.disk.contentAt
          ["project", "cmake_user_begin.cmake"]) = [Utf8.encode "# localset(USE_PCH FALSE)"] ∧
      ¬lines newline ((performAll (sessionIn "/project" (hookedBy "# local"))
        [.build (headerless (some "/bin/cc") (some "/bin/cc"))]).bench.disk.contentAt
          ["project", "cmake_user_begin.cmake"]) =
        lines newline ((hookedBy "# local").contentAt ["project", "cmake_user_begin.cmake"]) ++
          List.replicate 1 directiveLine := by
  decide +kernel

end WorkRun

end ReleasePipeline
