import ReleasePipeline.Proofs.Release.Course
import ReleasePipeline.Proofs.Release.PlainTools

/-!
# ReleasePipeline.Proofs.Release.Provenance

Where the published files come from. A release is reported by the files that are on the disk when it
is, and files of an earlier release may have been at the same paths. So it is shown of each file
that it was made in this very run: the call that made it found nothing at the path (`MadeAnew`),
because an old file is removed right before.

Only little is assumed of the tools: they bring in no name that no path can have, and the call that
packs the debug symbols writes nothing but its archive, so that it does not replace the
application's.

A tool may succeed without having written its archive (`Idle`). Then there is nothing to publish,
and the run fails, as long as the current folder can be reached when the tool is called: it is only
in a folder that can be reached that removing a file which is not found means that there is none.
-/

namespace ReleasePipeline

open Disk Node

/-! ### Made in this run -/

/-- A successful call that was made with nothing at a path, to have a file there. -/
structure MadeAnew (c : ToolCall) (cwd p : Path) (x : Sighting) : Prop where
  call_eq : x.call = c
  succeeded : x.failure = none
  absent : ∀ l, locate x.before p ≠ .ok l
  vacant : isFolder x.before cwd = true → x.before.entryAt? p.location = none

/-- An artifact of a file that a call of this run created. -/
structure FreshArtifact (c : ToolCall) (cwd p : Path) (seen : List Sighting) (d : Node)
    (artifact : Artifact) : Prop where
  path_eq : artifact.path = p
  created : ∃ f, FileAt d p f ∧ artifact.sha256 = Sha256.digest f.content ∧
    ∃ x ∈ seen, MadeAnew c cwd p x ∧ FileAt x.after p f

/-- An artifact of a file that is the same as another. -/
structure CopiedArtifact (source p : Path) (d : Node) (artifact : Artifact) : Prop where
  path_eq : artifact.path = p
  copied : ∃ f, FileAt d p f ∧ artifact.sha256 = Sha256.digest f.content ∧ FileAt d source f

/-- The calls left a location as it was. -/
def Untouched (l : Location) (seen : List Sighting) : Prop :=
  ∀ x ∈ seen, x.after.entryAt? l = x.before.entryAt? l

/-- A release whose files were made in this run. -/
structure FreshRelease (job : Job) (cwd : Path) (start : Node) (seen : List Sighting) (d : Node)
    (release : Release) : Prop where
  application : FreshArtifact (job.packCall cwd) cwd (cwd / job.applicationName) seen d
    release.application
  symbols : ∃ symbols, release.symbols = some symbols ∧
    match job.policy.debugSymbols with
    | .compress => FreshArtifact (job.symbolsCall cwd) cwd (cwd / job.symbolsName) seen d symbols
    | .rename => CopiedArtifact (cwd / job.buildFolder / "exotracker-qt.pdb")
        (cwd / job.symbolsName) d symbols
  source_kept : Untouched (job.symbolsBuiltAt cwd) seen →
    d.entryAt? (job.symbolsBuiltAt cwd) = start.entryAt? (job.symbolsBuiltAt cwd)

/-- An artifact is there as it was reported. -/
def Artifact.IsOn (artifact : Artifact) (d : Node) : Prop :=
  ∃ f, FileAt d artifact.path f ∧ artifact.sha256 = Sha256.digest f.content

/-- All that a release reports is there. -/
def Release.IsOn (release : Release) (d : Node) : Prop :=
  release.application.IsOn d ∧ ∀ symbols, release.symbols = some symbols → symbols.IsOn d

/-- The compressing tool succeeded and did not write its archive. It was called in the current
folder, or at least while there was one. -/
structure Idle (cwd : Path) (x : Sighting) : Prop where
  program : x.call.program = "7z"
  succeeded : x.failure = none
  there : x.call.folder = cwd ∨ isFolder x.before cwd = true
  wrote_nothing : ∀ target : String, x.call.args[2]? = some target →
    x.after.entryAt? (Path.location ⟨target⟩) = x.before.entryAt? (Path.location ⟨target⟩)

/-- Nothing can be opened where an idle tool was to write. -/
def FailsForIdle (cwd : Path) (failure : Failure) (seen : List Sighting) : Prop :=
  ∀ x ∈ seen, Idle cwd x → ∃ (target : String) (fault : Fault), x.call.args[2]? = some target ∧
    failure = .diskFailed "open" (.text ⟨target⟩) fault

variable {job : Job} {cwd p : Path} {start d e : Node} {seen : List Sighting} {x : Sighting}
  {c : ToolCall} {artifact : Artifact} {name : String}

/-- Where an idle tool was to write, nothing can be located. -/
theorem Idle.not_located (hname : Path.IsName name) (h : Idle cwd x)
    (htarget : x.call.args[2]? = some (cwd / name).text)
    (hvacant : x.before.entryAt? (cwd.location ++ [.text name]) = none) (l : Location) :
    locate x.after (cwd / name) ≠ .ok l := by
  intro hlocate
  have hsame := h.wrote_nothing _ htarget
  rw [Path.location_join_name hname, hvacant] at hsame
  exact entryAt?_of_locate hname hlocate hsame

/-- A file that was not there before and is the artifact now. -/
theorem FreshArtifact.of_artifactOf (h : ArtifactOf p d artifact) (hx : x ∈ seen)
    (hmade : MadeAnew c cwd p x) (hafter : x.after = d) :
    FreshArtifact c cwd p seen d artifact := by
  obtain ⟨hpath, f, hfile, hdigest⟩ := h
  exact ⟨hpath, f, hfile, hdigest, x, hx, hmade, hafter ▸ hfile⟩

theorem FreshArtifact.isOn (h : FreshArtifact c cwd p seen d artifact) : artifact.IsOn d := by
  obtain ⟨rfl, f, hfile, hdigest, -⟩ := h
  exact ⟨f, hfile, hdigest⟩

/-- An artifact stays as it is when another entry of the folder changes. -/
theorem FreshArtifact.keep {other : String} {seen' : List Sighting} (hname : Path.IsName name)
    (h : FreshArtifact c cwd (cwd / name) seen d artifact) (hother : name ≠ other)
    (hagree : AgreeOff (· = cwd.location ++ [.text other]) e d) (hreaches : Reaches e cwd)
    (hseen : seen ⊆ seen') : FreshArtifact c cwd (cwd / name) seen' e artifact := by
  obtain ⟨hpath, f, hfile, hdigest, x, hx, hmade⟩ := h
  refine ⟨hpath, f, hfile.keep hname hreaches (hagree _ ?_), hdigest, x, hseen hx, hmade⟩
  exact fun heq => hother (EntryName.text.inj (List.cons.inj (List.append_cancel_left heq)).1)

theorem FreshArtifact.reaches (hname : Path.IsName name)
    (h : FreshArtifact c cwd (cwd / name) seen d artifact) : Reaches d cwd := by
  obtain ⟨-, f, hfile, -⟩ := h
  exact .of_locate hname hfile.locate

/-- What is known of the debug symbols of a fresh release. -/
theorem FreshRelease.symbols_isOn {release : Release} {symbols : Artifact}
    (h : FreshRelease job cwd start seen d release) (hsymbols : release.symbols = some symbols) :
    symbols.path = cwd / job.symbolsName ∧ symbols.IsOn d := by
  obtain ⟨symbols', hsymbols', hpublished⟩ := h.symbols
  obtain rfl := Option.some.inj (hsymbols.symm.trans hsymbols')
  cases hpolicy : job.policy.debugSymbols with
  | compress =>
      rw [hpolicy] at hpublished
      exact ⟨hpublished.path_eq, hpublished.isOn⟩
  | rename =>
      rw [hpolicy] at hpublished
      obtain ⟨hpath, f, hfile, hdigest, -⟩ := hpublished
      exact ⟨hpath, f, hpath ▸ hfile, hdigest⟩

theorem FreshRelease.isOn {release : Release} (h : FreshRelease job cwd start seen d release) :
    release.IsOn d :=
  ⟨h.application.isOn, fun _ hsymbols => (h.symbols_isOn hsymbols).2⟩

/-! ### Along a run -/

/-- The debug symbols are still as they were built, if the tools left them alone. -/
def SourceKept (job : Job) (cwd : Path) (start : Node) (p : Point) : Prop :=
  Untouched (job.symbolsBuiltAt cwd) p.seen →
    p.disk.entryAt? (job.symbolsBuiltAt cwd) = start.entryAt? (job.symbolsBuiltAt cwd)

theorem Phase.not_touches_symbolsBuilt (phase : Phase) :
    ¬phase.Touches job cwd (job.symbolsBuiltAt cwd) := by
  have hapart := job.buildFolder_ne_staging.symm
  cases phase with
  | start | staged => exact not_prefix_of_text_ne hapart
  | deployed => exact not_prefix_of_text_ne hapart
  | made =>
      rintro (hl | ⟨-, hl⟩)
      · exact not_prefix_of_text_ne hapart hl
      · rw [Job.builtAt, Job.symbolsBuiltAt, List.prefix_append_right_inj, List.cons_prefix_cons]
          at hl
        exact absurd hl.2 (by decide)
  | pruned | cleared | published | symbolsCleared => exact Job.published_ne
  | packed | symbolsMade | done => exact id

theorem SourceKept.step {runner : Runner σ} {p q : Point} (hplain : job.HasPlainNames)
    (h : SourceKept job cwd start p) (hstep : Step runner job cwd p q) :
    SourceKept job cwd start q := by
  intro huntouched
  rcases hstep.quiet_or_calls hplain with ⟨hseen, hagree⟩ | ⟨x, hcalls, hafter, hseen⟩
  · rw [hagree _ p.phase.not_touches_symbolsBuilt]
    exact h (hseen ▸ huntouched)
  · rw [hseen] at huntouched
    rw [← hafter, huntouched x (by simp), hcalls.before_eq]
    exact h fun y hy => huntouched y (List.mem_append_left _ hy)

/-- No tool was idle so far. -/
def NoneIdle (cwd : Path) (seen : List Sighting) : Prop :=
  ∀ x ∈ seen, ¬Idle cwd x

theorem NoneIdle.concat (h : NoneIdle cwd seen) (hx : ¬Idle cwd x) : NoneIdle cwd (seen ++ [x]) := by
  intro y hy
  rcases List.mem_append.mp hy with hy | hy
  · exact h y hy
  · rwa [List.mem_singleton.mp hy]

theorem NoneIdle.failsForIdle (h : NoneIdle cwd seen) (failure : Failure) :
    FailsForIdle cwd failure seen :=
  fun x hx hidle => absurd hidle (h x hx)

/-- A call has just had the chance to make a file. If it was idle, there is none. -/
structure JustMade (c : ToolCall) (cwd p : Path) (d : Node) (seen : List Sighting) : Prop where
  made : ∃ x ∈ seen, MadeAnew c cwd p x ∧ x.after = d
  idle : ∀ x ∈ seen, Idle cwd x → x.call.args[2]? = some p.text ∧ ∀ l, locate d p ≠ .ok l

namespace JustMade

theorem of_made (hname : Path.IsName name) (hmade : MadeAnew c cwd (cwd / name) x)
    (htarget : c.args[2]? = some (cwd / name).text) (hbefore : NoneIdle cwd seen)
    (hvacant : Idle cwd x → x.before.entryAt? (cwd.location ++ [.text name]) = none) :
    JustMade c cwd (cwd / name) x.after (seen ++ [x]) := by
  refine ⟨⟨x, by simp, hmade, rfl⟩, ?_⟩
  intro y hy hidle
  rcases List.mem_append.mp hy with hy | hy
  · exact absurd hidle (hbefore y hy)
  · rw [List.mem_singleton.mp hy] at hidle ⊢
    rw [← hmade.call_eq] at htarget
    exact ⟨htarget, hidle.not_located hname htarget (hvacant hidle)⟩

theorem publish (h : JustMade c cwd p d seen) (hartifact : ArtifactOf p d artifact) :
    NoneIdle cwd seen ∧ FreshArtifact c cwd p seen d artifact := by
  obtain ⟨⟨x, hx, hmade, hafter⟩, hidle⟩ := h
  refine ⟨?_, .of_artifactOf hartifact hx hmade hafter⟩
  intro y hy hyidle
  obtain ⟨-, f, hfile, -⟩ := hartifact
  exact (hidle y hy hyidle).2 _ hfile.locate

theorem failsForIdle {failure : Failure} (h : JustMade c cwd p d seen)
    (hfails : FailsToOpen p d failure) : FailsForIdle cwd failure seen := by
  intro x hx hidle
  obtain ⟨htarget, habsent⟩ := h.idle x hx hidle
  obtain ⟨fault, hfailure⟩ := hfails habsent
  exact ⟨p.text, fault, htarget, hfailure⟩

end JustMade

/-- The debug symbols are where they are published. -/
def SymbolsMade (job : Job) (cwd : Path) (d : Node) (seen : List Sighting) : Prop :=
  match job.policy.debugSymbols with
  | .compress => JustMade (job.symbolsCall cwd) cwd (cwd / job.symbolsName) d seen
  | .rename => NoneIdle cwd seen ∧ ∃ f, d.entryAt? (job.symbolsAt cwd) = some (.file f) ∧
      FileAt d (cwd / job.buildFolder / "exotracker-qt.pdb") f

/-- What holds at a point of a run, depending on its phase. -/
def ProvenAt (job : Job) (cwd : Path) (start : Node) (p : Point) : Phase → Prop
  | .cleared => NoneIdle cwd p.seen ∧ (∀ l, locate p.disk (cwd / job.applicationName) ≠ .ok l) ∧
      (isFolder p.disk cwd = true → p.disk.entryAt? (cwd / job.applicationName).location = none)
  | .packed => JustMade (job.packCall cwd) cwd (cwd / job.applicationName) p.disk p.seen
  | .published application => NoneIdle cwd p.seen ∧
      FreshArtifact (job.packCall cwd) cwd (cwd / job.applicationName) p.seen p.disk application
  | .symbolsCleared application => NoneIdle cwd p.seen ∧
      FreshArtifact (job.packCall cwd) cwd (cwd / job.applicationName) p.seen p.disk application ∧
      (∀ l, locate p.disk (cwd / job.symbolsName) ≠ .ok l) ∧
      p.disk.entryAt? (job.symbolsAt cwd) = none
  | .symbolsMade application =>
      FreshArtifact (job.packCall cwd) cwd (cwd / job.applicationName) p.seen p.disk application ∧
      SymbolsMade job cwd p.disk p.seen
  | .done release => NoneIdle cwd p.seen ∧ FreshRelease job cwd start p.seen p.disk release
  | _ => NoneIdle cwd p.seen

section

variable {runner : Runner σ} {p q : Point} {failure : Failure} (hplain : job.HasPlainNames)

include hplain

/-- The debug symbols were copied, which leaves the application and their source alone. -/
theorem FreshArtifact.copied {application : Artifact}
    (h : FreshArtifact c cwd (cwd / job.applicationName) seen d application)
    (hrun : copyFile (cwd / job.buildFolder / "exotracker-qt.pdb") (cwd / job.symbolsName) d =
      .ok () e) :
    FreshArtifact c cwd (cwd / job.applicationName) seen e application ∧
      ∃ f, e.entryAt? (job.symbolsAt cwd) = some (.file f) ∧
        FileAt e (cwd / job.buildFolder / "exotracker-qt.pdb") f := by
  have hname := Job.isName_applicationName hplain
  have hpdb : Path.IsName "exotracker-qt.pdb" := by decide
  have hapart : job.symbolsBuiltAt cwd ≠ job.symbolsAt cwd := Job.published_ne
  obtain ⟨f, hsource, hno, hagree, -, harrived⟩ := copyFile_ok hrun
  rw [Job.location_symbolsBuilt, Job.location_symbols cwd hplain] at harrived
  rw [Job.location_symbols cwd hplain] at hno hagree
  have hfolder : d.entryAt? (job.symbolsAt cwd) = some .folder →
      e.entryAt? (job.symbolsAt cwd) = some .folder := fun hthere => absurd hthere hno
  have hbuild : Reaches d (cwd / job.buildFolder) := .of_locate hpdb hsource.locate
  refine ⟨h.keep hname job.applicationName_ne_symbolsName hagree
    ((h.reaches hname).change hagree hfolder) (List.Subset.refl _), f, harrived hapart, ?_⟩
  refine hsource.keep hpdb (hbuild.change hagree hfolder) (hagree _ ?_)
  rwa [← Path.location_join_name hpdb, Job.location_symbolsBuilt]

theorem ProvenAt.step (hsecond : job.policy.debugSymbols = .compress → ∀ x,
      runner.Made (job.symbolsCall cwd) x → AgreeOff (· = job.symbolsAt cwd) x.after x.before)
    (hkept : SourceKept job cwd start q) (h : ProvenAt job cwd start p p.phase)
    (hstep : Step runner job cwd p q) : ProvenAt job cwd start q q.phase := by
  have hname := Job.isName_applicationName hplain
  have hname' := Job.isName_symbolsName hplain
  have happlication := job.applicationPath_eq cwd
  have hsymbols := job.symbolsPath_eq cwd
  have hapart := job.applicationName_ne_symbolsName
  cases hstep with
  | recreate | transfer | prune => exact h
  | deploy hmade =>
      refine h.concat fun hidle => ?_
      have hprogram := hidle.program
      rw [hmade.call_eq, Job.deployCall_program] at hprogram
      exact absurd hprogram (by decide)
  | clear hremoved =>
      rw [happlication] at hremoved
      refine ⟨h, hremoved.absent, fun hfolder => ?_⟩
      rw [Path.location_join_name hname]
      exact hremoved.gone cwd _ hname rfl (.of_sheds hremoved.sheds (.of_isFolder hfolder))
  | pack hmade hok =>
      obtain ⟨hidle, habsent, hvacant⟩ := h
      refine .of_made hname ⟨hmade.call_eq, hok, habsent, hvacant⟩
        (by rw [Job.packCall_target, happlication]) hidle fun hx => ?_
      -- The application is packed in the staging folder, so there was a current folder.
      rcases hx.there with hfolder | hfolder
      · rw [hmade.call_eq, Job.packCall_folder] at hfolder
        exact absurd hfolder (Path.join_name_ne (by decide))
      · rw [← Path.location_join_name hname]
        exact hvacant hfolder
  | publish hartifact =>
      rw [happlication] at hartifact
      exact h.publish hartifact
  | clearSymbols hpolicy hremoved =>
      obtain ⟨hidle, hfresh⟩ := h
      rw [hsymbols] at hremoved
      have hagree := hremoved.agree
      have hfolder := hremoved.keeps_folder
      rw [Path.location_join_name hname'] at hagree hfolder
      have hreaches := hfresh.reaches hname
      exact ⟨hidle, hfresh.keep hname hapart hagree (hreaches.change hagree hfolder)
        (List.Subset.refl _), hremoved.absent, hremoved.gone cwd _ hname' rfl hreaches⟩
  | packSymbols hpolicy hmade hok =>
      obtain ⟨hidle, hfresh, habsent, hnone⟩ := h
      have hagree := hsecond hpolicy _ hmade
      have hreaches := (hfresh.reaches hname).change hagree fun hfolder =>
        absurd (hnone.symm.trans hfolder) nofun
      refine ⟨hfresh.keep hname hapart hagree hreaches (by simp), ?_⟩
      rw [SymbolsMade, hpolicy]
      refine .of_made hname' ⟨hmade.call_eq, hok, habsent, fun _ => ?_⟩
        (by rw [Job.symbolsCall_target, hsymbols]) hidle fun _ => hnone
      rw [Job.location_symbols cwd hplain]
      exact hnone
  | copySymbols hpolicy hrun =>
      rw [hsymbols] at hrun
      obtain ⟨hfresh, hcopied⟩ := h.2.copied hplain hrun
      refine ⟨hfresh, ?_⟩
      rw [SymbolsMade, hpolicy]
      exact ⟨h.1, hcopied⟩
  | publishSymbols hartifact =>
      obtain ⟨hfresh, hmade⟩ := h
      rw [hsymbols] at hartifact
      unfold SymbolsMade at hmade
      cases hpolicy : job.policy.debugSymbols with
      | compress =>
          rw [hpolicy] at hmade
          obtain ⟨hidle, hfresh'⟩ := hmade.publish hartifact
          exact ⟨hidle, hfresh, ⟨_, rfl, by rw [hpolicy]; exact hfresh'⟩, hkept⟩
      | rename =>
          rw [hpolicy] at hmade
          obtain ⟨hidle, f, hentry, hsource⟩ := hmade
          obtain ⟨hpath, f', hfile, hdigest⟩ := hartifact
          have hsame := hfile.entry
          rw [Job.location_symbols cwd hplain, hentry] at hsame
          cases hsame
          exact ⟨hidle, hfresh, ⟨_, rfl, by rw [hpolicy]; exact ⟨hpath, f, hfile, hdigest, hsource⟩⟩,
            hkept⟩

omit hplain in
theorem ProvenAt.stop (h : ProvenAt job cwd start p p.phase)
    (hstop : Stop runner job cwd p failure d seen) : FailsForIdle cwd failure seen := by
  have happlication := job.applicationPath_eq cwd
  have hsymbols := job.symbolsPath_eq cwd
  -- A call that failed was not idle.
  have hfailed : ∀ {x : Sighting}, x.failure = some failure → ¬Idle cwd x := fun herror hidle => by
    rw [hidle.succeeded] at herror
    cases herror
  cases hstop with
  | noBuildFolder | recreate | transfer | prune | clear => exact NoneIdle.failsForIdle h _
  | clearSymbols => exact h.1.failsForIdle _
  | deploy _ herror => exact (NoneIdle.concat h (hfailed herror)).failsForIdle _
  | pack _ herror | packSymbols _ herror => exact (h.1.concat (hfailed herror)).failsForIdle _
  | publish hfails =>
      rw [happlication] at hfails
      exact JustMade.failsForIdle h hfails
  | publishSymbols hfails =>
      obtain ⟨-, hmade⟩ := h
      rw [hsymbols] at hfails
      unfold SymbolsMade at hmade
      cases hpolicy : job.policy.debugSymbols with
      | compress =>
          rw [hpolicy] at hmade
          exact hmade.failsForIdle hfails
      | rename =>
          rw [hpolicy] at hmade
          exact hmade.1.failsForIdle _

end

namespace Pipeline

open Stage

/-- What is proven along a run holds at its end. -/
theorem archive_proven {pipeline : Pipeline σ} {w : Workspace} (hplain : pipeline.job.HasPlainNames)
    (hcwd : w.cwd.isAbsolute = true) (hlegal : start.Legal) (hrunner : pipeline.runner.KeepsLegal)
    (hsecond : pipeline.job.policy.debugSymbols = .compress → ∀ bench : Bench σ,
      AgreeOff (· = pipeline.job.symbolsAt w.cwd)
        (pipeline.runner.after (pipeline.job.symbolsCall w.cwd) bench).disk bench.disk) :
    Runs w (fun d m => d = start ∧ m.seen = []) (pipeline.watched.archive .windows)
      (fun release => Seeing fun d seen => NoneIdle w.cwd seen ∧
        FreshRelease pipeline.job w.cwd start seen d release)
      fun failure => Seeing fun _ => FailsForIdle w.cwd failure := by
  have hsecond : pipeline.job.policy.debugSymbols = .compress → ∀ x,
      pipeline.runner.Made (pipeline.job.symbolsCall w.cwd) x →
        AgreeOff (· = pipeline.job.symbolsAt w.cwd) x.after x.before := by
    intro hpolicy x hmade
    obtain ⟨-, bench, hdisk, hafter⟩ := hmade
    rw [← hdisk, ← hafter]
    exact hsecond hpolicy bench
  refine (archive_course (I := fun p => SourceKept pipeline.job w.cwd start p ∧
      ProvenAt pipeline.job w.cwd start p p.phase)
    (E := fun failure _ => FailsForIdle w.cwd failure) hrunner ?_ ?_ hcwd rfl).weaken ?_
      (fun _ _ _ h => h.1.2) fun _ _ _ h => h
  · intro p q h _ hstep
    have hkept := h.1.step hplain hstep
    exact ⟨hkept, h.2.step hplain hsecond hkept hstep⟩
  · intro p failure d seen h _ hstop
    exact h.2.stop hstop
  · intro d m h
    obtain ⟨rfl, hseen⟩ := h
    have hidle : NoneIdle w.cwd m.seen := by
      rw [hseen]
      exact fun x hx => absurd hx List.not_mem_nil
    have hstart : SourceKept pipeline.job w.cwd d ⟨.start, d, m.seen⟩ := fun _ => rfl
    exact ⟨⟨hstart, hidle⟩, hlegal⟩

/-- **What is published was made in this run.** If a release is made, then the application's archive
was not there when it was packed, and it is what is there now, and likewise the archive of the debug
symbols; debug symbols that are not compressed are the same file as those that were built. The
digests are those of the files as they are. A compressing tool that succeeds without writing its
archive makes the run fail when the archive is opened. -/
theorem archive_provenance (pipeline : Pipeline σ) (s : Session σ)
    (hplain : pipeline.job.HasPlainNames) (hcwd : s.workspace.cwd.isAbsolute = true)
    (hlegal : s.bench.disk.Legal) (hrunner : pipeline.runner.KeepsLegal)
    (hsecond : pipeline.job.policy.debugSymbols = .compress → ∀ bench : Bench σ,
      AgreeOff (· = pipeline.job.symbolsAt s.workspace.cwd)
        (pipeline.runner.after (pipeline.job.symbolsCall s.workspace.cwd) bench).disk bench.disk) :
    match pipeline.watched.archive .windows s.watched with
    | .ok release t => NoneIdle s.workspace.cwd t.bench.memory.seen ∧
        FreshRelease pipeline.job s.workspace.cwd s.bench.disk t.bench.memory.seen t.bench.disk
          release
    | .error failure t => FailsForIdle s.workspace.cwd failure t.bench.memory.seen := by
  have hruns : Runs s.workspace _ (pipeline.watched.archive .windows) _ _ :=
    archive_proven hplain hcwd hlegal hrunner hsecond
  have hs : s.watched.Meets fun d m => d = s.bench.disk ∧ m.seen = [] := ⟨rfl, rfl⟩
  cases hrun : pipeline.watched.archive .windows s.watched with
  | ok release t => exact hruns.meets rfl hs hrun
  | error failure t => exact hruns.meets_error rfl hs hrun

/-- A release with plain tools, which make both archives. -/
theorem archive_provenance_of_plain_tools :
    let cwd : Path := ⟨"/project"⟩
    let stage := (PlainTools.pipeline none).watched.archive .windows
    succeeds stage PlainTools.session.watched = true ∧
    match stage PlainTools.session.watched with
    | .ok release t => NoneIdle cwd t.bench.memory.seen ∧
        FreshRelease PlainTools.job cwd PlainTools.disk t.bench.memory.seen t.bench.disk release
    | .error failure t => FailsForIdle cwd failure t.bench.memory.seen := by
  intro cwd stage
  have hrunner := (PlainTools.runner_confined none).contained
  refine ⟨by decide, archive_provenance (PlainTools.pipeline none) PlainTools.session
    PlainTools.job_hasPlainNames (by decide) PlainTools.disk_legal hrunner.legal ?_⟩
  exact fun _ => hrunner.packs_symbols PlainTools.job_hasPlainNames (by decide)

/-! ### A current folder that comes and goes -/

/-- Tools that write nothing. Deploying takes a folder away, and packing puts it back. -/
def comeAndGo : Runner Unit := fun call bench =>
  .ok () { bench with
    disk := if call.program = "windeployqt.exe" then bench.disk.remove ["project", "detour"]
      else bench.disk.put ["project", "detour"] (.folder []) }

/-- The debug symbols are copied, so the compressing tool is called once. -/
def detouring : Pipeline Unit :=
  { PlainTools.pipeline none with
    job := { PlainTools.job with policy := ⟨.copy, .keepSvg, .rename⟩ }
    runner := comeAndGo }

/-- A project with an old archive, whose current folder is reached by way of another folder. -/
def detour : Session Unit :=
  ⟨⟨⟨"/project/detour/.."⟩, ⟨"/project/detour/.."⟩⟩,
    ⟨(PlainTools.disk.put ["project", "detour"] (.folder [])).put
      ["project", "exotracker-v1.0-dev.7z"] (.file { content := [9] }), [], ()⟩⟩

/-- A release with an old archive. The file could not be reached when it should have been removed,
and it is in reach again when the compressing tool, which writes nothing, is done. -/
theorem archive_publishes_old :
    let published : Location := ["project", "exotracker-v1.0-dev.7z"]
    let after := (sessionAfter (detouring.watched.archive .windows) detour.watched).bench
    succeeds (detouring.watched.archive .windows) detour.watched = true ∧
      detour.bench.disk.entryAt? published = some (.file { content := [9] }) ∧
      after.disk.entryAt? published = some (.file { content := [9] }) ∧
      ∀ x ∈ after.memory.seen, x.failure = none ∧
        x.after.entryAt? published = x.before.entryAt? published := by
  decide +kernel

end Pipeline

end ReleasePipeline
