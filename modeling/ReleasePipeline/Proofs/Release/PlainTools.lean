import ReleasePipeline.Proofs.Disk.Operations
import ReleasePipeline.Proofs.Job.Names
import ReleasePipeline.Proofs.Release.Tools
import ReleasePipeline.Stage.Pipeline

/-!
# ReleasePipeline.Proofs.Release.PlainTools

Plain tools, which do as little as tools can that make a release: the deployment tool brings one
library into the folder it runs in, and the compressing tool adds the bytes of its inputs to those
of the archive. They are confined and go by what their calls are about, so what is assumed of tools
(`Runner.Confined`, `Runner.Deterministic`) holds of tools that do something, also of some that add
to an archive they find, and of some that fail after they did their work.

A small project to use them on comes with them.
-/

namespace ReleasePipeline.PlainTools

open Disk Node

/-! ### The tools -/

/-- The disk with a file of these bytes in a folder, if there is such a folder and it has no folder
of that name. -/
def fileIn (folder : Location) (name : String) (content : Bytes) (d : Node) : Option Node :=
  if d.isFolderAt folder && !d.isFolderAt (folder ++ [.text name]) then
    some (d.put (folder ++ [.text name]) (.file { content }))
  else none

/-- The bytes of a file, and none where there is no file. -/
def bytesAt (d : Node) (l : Location) : Bytes :=
  match d.entryAt? l with
  | some (.file f) => f.content
  | _ => []

/-- What an archive has of an input: the bytes of a file, or those of the executable in a folder. -/
def packed (d : Node) (input : Path) : Bytes :=
  match locate d input with
  | .ok l => bytesAt d l ++ bytesAt d (l ++ [.text "exotracker-qt.exe"])
  | .error _ => []

/-- Brings a library into the folder of the call. -/
def deploy (call : ToolCall) (d : Node) : Option Node :=
  match locate d call.folder with
  | .ok l => fileIn l "Qt5Core.dll" [] d
  | .error _ => none

/-- Adds inputs to the archive that is the third argument. -/
def pack (call : ToolCall) (d : Node) : Option Node :=
  match call.args[2]? with
  | some (archive : String) =>
    match place d (call.folder / archive) with
    | .ok ⟨above, .name name, _⟩ =>
      fileIn above name (bytesAt d (above ++ [.text name]) ++
        (call.args.drop 3).flatMap fun input : String => packed d (call.folder / input)) d
    | _ => none
  | none => none

/-- What a call makes of the disk, if it can do its work. -/
def work (call : ToolCall) (d : Node) : Option Node :=
  if call.program = "windeployqt.exe" then deploy call d else pack call d

/-- The plain tools. One of them may fail whenever its work is done. -/
def runner (failing : Option String) : Runner Unit := fun call bench =>
  match work call bench.disk with
  | some disk =>
    if failing = some call.program then
      .error (.toolFailed call.program (some 2)) { bench with disk }
    else .ok () { bench with disk }
  | none => .error (.toolFailed call.program (some 1)) bench

/-! ### They are as tools should be -/

variable {d e : Node} {call : ToolCall} {folder : Location} {name : String} {content : Bytes}

theorem fileIn_eq_some (h : fileIn folder name content d = some e) :
    d.entryAt? folder = some .folder ∧ d.entryAt? (folder ++ [.text name]) ≠ some .folder ∧
      Wrote d (folder ++ [.text name]) { content } e := by
  unfold fileIn at h
  split at h
  · rename_i hfolders
    rw [Bool.and_eq_true, isFolderAt_iff, Bool.not_eq_true', ← Bool.not_eq_true,
      isFolderAt_iff] at hfolders
    obtain ⟨hfolder, hno⟩ := hfolders
    cases h
    exact ⟨hfolder, hno, .put _ hfolder hno⟩
  · cases h

theorem deploy_eq_some (h : deploy call d = some e) :
    d.entryAt? call.folder.location = some .folder ∧
      Wrote d (call.folder.location ++ [.text "Qt5Core.dll"]) { content := [] } e := by
  unfold deploy at h
  split at h
  · rename_i l hl
    obtain ⟨hfolder, -, hwrote⟩ := fileIn_eq_some h
    rw [location_of_locate hl] at hfolder hwrote
    exact ⟨hfolder, hwrote⟩
  · cases h

theorem pack_eq_some (h : pack call d = some e) :
    ∃ (archive : String) (above : Location) (name : String) (slash : Bool) (f : File),
    call.args[2]? = some archive ∧
      place d (call.folder / archive) = .ok ⟨above, .name name, slash⟩ ∧
        Wrote d (above ++ [.text name]) f e := by
  unfold pack at h
  split at h
  · rename_i archive harchive
    split at h
    · rename_i above name slash hplace
      exact ⟨archive, above, name, slash, _, harchive, hplace, (fileIn_eq_some h).2.2⟩
    · cases h
  · cases h

theorem work_legal (hlegal : d.Legal) (h : work call d = some e) : e.Legal := by
  unfold work at h
  split at h
  · obtain ⟨hfolder, hwrote⟩ := deploy_eq_some h
    exact hwrote.legal hlegal hfolder (by decide)
  · obtain ⟨archive, folder, name, slash, f, -, hplace, hwrote⟩ := pack_eq_some h
    obtain ⟨-, -, -, hname, -, hfolder⟩ := place_ok hplace
    exact hwrote.legal hlegal hfolder hname

/-- Whatever holds of the disk before and after all work holds of it before and after a call. -/
theorem after_cases {failing : Option String} {bench : Bench Unit} {P : Node → Prop}
    (hno : P bench.disk) (hwork : ∀ e, work call bench.disk = some e → P e) :
    P ((runner failing).after call bench).disk := by
  unfold Runner.after runner
  cases hdone : work call bench.disk with
  | none => exact hno
  | some e =>
      dsimp only
      by_cases hfails : failing = some call.program
      · rw [if_pos hfails]
        exact hwork e hdone
      · rw [if_neg hfails]
        exact hwork e hdone

theorem runner_confined (failing : Option String) : (runner failing).Confined where
  legal call bench hlegal := after_cases hlegal fun e h => work_legal hlegal h
  deploy call bench hprogram hfolder := by
    refine after_cases (P := fun e => AgreeOff (call.folder.location <+: ·) e bench.disk ∧
      e.entryAt? call.folder.location = some .folder) ⟨.refl _, hfolder⟩ ?_
    intro e h
    rw [work, if_pos hprogram] at h
    obtain ⟨-, hwrote⟩ := deploy_eq_some h
    refine ⟨hwrote.agree.weaken ?_, ?_⟩
    · rintro l rfl
      exact List.prefix_append _ _
    · rw [hwrote.agree _ (by simp)]
      exact hfolder
  compress call bench archive hprogram harchive := by
    have hprograms : "7z" ≠ "windeployqt.exe" := by decide
    refine after_cases (P := fun e => AgreeOff (· = (call.folder / archive).location) e bench.disk ∧
      (bench.disk.entryAt? (call.folder / archive).location ≠ some .folder →
        e.entryAt? (call.folder / archive).location ≠ some .folder)) ⟨.refl _, id⟩ ?_
    intro e h
    rw [work, if_neg (hprogram ▸ hprograms)] at h
    obtain ⟨archive', folder, name, slash, f, harchive', hplace, hwrote⟩ := pack_eq_some h
    rw [harchive] at harchive'
    cases harchive'
    rw [location_of_place hplace]
    refine ⟨hwrote.agree, ?_⟩
    intro _ hfolder
    rw [hwrote.entryAt?] at hfolder
    cases hfolder

/-- Both or neither of two disks take a file that they have the same room for. -/
theorem fileIn_alike (hfolder : d.entryAt? folder = e.entryAt? folder)
    (hentry : d.entryAt? (folder ++ [.text name]) = e.entryAt? (folder ++ [.text name])) :
    (fileIn folder name content d = none ∧ fileIn folder name content e = none) ∨
      ∃ d' e', (fileIn folder name content d = some d' ∧ fileIn folder name content e = some e') ∧
        Wrote d (folder ++ [.text name]) { content } d' ∧
          Wrote e (folder ++ [.text name]) { content } e' := by
  cases hd : fileIn folder name content d with
  | none =>
      refine .inl ⟨rfl, ?_⟩
      unfold fileIn at hd ⊢
      rw [isFolderAt_congr hfolder, isFolderAt_congr hentry] at hd
      split at hd
      · cases hd
      · exact if_neg ‹_›
  | some d' =>
      -- The other disk has the same room, so the file is put there too.
      obtain ⟨hthere, hno, hwrote⟩ := fileIn_eq_some hd
      rw [hfolder] at hthere
      rw [hentry] at hno
      refine .inr ⟨d', _, ⟨rfl, if_pos ?_⟩, hwrote, .put _ hthere hno⟩
      rw [Bool.and_eq_true, isFolderAt_iff, Bool.not_eq_true', ← Bool.not_eq_true, isFolderAt_iff]
      exact ⟨hthere, hno⟩

theorem bytesAt_congr {l : Location} (h : d.entryAt? l = e.entryAt? l) :
    bytesAt d l = bytesAt e l := by
  rw [bytesAt, bytesAt, h]

theorem packed_congr {input : Path} (h : SameAt input d e) : packed d input = packed e input := by
  unfold packed
  rw [h.locate]
  cases hfound : locate e input with
  | error fault => rfl
  | ok l =>
      obtain rfl := location_of_locate hfound
      dsimp only
      rw [bytesAt_congr h.here, bytesAt_congr (h.below _)]

theorem deploy_alike (h : SameAt call.folder d e) :
    (deploy call d = none ∧ deploy call e = none) ∨
      ∃ d' e', (deploy call d = some d' ∧ deploy call e = some e') ∧
        ∀ below, d'.entryAt? (call.folder.location ++ below) =
          e'.entryAt? (call.folder.location ++ below) := by
  unfold deploy
  rw [h.locate]
  cases hfound : locate e call.folder with
  | error fault => exact .inl ⟨rfl, rfl⟩
  | ok l =>
      obtain rfl := location_of_locate hfound
      refine (fileIn_alike h.here (h.below _)).imp id fun ⟨d', e', hdone, hd, he⟩ =>
        ⟨d', e', hdone, fun below => ?_⟩
      by_cases hwritten : call.folder.location ++ below = call.folder.location ++ [.text "Qt5Core.dll"]
      · rw [hwritten, hd.entryAt?, he.entryAt?]
      · rw [hd.agree _ hwritten, he.agree _ hwritten, h.below]

theorem pack_alike {archive : String} (harchive : call.args[2]? = some archive)
    (hinputs : ∀ input : String, input ∈ call.args.drop 3 → SameAt (call.folder / input) d e)
    (htarget : SameFor (call.folder / archive) d e) :
    (pack call d = none ∧ pack call e = none) ∨
      ∃ d' e', (pack call d = some d' ∧ pack call e = some e') ∧
        d'.entryAt? (call.folder / archive).location =
          e'.entryAt? (call.folder / archive).location := by
  obtain ⟨hplace, hentry⟩ := htarget
  have hpacked : ((call.args.drop 3).flatMap fun input : String => packed d (call.folder / input)) =
      (call.args.drop 3).flatMap fun input : String => packed e (call.folder / input) := by
    rw [List.flatMap_def, List.flatMap_def]
    exact congrArg List.flatten
      (List.map_congr_left fun input hinput => packed_congr (hinputs input hinput))
  unfold pack
  rw [harchive]
  dsimp only
  rw [hplace, hpacked]
  cases hfound : place e (call.folder / archive) with
  | error fault => exact .inl ⟨rfl, rfl⟩
  | ok found =>
      obtain ⟨above, last, slash⟩ := found
      cases last with
      | name name =>
          have hd := (place_ok (hplace.trans hfound)).2.2.2.2.2
          have he := (place_ok hfound).2.2.2.2.2
          rw [location_of_place hfound] at hentry ⊢
          dsimp only
          rw [bytesAt_congr hentry]
          refine (fileIn_alike (hd.trans he.symm) hentry).imp id fun ⟨d', e', hdone, hd', he'⟩ =>
            ⟨d', e', hdone, ?_⟩
          rw [hd'.entryAt?, he'.entryAt?]
      | _ => exact .inl ⟨rfl, rfl⟩

theorem runner_alike {failing : Option String} {R : Node → Node → Prop} {b b' : Bench Unit}
    (h : (work call b.disk = none ∧ work call b'.disk = none) ∨
      ∃ d e, (work call b.disk = some d ∧ work call b'.disk = some e) ∧ R d e) :
    EndAlike (fun _ _ after after' => R after.disk after'.disk) (fun _ _ => True)
      (runner failing call b) (runner failing call b') := by
  unfold runner
  rcases h with ⟨hd, he⟩ | ⟨d, e, ⟨hd, he⟩, hR⟩
  · rw [hd, he]
    exact .error trivial
  · rw [hd, he]
    dsimp only
    by_cases hfails : failing = some call.program
    · rw [if_pos hfails, if_pos hfails]
      exact .error trivial
    · rw [if_neg hfails, if_neg hfails]
      exact .ok hR

theorem runner_deterministic (failing : Option String) : (runner failing).Deterministic where
  deploy call b b' hprogram hsame := by
    refine runner_alike (R := fun d e => ∀ below, d.entryAt? (call.folder.location ++ below) =
      e.entryAt? (call.folder.location ++ below)) ?_
    rw [work, work, if_pos hprogram, if_pos hprogram]
    exact deploy_alike hsame
  compress call b b' archive hprogram harchive _ hinputs htarget := by
    have hprograms : "7z" ≠ "windeployqt.exe" := by decide
    refine runner_alike (R := fun d e => d.entryAt? (call.folder / archive).location =
      e.entryAt? (call.folder / archive).location) ?_
    rw [work, work, if_neg (hprogram ▸ hprograms), if_neg (hprogram ▸ hprograms)]
    exact pack_alike harchive hinputs htarget

/-! ### A small project -/

/-- A job whose executable is copied and whose debug symbols are compressed. -/
def job : Job where
  name := "windows"
  configuration := "Release"
  version := "1.0"
  withoutPch := false
  policy := ⟨.copy, .keepSvg, .compress⟩
  compilers := ⟨none, none⟩

/-- The job's build folder in an otherwise empty project. -/
def disk : Node :=
  .folder [("project", .folder [("build-windows-Release", .folder
    [("exotracker-qt.exe", .file { content := [1] }),
      ("exotracker-qt.pdb", .file { content := [2] })])])]

def session : Session Unit :=
  ⟨⟨⟨"/project"⟩, ⟨"/project"⟩⟩, ⟨disk, [], ()⟩⟩

/-- A session in another folder. -/
def sessionIn (folder : String) (disk : Node) : Session Unit :=
  ⟨⟨⟨folder⟩, ⟨folder⟩⟩, ⟨disk, [], ()⟩⟩

def pipeline (failing : Option String) : Pipeline Unit where
  job
  host := ⟨⟨"/project"⟩, none, .byName⟩
  searchPath := none
  runner := runner failing

/-- The same job, but its executable is moved. -/
def moving (failing : Option String) : Pipeline Unit :=
  { pipeline failing with job := { job with policy := ⟨.move, .keepSvg, .compress⟩ } }

theorem job_hasPlainNames : job.HasPlainNames :=
  ⟨by decide, by decide⟩

theorem disk_legal : disk.Legal := by
  have hfile : ∀ content : Bytes, (Node.file { content }).Legal := fun content =>
    .of_isLeaf (isLeaf_file _)
  refine .folder (List.forall_mem_singleton.mpr ⟨by decide, ?_⟩)
  refine .folder (List.forall_mem_singleton.mpr ⟨by decide, ?_⟩)
  refine .folder (List.forall_mem_cons.mpr ⟨⟨by decide, hfile [1]⟩, ?_⟩)
  exact List.forall_mem_singleton.mpr ⟨by decide, hfile [2]⟩

end ReleasePipeline.PlainTools
