import ReleasePipeline.Proofs.Disk.Emptying
import ReleasePipeline.Proofs.Release.PlainTools
import ReleasePipeline.Proofs.Release.Steps
import ReleasePipeline.Proofs.Stage.Runs
import ReleasePipeline.Stage.Release

/-!
# ReleasePipeline.Proofs.Release.Pruning

What pruning the image format plugins does to a disk, for every folder, every order in which it is
listed, and wherever it stops.

With the plugin for SVG kept, the entries are removed one by one. A name is wanted if it is a text
that starts with the stem, so one whose bytes spell no text goes whatever it starts with
(`unwanted_raw`). `Prunable` is what the loop needs of the names that are left, and is kept by every
removal; from it the loop is followed to its end, where all unwanted names are gone (`PrunedOf`), or
to the first name that cannot be removed (`StoppedAt`).
Neither the names that decide on success nor what is left depend on the order. With all plugins
dropped, the folder is removed as a tree, and how that ends can be told from its path.
-/

namespace ReleasePipeline

open Disk Node

/-! ### Removing by name -/

/-- A name that does not start as the one that is kept. One that is no text starts as none. -/
def Unwanted (stem : String) (name : EntryName) : Prop :=
  ¬name.StartsWith stem

instance (stem : String) : DecidablePred (Unwanted stem) := fun name =>
  inferInstanceAs (Decidable (¬name.StartsWith stem))

theorem unwanted_raw (stem : String) (name : RawName) : Unwanted stem (.raw name) :=
  EntryName.not_startsWith_raw stem name

/-- A file in a folder that can be removed by its name. -/
structure Removable (d : Node) (folder : Path) (name : EntryName) : Prop where
  file : ∃ f, d.entryAt? (folder.location ++ [name]) = some (.file f)
  short : isTooLongPath (folder / name) = false

/-- The failure to remove an entry of a folder: it is a folder itself, or the path to it is too
long. -/
inductive Refuses (d : Node) (folder : Path) (name : EntryName) : Failure → Prop where
  | isFolder (short : isTooLongPath (folder / name) = false)
      (entry : d.entryAt? (folder.location ++ [name]) = some .folder) :
      Refuses d folder name (.diskFailed "remove" (folder / name) .isFolder)
  | tooLong (long : isTooLongPath (folder / name) = true) :
      Refuses d folder name (.diskFailed "remove" (folder / name) .nameTooLong)

/-- A folder in which names can be removed one after another. -/
structure Prunable (folder : Path) (names : List EntryName) (d : Node) : Prop where
  accepted : accept folder = .ok ()
  reaches : Reaches d folder
  nodup : names.Nodup
  there : ∀ name ∈ names, name.IsPossible ∧ d.entryAt? (folder.location ++ [name]) ≠ none

section

variable {stem : String} {name : EntryName} {folder : Path} {names rest : List EntryName}
  {d e : Node} {failure : Failure}

theorem Removable.congr (h : Removable d folder name)
    (hentry : e.entryAt? (folder.location ++ [name]) = d.entryAt? (folder.location ++ [name])) :
    Removable e folder name :=
  ⟨h.file.imp fun _ hf => hentry.trans hf, h.short⟩

theorem Refuses.congr (h : Refuses d folder name failure)
    (hentry : e.entryAt? (folder.location ++ [name]) = d.entryAt? (folder.location ++ [name])) :
    Refuses e folder name failure := by
  cases h with
  | isFolder short entry => exact .isFolder short (hentry.trans entry)
  | tooLong long => exact .tooLong long

theorem Refuses.not_removable (h : Refuses d folder name failure) : ¬Removable d folder name := by
  rintro ⟨⟨f, hfile⟩, hshort⟩
  cases h with
  | isFolder _ entry =>
      rw [hfile] at entry
      cases entry
  | tooLong long =>
      rw [hshort] at long
      cases long

namespace Prunable

theorem tail (h : Prunable folder (name :: rest) d) : Prunable folder rest d :=
  ⟨h.accepted, h.reaches, (List.nodup_cons.mp h.nodup).2,
    fun other hother => h.there other (List.mem_cons_of_mem _ hother)⟩

/-- A name is removed, or refused with nothing changed. -/
theorem removeListed_cases (h : Prunable folder (name :: rest) d) :
    Removable d folder name ∧ removeListed (folder / name) d =
        .ok () (d.remove (folder.location ++ [name])) ∨
      ∃ fault, removeListed (folder / name) d = .error fault d ∧
        Refuses d folder name (.diskFailed "remove" (folder / name) fault) := by
  obtain ⟨hname, hthere⟩ := h.there name (List.mem_cons_self ..)
  rw [removeListed_entry hname h.accepted h.reaches]
  cases hlong : isTooLongPath (folder / name) with
  | true => exact .inr ⟨_, rfl, .tooLong hlong⟩
  | false =>
      cases hentry : d.entryAt? (folder.location ++ [name]) with
      | none => exact absurd hentry hthere
      | some entry =>
          cases entry with
          | file f => exact .inl ⟨⟨⟨f, hentry⟩, hlong⟩, rfl⟩
          | folder => exact .inr ⟨_, rfl, .isFolder hlong hentry⟩

/-- What is left to be removed is not touched by a removal. -/
theorem entryAt?_remove (h : Prunable folder (name :: rest) d) {other : EntryName}
    (hother : other ∈ rest) :
    (d.remove (folder.location ++ [name])).entryAt? (folder.location ++ [other]) =
      d.entryAt? (folder.location ++ [other]) := by
  refine (Without.remove d folder.location name).entryAt?_eq ?_ []
  rintro rfl
  exact (List.nodup_cons.mp h.nodup).1 hother

theorem remove (h : Prunable folder (name :: rest) d) (hname : Removable d folder name) :
    Prunable folder rest (d.remove (folder.location ++ [name])) := by
  obtain ⟨f, hfile⟩ := hname.file
  refine ⟨h.accepted, h.reaches.remove_file hfile, h.tail.nodup, fun other hother => ?_⟩
  rw [h.entryAt?_remove hother]
  exact h.tail.there other hother

end Prunable

/-! ### The loop -/

/-- A folder was freed of the unwanted ones of some names, all of which could be removed. -/
structure PrunedOf (stem : String) (folder : Path) (names : List EntryName) (d e : Node) : Prop where
  removable : ∀ name ∈ names, Unwanted stem name → Removable d folder name
  without : Without (fun name => name ∈ names ∧ Unwanted stem name) folder.location d e

/-- The first unwanted name that could not be removed. The names before it are done with. -/
structure StoppedAt (stem : String) (folder : Path) (names : List EntryName) (failure : Failure)
    (d e : Node) : Prop where
  stopped : ∃ before name after, names = before ++ name :: after ∧ Unwanted stem name ∧
    Refuses d folder name failure ∧ PrunedOf stem folder before d e

namespace PrunedOf

theorem nil : PrunedOf stem folder [] d d :=
  ⟨fun _ hname => absurd hname List.not_mem_nil,
    (Without.refl d).congr fun _ _ => iff_of_false id fun h => List.not_mem_nil h.1⟩

theorem cons_kept (hname : name.StartsWith stem) (h : PrunedOf stem folder rest d e) :
    PrunedOf stem folder (name :: rest) d e := by
  refine ⟨List.forall_mem_cons.mpr ⟨fun hunwanted => absurd hname hunwanted, h.removable⟩,
    h.without.congr fun other _ => ?_⟩
  constructor
  · exact fun hother => ⟨List.mem_cons_of_mem _ hother.1, hother.2⟩
  · rintro ⟨hother, hunwanted⟩
    rcases List.mem_cons.mp hother with rfl | hother
    · exact absurd hname hunwanted
    · exact ⟨hother, hunwanted⟩

theorem cons_removed {names : List EntryName} (hprunable : Prunable folder (name :: rest) d)
    (hsub : names ⊆ rest) (hunwanted : Unwanted stem name) (hname : Removable d folder name)
    (h : PrunedOf stem folder names (d.remove (folder.location ++ [name])) e) :
    PrunedOf stem folder (name :: names) d e := by
  constructor
  · refine List.forall_mem_cons.mpr ⟨fun _ => hname, fun other hother hwanted => ?_⟩
    exact (h.removable other hother hwanted).congr (hprunable.entryAt?_remove (hsub hother)).symm
  · refine ((Without.remove d _ name).trans h.without).congr fun other _ => ?_
    constructor
    · rintro (rfl | ⟨hother, hwanted⟩)
      · exact ⟨List.mem_cons_self .., hunwanted⟩
      · exact ⟨List.mem_cons_of_mem _ hother, hwanted⟩
    · rintro ⟨hother, hwanted⟩
      exact (List.mem_cons.mp hother).imp id fun hother => ⟨hother, hwanted⟩

end PrunedOf

namespace StoppedAt

theorem cons_kept (hname : name.StartsWith stem)
    (h : StoppedAt stem folder rest failure d e) :
    StoppedAt stem folder (name :: rest) failure d e := by
  obtain ⟨before, other, after, rfl, hother, hrefuses, hpruned⟩ := h
  exact ⟨name :: before, other, after, rfl, hother, hrefuses, hpruned.cons_kept hname⟩

theorem cons_removed (hprunable : Prunable folder (name :: rest) d) (hunwanted : Unwanted stem name)
    (hname : Removable d folder name)
    (h : StoppedAt stem folder rest failure (d.remove (folder.location ++ [name])) e) :
    StoppedAt stem folder (name :: rest) failure d e := by
  obtain ⟨before, other, after, rfl, hother, hrefuses, hpruned⟩ := h
  refine ⟨name :: before, other, after, rfl, hother, hrefuses.congr ?_,
    hpruned.cons_removed hprunable (List.subset_append_left _ _) hunwanted hname⟩
  exact (hprunable.entryAt?_remove (List.mem_append_right _ (List.mem_cons_self ..))).symm

end StoppedAt

end

namespace Pipeline

open Stage

variable {w : Workspace} {stem : String} {folder : Path} {names : List EntryName} {d e : Node}
  {listing : ListingOrder}

/-- The loop over the names of a folder, followed to its end or to where it stops. -/
theorem prunePlugins_exact (h : Prunable folder names d) :
    Runs w (fun c (_ : σ) => c = d) (prunePlugins folder stem names)
      (fun _ e _ => PrunedOf stem folder names d e)
      fun failure e _ => StoppedAt stem folder names failure d e := by
  induction names generalizing d with
  | nil =>
      refine .pure ?_
      rintro _ _ rfl
      exact .nil
  | cons name rest ih =>
      rw [prunePlugins]
      refine .ite (fun hname => .bind .report fun _ => ?_) fun hname => ?_
      · have hunwanted : Unwanted stem name := fun hkept => by
          rw [isSvgPlugin_iff.mpr hkept] at hname
          cases hname
        refine .bind (M := fun _ c _ => Removable d folder name ∧
          c = d.remove (folder.location ++ [name])) (.attempt ?_) fun _ =>
          .assuming fun hremovable => ?_
        · rintro _ m rfl
          rcases h.removeListed_cases with ⟨hremovable, hrun⟩ | ⟨fault, hrun, hrefuses⟩
          · rw [hrun]
            exact ⟨hremovable, rfl⟩
          · rw [hrun]
            exact ⟨[], name, rest, rfl, hunwanted, hrefuses, .nil⟩
        · exact (ih (h.remove hremovable)).weaken (fun _ _ h => h)
            (fun _ _ _ hpruned => hpruned.cons_removed h (List.Subset.refl _) hunwanted hremovable)
            fun _ _ _ hstopped => hstopped.cons_removed h hunwanted hremovable
      · have hkept : name.StartsWith stem := isSvgPlugin_iff.mp (by simpa using hname)
        exact (ih h.tail).weaken (fun _ _ h => h) (fun _ _ _ hpruned => hpruned.cons_kept hkept)
          fun _ _ _ hstopped => hstopped.cons_kept hkept

/-- Names that are kept are passed over. -/
theorem prunePlugins_kept (h : ∀ name ∈ names, name.StartsWith stem) :
    Runs w (fun c (_ : σ) => c = d) (prunePlugins folder stem names) (fun _ e _ => e = d)
      fun _ _ _ => False := by
  induction names with
  | nil => exact .pure fun _ _ h => h
  | cons name rest ih =>
      have hname := isSvgPlugin_iff.mpr (h name (List.mem_cons_self ..))
      rw [prunePlugins, hname]
      exact ih fun other hother => h other (List.mem_cons_of_mem _ hother)

/-! ### Both ways to prune -/

/-- The disk after the plugins were pruned by name, with success. -/
structure KeptStem (stem : String) (folder : Path) (d e : Node) : Prop where
  removable : ∀ name, d.entryAt? (folder.location ++ [name]) ≠ none → Unwanted stem name →
    Removable d folder name
  without : Without (Unwanted stem) folder.location d e

/-- The disk after pruning by name has stopped at an entry, which is still there: some of the others
may be gone, and all that are were unwanted files. -/
structure StoppedWithin (stem : String) (folder : Path) (failure : Failure) (d e : Node) :
    Prop where
  refused : ∃ name, Unwanted stem name ∧ Refuses d folder name failure ∧
    e.entryAt? (folder.location ++ [name]) = d.entryAt? (folder.location ++ [name]) ∧
    d.entryAt? (folder.location ++ [name]) ≠ none
  without : ∃ gone : EntryName → Prop,
    (∀ name, gone name → Unwanted stem name ∧ Removable d folder name) ∧
      Without gone folder.location d e

theorem prunable_of_listed (hfolder : isFolder d folder = true)
    (hnames : d.HoldsNames folder.location) (hnodup : names.Nodup)
    (hthere : ∀ name, name ∈ names ↔ d.entryAt? (folder.location ++ [name]) ≠ none) :
    Prunable folder names d := by
  obtain ⟨l, hl, -⟩ := isFolder_iff.mp hfolder
  refine ⟨(locate_ok hl).1, .of_isFolder hfolder, hnodup, fun name hname => ?_⟩
  have hentry := (hthere name).mp hname
  exact ⟨hnames name hentry, hentry⟩

theorem keepSvg_runs (hfolder : isFolder d folder = true) (hnames : d.HoldsNames folder.location) :
    Runs w (fun c (_ : σ) => c = d) (pruneImageFormats listing folder stem .keepSvg)
      (fun _ e _ => KeptStem stem folder d e)
      fun failure e _ => StoppedWithin stem folder failure d e := by
  obtain ⟨names, hlist, hnodup, hthere⟩ := list_of_isFolder listing hfolder
  have hprunable := prunable_of_listed hfolder hnames hnodup hthere
  unfold pruneImageFormats
  refine .bind .disk fun disk => .of_fact (fun c m h => h.1.trans h.2) fun hdisk => ?_
  subst hdisk
  rw [if_pos hfolder]
  refine .bind (M := fun listed c _ => listed = names ∧ c = disk) (.attempt ?_) fun listed =>
    .assuming fun hlisted => ?_
  · rintro _ m ⟨-, rfl⟩
    rw [hlist]
    exact ⟨rfl, rfl⟩
  subst hlisted
  refine (prunePlugins_exact hprunable).weaken (fun _ _ h => h) ?_ ?_
  · intro _ e _ hpruned
    refine ⟨fun name hname hunwanted => ?_, hpruned.without.congr fun name hname => ?_⟩
    · exact hpruned.removable name ((hthere name).mpr hname) hunwanted
    · exact and_iff_right ((hthere name).mpr hname)
  · rintro failure e _ ⟨before, name, after, rfl, hunwanted, hrefuses, hpruned⟩
    have hmem : name ∈ before ++ name :: after := List.mem_append_right _ (List.mem_cons_self ..)
    refine ⟨⟨name, hunwanted, hrefuses, hpruned.without.entryAt?_eq ?_ [], (hthere name).mp hmem⟩,
      _, fun other hother => ⟨hother.2, hpruned.removable other hother.1 hother.2⟩, hpruned.without⟩
    exact fun hgone => hrefuses.not_removable (hpruned.removable name hgone.1 hgone.2)

/-- Removing the folder as a tree. -/
theorem removeAll_runs (hfolder : isFolder d folder = true) :
    Runs w (fun c (_ : σ) => c = d) (pruneImageFormats listing folder stem .removeAll)
      (fun _ e _ => Path.EndsInName folder ∧ ¬Path.DoublesBack folder ∧
          e = (d.put folder.location (.folder [])).remove folder.location ∨
        Path.DoublesBack folder ∧ e = d.put folder.location (.folder []))
      fun _ e _ => (¬Path.EndsInName folder ∧ ¬Path.DoublesBack folder) ∧
        e = d.put folder.location (.folder []) := by
  unfold pruneImageFormats
  refine .bind .disk fun disk => .of_fact (fun c m h => h.1.trans h.2) fun hdisk => ?_
  subst hdisk
  rw [if_pos hfolder]
  refine .attempt ?_
  rintro d m ⟨-, rfl⟩
  rcases removeTree_exact hfolder with ⟨hname, hback, hrun⟩ | ⟨hback, hrun⟩ |
    ⟨hname, hback, fault, hrun⟩
  · rw [hrun]
    exact .inl ⟨hname, hback, rfl⟩
  · rw [hrun]
    exact .inr ⟨hback, rfl⟩
  · rw [hrun]
    exact ⟨⟨hname, hback⟩, rfl⟩

/-- Without a folder there is nothing to do. -/
theorem prune_of_not_isFolder {imageFormats : ImageFormats} (hfolder : isFolder d folder = false) :
    Runs w (fun c (_ : σ) => c = d) (pruneImageFormats listing folder stem imageFormats)
      (fun _ e _ => e = d) fun _ _ _ => False := by
  unfold pruneImageFormats
  refine .bind .disk fun disk => .of_fact (fun c m h => h.1.trans h.2) fun hdisk => ?_
  subst hdisk
  rw [if_neg (by simp [hfolder])]
  exact Runs.report.weaken (fun _ _ h => h.2) (fun _ _ _ h => h) fun _ _ _ h => h

/-- With nothing unwanted there is nothing to do. -/
theorem keepSvg_of_kept (hfolder : isFolder d folder = true)
    (hkept : ∀ name, d.entryAt? (folder.location ++ [name]) ≠ none → name.StartsWith stem) :
    Runs w (fun c (_ : σ) => c = d) (pruneImageFormats listing folder stem .keepSvg)
      (fun _ e _ => e = d) fun _ _ _ => False := by
  obtain ⟨names, hlist, -, hthere⟩ := list_of_isFolder listing hfolder
  unfold pruneImageFormats
  refine .bind .disk fun disk => .of_fact (fun c m h => h.1.trans h.2) fun hdisk => ?_
  subst hdisk
  rw [if_pos hfolder]
  refine .bind (M := fun listed c _ => listed = names ∧ c = disk) (.attempt ?_) fun listed =>
    .assuming fun hlisted => ?_
  · rintro _ m ⟨-, rfl⟩
    rw [hlist]
    exact ⟨rfl, rfl⟩
  subst hlisted
  exact prunePlugins_kept fun name hname => hkept name ((hthere name).mp hname)

end Pipeline

/-! ### The main statement -/

namespace Pipeline

open Stage ReleasePipeline.Path

section

variable (listing : ListingOrder) (folder : Path) (stem : String) (s : Session σ)

/-- Pruning a folder of plugins by name, for any order of its listing. -/
structure KeepsStem : Prop where
  /-- It succeeds exactly if all unwanted entries are files that can be removed by their names. -/
  ok_iff : (∃ t, pruneImageFormats listing folder stem .keepSvg s = .ok () t) ↔
    ∀ name, s.bench.disk.entryAt? (folder.location ++ [name]) ≠ none → Unwanted stem name →
      Removable s.bench.disk folder name
  /-- Then exactly those entries are gone. -/
  without : ∀ t, pruneImageFormats listing folder stem .keepSvg s = .ok () t →
    Without (Unwanted stem) folder.location s.bench.disk t.bench.disk
  /-- Listed in another order, the folder is pruned to the same entries. -/
  any_order : ∀ t other, pruneImageFormats listing folder stem .keepSvg s = .ok () t →
    ∃ t', pruneImageFormats other folder stem .keepSvg s = .ok () t' ∧
      ∀ l, t'.bench.disk.entryAt? l = t.bench.disk.entryAt? l
  /-- Pruned again, in whatever order, it stays as it is. -/
  again : ∀ t other, pruneImageFormats listing folder stem .keepSvg s = .ok () t →
    ∃ t', pruneImageFormats other folder stem .keepSvg t = .ok () t' ∧
      t'.bench.disk = t.bench.disk
  /-- It fails at an entry that cannot be removed, with only unwanted files gone. -/
  stopped : ∀ failure t, pruneImageFormats listing folder stem .keepSvg s = .error failure t →
    StoppedWithin stem folder failure s.bench.disk t.bench.disk

/-- The disk that is left when all plugins are to go. -/
def withoutPlugins : Node :=
  (sessionAfter (pruneImageFormats listing folder stem .removeAll) s).bench.disk

/-- Removing a folder of plugins with all that is in it. Nothing is left in it and nothing outside
is changed; whether it succeeds, and whether the folder itself is gone, can be told from its path. -/
structure RemovesFolder : Prop where
  emptied : ∀ name below,
    (withoutPlugins listing folder stem s).entryAt? (folder.location ++ name :: below) = none
  outside : AgreeOff (folder.location <+: ·) (withoutPlugins listing folder stem s) s.bench.disk
  ok_iff : (∃ t, pruneImageFormats listing folder stem .removeAll s = .ok () t) ↔
    EndsInName folder ∨ DoublesBack folder
  gone_iff : (withoutPlugins listing folder stem s).entryAt? folder.location = none ↔
    EndsInName folder ∧ ¬DoublesBack folder

/-- All there is to say about pruning a folder. -/
structure PrunesExactly : Prop where
  nothing : isFolder s.bench.disk folder = false → ∀ imageFormats, ∃ t,
    pruneImageFormats listing folder stem imageFormats s = .ok () t ∧ t.bench.disk = s.bench.disk
  keepSvg : isFolder s.bench.disk folder = true → KeepsStem listing folder stem s
  removeAll : isFolder s.bench.disk folder = true → RemovesFolder listing folder stem s

end

variable {listing : ListingOrder} {folder : Path} {stem : String} {s : Session σ}

/-- The folder is emptied in any case, and it is removed itself or it is not. -/
theorem removeAll_ending (hfolder : isFolder s.bench.disk folder = true) :
    ((∃ t, pruneImageFormats listing folder stem .removeAll s = .ok () t) ↔
        EndsInName folder ∨ DoublesBack folder) ∧
      (EndsInName folder ∧ ¬DoublesBack folder ∧ withoutPlugins listing folder stem s =
          (s.bench.disk.put folder.location (.folder [])).remove folder.location ∨
        (EndsInName folder → DoublesBack folder) ∧ withoutPlugins listing folder stem s =
          s.bench.disk.put folder.location (.folder [])) := by
  have hruns : Runs s.workspace (fun c (_ : σ) => c = s.bench.disk)
      (pruneImageFormats listing folder stem .removeAll) _ _ := removeAll_runs hfolder
  unfold withoutPlugins sessionAfter
  cases hrun : pruneImageFormats listing folder stem .removeAll s with
  | ok u t =>
      rcases hruns.meets rfl rfl hrun with ⟨hname, hback, hdisk⟩ | ⟨hback, hdisk⟩
      · exact ⟨iff_of_true ⟨t, rfl⟩ (.inl hname), .inl ⟨hname, hback, hdisk⟩⟩
      · exact ⟨iff_of_true ⟨t, rfl⟩ (.inr hback), .inr ⟨fun _ => hback, hdisk⟩⟩
  | error failure t =>
      obtain ⟨⟨hname, hback⟩, hdisk⟩ := hruns.meets_error rfl rfl hrun
      refine ⟨iff_of_false ?_ (not_or.mpr ⟨hname, hback⟩), .inr ⟨fun h => absurd h hname, hdisk⟩⟩
      rintro ⟨_, h⟩
      cases h

theorem removesFolder (hfolder : isFolder s.bench.disk folder = true) :
    RemovesFolder listing folder stem s := by
  obtain ⟨l, hl, hthere⟩ := isFolder_iff.mp hfolder
  obtain rfl := location_of_locate hl
  have hemptied := Emptied.put hthere
  obtain ⟨hok, ⟨hname, hback, hdisk⟩ | ⟨hback, hdisk⟩⟩ :=
    removeAll_ending hfolder
  · refine ⟨fun name below => ?_, ?_, hok, ?_⟩
    · rw [hdisk, entryAt?_remove_location hname]
    · rw [hdisk]
      exact (AgreeOff.remove _ _).trans hemptied.agree
    · have hgone := entryAt?_remove_location
        (d := s.bench.disk.put folder.location (.folder [])) hname []
      rw [List.append_nil] at hgone
      rw [hdisk, hgone]
      exact iff_of_true rfl ⟨hname, hback⟩
  · refine ⟨fun name below => ?_, ?_, hok, ?_⟩
    · rw [hdisk, hemptied.below]
    · rw [hdisk]
      exact hemptied.agree
    · rw [hdisk, hemptied.kept]
      exact iff_of_false nofun fun h => h.2 (hback h.1)

theorem keptStem_of_ok {t : Session σ} (hfolder : isFolder s.bench.disk folder = true)
    (hnames : s.bench.disk.HoldsNames folder.location)
    (hrun : pruneImageFormats listing folder stem .keepSvg s = .ok () t) :
    KeptStem stem folder s.bench.disk t.bench.disk := by
  have hruns : Runs s.workspace (fun c (_ : σ) => c = s.bench.disk)
      (pruneImageFormats listing folder stem .keepSvg) _ _ := keepSvg_runs hfolder hnames
  exact hruns.meets rfl rfl hrun

theorem stoppedWithin_of_error {failure : Failure} {t : Session σ}
    (hfolder : isFolder s.bench.disk folder = true)
    (hnames : s.bench.disk.HoldsNames folder.location)
    (hrun : pruneImageFormats listing folder stem .keepSvg s = .error failure t) :
    StoppedWithin stem folder failure s.bench.disk t.bench.disk := by
  have hruns : Runs s.workspace (fun c (_ : σ) => c = s.bench.disk)
      (pruneImageFormats listing folder stem .keepSvg) _ _ := keepSvg_runs hfolder hnames
  exact hruns.meets_error rfl rfl hrun

/-- What decides on success does not mention the order. -/
theorem exists_keepSvg_ok_iff (hfolder : isFolder s.bench.disk folder = true)
    (hnames : s.bench.disk.HoldsNames folder.location) :
    (∃ t, pruneImageFormats listing folder stem .keepSvg s = .ok () t) ↔
      ∀ name, s.bench.disk.entryAt? (folder.location ++ [name]) ≠ none → Unwanted stem name →
        Removable s.bench.disk folder name := by
  cases hrun : pruneImageFormats listing folder stem .keepSvg s with
  | ok u t => exact iff_of_true ⟨t, rfl⟩ (keptStem_of_ok hfolder hnames hrun).removable
  | error failure t =>
      obtain ⟨name, hunwanted, hrefuses, -, hthere⟩ :=
        (stoppedWithin_of_error hfolder hnames hrun).refused
      refine iff_of_false ?_ fun h => hrefuses.not_removable (h name hthere hunwanted)
      rintro ⟨_, h⟩
      cases h

/-- Only files were removed, so the folder is still one. -/
theorem KeptStem.isFolder (h : KeptStem stem folder d e) (hfolder : Disk.isFolder d folder = true) :
    Disk.isFolder e folder = true := by
  refine h.without.isFolder hfolder fun name hunwanted hentry => ?_
  obtain ⟨f, hfile⟩ := (h.removable name (by rw [hentry]; exact nofun) hunwanted).file
  rw [hentry] at hfile
  cases hfile

theorem keepsStem (hfolder : isFolder s.bench.disk folder = true)
    (hnames : s.bench.disk.HoldsNames folder.location) : KeepsStem listing folder stem s := by
  constructor
  case ok_iff => exact exists_keepSvg_ok_iff hfolder hnames
  case without => exact fun t hrun => (keptStem_of_ok hfolder hnames hrun).without
  case any_order =>
    intro t other hrun
    have hkept := keptStem_of_ok hfolder hnames hrun
    obtain ⟨t', hrun'⟩ := (exists_keepSvg_ok_iff hfolder hnames).mpr hkept.removable
    exact ⟨t', hrun', (keptStem_of_ok hfolder hnames hrun').without.same hkept.without⟩
  case again =>
    intro t other hrun
    have hkept := keptStem_of_ok hfolder hnames hrun
    have hruns : Runs t.workspace (fun c (_ : σ) => c = t.bench.disk)
        (pruneImageFormats other folder stem .keepSvg) _ _ :=
      keepSvg_of_kept (hkept.isFolder hfolder) fun name hthere =>
        Decidable.byContradiction fun hunwanted => hthere (hkept.without.lost name [] hunwanted)
    obtain ⟨_, t', hrun', hdisk⟩ := hruns.exists_ok rfl rfl
    exact ⟨t', hrun', hdisk⟩
  case stopped => exact fun failure t hrun => stoppedWithin_of_error hfolder hnames hrun

/-- **Pruning is exact.** Without a folder nothing is done. By name, the unwanted entries go, in
whatever order they are listed, or the run stops at one that is a folder or has too long a path;
what is to be kept stays as it is. As a whole, the folder is emptied in any case, and goes itself if
its path has a name at its end and does not lead through what is in it. -/
theorem pruneImageFormats_exact (listing : ListingOrder) (folder : Path) (stem : String)
    (s : Session σ) (hnames : s.bench.disk.HoldsNames folder.location) :
    PrunesExactly listing folder stem s := by
  constructor
  case nothing =>
    intro hfolder imageFormats
    have hruns : Runs s.workspace (fun c (_ : σ) => c = s.bench.disk)
        (pruneImageFormats listing folder stem imageFormats) _ _ := prune_of_not_isFolder hfolder
    obtain ⟨_, t, hrun, hdisk⟩ := hruns.exists_ok rfl rfl
    exact ⟨t, hrun, hdisk⟩
  case keepSvg => exact fun hfolder => keepsStem hfolder hnames
  case removeAll => exact removesFolder

end Pipeline

/-! ### Paths that stand in the way -/

/-- A name is joined to the text of a folder with a slash. -/
theorem Path.text_join {folder : Path} {name : String} (hne : folder.text.toList ≠ [])
    (hslash : folder.endsInSlash = false) (hname : (Path.mk name).isAbsolute = false) :
    (folder / name).text = folder.text ++ "/" ++ name := by
  change (folder / (⟨name⟩ : Path)).text = _
  rw [Path.join_of_not_isAbsolute hname, if_neg (by simp [hne, hslash])]

namespace PlainTools

/-- A name that starts with the bytes of `qsvg`. The byte behind them is no part of a text. -/
def strayName : RawName where
  bytes := Utf8.encode "qsvg" ++ 0xFF :: Utf8.encode ".dll"
  no_text := by decide +kernel
  no_nul := by decide
  no_slash := by decide

/-- What is in the folder of plugins. -/
def pluginEntries : List (EntryName × Node) :=
  [("qgif.dll", .file { content := [1] }), ("qsvg.dll", .file { content := [2] }),
    ("qsvg-data", .folder [("icons", .file { content := [3] })]),
    ("qjpeg.dll", .file { content := [4] }), (.raw strayName, .file { content := [5] })]

/-- A project with a folder of plugins. -/
def pluginDisk : Node :=
  .folder [("project", .folder [("imageformats", .folder pluginEntries)])]

theorem get?_pluginDisk :
    pluginDisk.get? ["project", "imageformats"] = some (.folder pluginEntries) :=
  rfl

theorem unwanted_plugin {name : EntryName} (hunwanted : Unwanted "qsvg" name)
    (hthere : pluginDisk.entryAt? ["project", "imageformats", name] ≠ none) :
    name = .text "qgif.dll" ∨ name = .text "qjpeg.dll" ∨ name = .raw strayName := by
  obtain ⟨entry, hentry⟩ := Option.ne_none_iff_exists'.mp hthere
  obtain ⟨child, hchild, -⟩ := exists_child get?_pluginDisk hentry
  simp only [pluginEntries, List.mem_cons, List.not_mem_nil, or_false, Prod.mk.injEq] at hchild
  rcases hchild with ⟨rfl, -⟩ | ⟨rfl, -⟩ | ⟨rfl, -⟩ | ⟨rfl, -⟩ | ⟨rfl, -⟩
  · exact .inl rfl
  · exact absurd hunwanted (by decide)
  · exact absurd hunwanted (by decide)
  · exact .inr (.inl rfl)
  · exact .inr (.inr rfl)

/-- The folder of plugins by a path with this many dots at its end. -/
def dotted : Nat → Path
  | 0 => ⟨"/project/imageformats"⟩
  | count + 1 => dotted count / "."

theorem dotted_location (count : Nat) :
    (dotted count).location = [.text "project", .text "imageformats"] := by
  induction count with
  | zero => decide
  | succ count ih => rw [dotted, Path.location_join_here, ih]

theorem pluginDisk_holdsNames (count : Nat) : pluginDisk.HoldsNames (dotted count).location := by
  rw [dotted_location]
  exact .of_entries get?_pluginDisk (by decide)

theorem dotted_joinable (count : Nat) :
    (dotted count).text.toList ≠ [] ∧ (dotted count).endsInSlash = false := by
  induction count with
  | zero => decide
  | succ count ih =>
      have htext : (dotted (count + 1)).text = (dotted count).text ++ "/" ++ "." := by
        rw [dotted, Path.text_join ih.1 ih.2 (by decide)]
      simp [Path.endsInSlash, htext]

theorem size_dotted (count : Nat) : (dotted count).text.utf8ByteSize = 21 + 2 * count := by
  induction count with
  | zero => decide
  | succ count ih =>
      obtain ⟨hne, hslash⟩ := dotted_joinable count
      rw [dotted, Path.text_join hne hslash (by decide), String.utf8ByteSize_append,
        String.utf8ByteSize_append, ih]
      rfl

theorem isFolder_dotted {count : Nat} (h : 21 + 2 * count < pathLimit) :
    isFolder pluginDisk (dotted count) = true := by
  induction count with
  | zero => decide +kernel
  | succ count ih =>
      have hsize := size_dotted (count + 1)
      refine isFolder_join_here (ih (by omega)) ?_
      rw [← dotted, isTooLongPath_eq_false_iff, hsize]
      exact h

theorem plugin_removable (name : EntryName)
    (hthere : pluginDisk.entryAt? ((dotted 0).location ++ [name]) ≠ none)
    (hunwanted : Unwanted "qsvg" name) : Removable pluginDisk (dotted 0) name := by
  rw [dotted_location] at hthere
  rcases unwanted_plugin hunwanted hthere with rfl | rfl | rfl
  · exact ⟨⟨{ content := [1] }, by decide⟩, by decide⟩
  · exact ⟨⟨{ content := [4] }, by decide⟩, by decide⟩
  · exact ⟨⟨{ content := [5] }, by decide⟩, by decide⟩

end PlainTools

namespace Pipeline

open Stage ReleasePipeline.Path PlainTools

theorem pruneImageFormats_exact_of_plugins :
    let s := sessionIn "/project" pluginDisk
    pluginDisk.HoldsNames (dotted 0).location ∧ isFolder pluginDisk (dotted 0) = true ∧
      PrunesExactly .byName (dotted 0) "qsvg" s ∧
      ∃ t, pruneImageFormats .byName (dotted 0) "qsvg" .keepSvg s = .ok () t := by
  have hfolder : isFolder pluginDisk (dotted 0) = true := isFolder_dotted (by decide)
  have hnames := pluginDisk_holdsNames 0
  have hexact : PrunesExactly .byName (dotted 0) "qsvg" (sessionIn "/project" pluginDisk) :=
    pruneImageFormats_exact .byName (dotted 0) "qsvg" (sessionIn "/project" pluginDisk) hnames
  exact ⟨hnames, hfolder, hexact, (hexact.keepSvg hfolder).ok_iff.mpr plugin_removable⟩

/-- One folder of plugins by four paths. By name, an entry goes whose name starts with the bytes of
the prefix, since they are not the start of a text. By a longer path, no unwanted entry is a folder
and still it is not pruned, as the path to one is too long. As a whole, it is not removed by a path
that ends in a dot; by one that leads through an entry of its own it stays although nothing fails. -/
theorem pruning_depends_on_spelling :
    let s := sessionIn "/project" pluginDisk
    let folder : Path := ⟨"/project/imageformats"⟩
    let stray : Location := ["project", "imageformats", .raw strayName]
    (Utf8.encode "qsvg" <+: strayName.bytes ∧
        pluginDisk.entryAt? stray = some (.file { content := [5] }) ∧
        ∃ t, pruneImageFormats .byName folder "qsvg" .keepSvg s = .ok () t ∧
          t.bench.disk.entryAt? stray = none) ∧
      ¬((∃ t, pruneImageFormats .byName (dotted 2037) "qsvg" .keepSvg s = .ok () t) ↔
        isFolder s.bench.disk (dotted 2037) = false ∨
          ∀ name, Unwanted "qsvg" name →
            s.bench.disk.entryAt? ((dotted 2037).location ++ [name]) ≠ some .folder) ∧
      succeeds (pruneImageFormats .byName (folder / ".") "qsvg" .removeAll) s = false ∧
      isFolder (withoutPlugins .byName (folder / ".") "qsvg" s) folder = true ∧
      succeeds (pruneImageFormats .byName (folder / "qsvg-data/..") "qsvg" .removeAll) s = true ∧
      isFolder (withoutPlugins .byName (folder / "qsvg-data/..") "qsvg" s) folder = true := by
  refine ⟨⟨by decide, by decide, ?_⟩, fun hiff => ?_, by decide +kernel, by decide +kernel,
    by decide +kernel, by decide +kernel⟩
  · have hkeeps : KeepsStem .byName (dotted 0) "qsvg" (sessionIn "/project" pluginDisk) :=
      keepsStem (isFolder_dotted (by decide)) (pluginDisk_holdsNames 0)
    obtain ⟨t, hrun⟩ := hkeeps.ok_iff.mpr plugin_removable
    have hgone := (hkeeps.without t hrun).lost (.raw strayName) [] (unwanted_raw _ _)
    rw [dotted_location] at hgone
    exact ⟨t, hrun, hgone⟩
  have hfolder : isFolder pluginDisk (dotted 2037) = true := isFolder_dotted (by decide)
  have hok := hiff.mpr <| .inr fun name hunwanted hentry => by
    rw [dotted_location] at hentry
    change pluginDisk.entryAt? ["project", "imageformats", name] = some .folder at hentry
    rcases unwanted_plugin hunwanted (by rw [hentry]; exact nofun) with rfl | rfl | rfl
    · exact absurd hentry (by decide)
    · exact absurd hentry (by decide)
    · exact absurd hentry (by decide)
  have hkeeps : KeepsStem .byName (dotted 2037) "qsvg" (sessionIn "/project" pluginDisk) :=
    keepsStem hfolder (pluginDisk_holdsNames 2037)
  have hremovable : Removable pluginDisk (dotted 2037) "qgif.dll" :=
    hkeeps.ok_iff.mp hok "qgif.dll" (by rw [dotted_location]; decide) (by decide)
  obtain ⟨hne, hslash⟩ := dotted_joinable 2037
  have hshort := isTooLongPath_eq_false_iff.mp hremovable.short
  rw [text_join hne hslash (by decide), String.utf8ByteSize_append,
    String.utf8ByteSize_append, size_dotted] at hshort
  exact absurd hshort (by decide)

end Pipeline

end ReleasePipeline
