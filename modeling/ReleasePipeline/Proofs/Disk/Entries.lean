import ReleasePipeline.Disk.Node.Lemmas
import ReleasePipeline.Proofs.Path.Joining
import ReleasePipeline.Proofs.Text.Utf8

/-!
# ReleasePipeline.Proofs.Disk.Entries

Trees seen by their entries. `entryAt?` tells two trees apart exactly as far as a program can: the
order of the entries of a folder, and entries that others hide, do not show. So "the same tree"
means the same entry at every location, and a change to a tree is described by the locations at
which entries may differ (`Node.AgreeOff`).

Two more notions are used all over. A tree is `Legal` if every name in it is one that an entry can
have, and `Sheds` says that a tree came from another by taking things away.
-/

namespace ReleasePipeline

/-! ### Names -/

namespace EntryName

/-- Whether a name is a text can be told from its bytes. -/
theorem text?_eq_decode? (name : EntryName) : name.text? = Utf8.decode? name.bytes := by
  cases name with
  | text s => exact (Utf8.decode?_eq_some_iff.mpr rfl).symm
  | raw name => exact name.no_text.symm

/-- A name is its bytes. -/
theorem bytes_inj {name other : EntryName} : name.bytes = other.bytes ↔ name = other := by
  refine ⟨fun h => ?_, congrArg bytes⟩
  have htext : name.text? = other.text? := by rw [text?_eq_decode?, text?_eq_decode?, h]
  match name, other with
  | .text s, .text t => exact congrArg text (Option.some.inj htext)
  | .raw ⟨_, _, _, _⟩, .raw ⟨_, _, _, _⟩ =>
      cases h
      rfl

theorem text_ne {s t : String} (h : s ≠ t) : text s ≠ text t :=
  mt text.inj h

/-- A name whose bytes spell a text that starts so. -/
def StartsWith (stem : String) (name : EntryName) : Prop :=
  ∃ s, Utf8.decode? name.bytes = some s ∧ stem.toList <+: s.toList

theorem startsWith_text {stem s : String} : (text s).StartsWith stem ↔ stem.toList <+: s.toList := by
  rw [StartsWith, ← text?_eq_decode?]
  simp [text?]

theorem not_startsWith_raw (stem : String) (name : RawName) : ¬(raw name).StartsWith stem := by
  rw [StartsWith, ← text?_eq_decode?]
  simp [text?]

instance (stem : String) : DecidablePred (StartsWith stem)
  | .text _ => decidable_of_iff _ startsWith_text.symm
  | .raw name => .isFalse (not_startsWith_raw stem name)

/-- A name that an entry can have: a text only if it can be written in a path. -/
def IsLegal : EntryName → Prop
  | .text name => Path.IsName name
  | .raw _ => True

instance : DecidablePred IsLegal
  | .text name => inferInstanceAs (Decidable (Path.IsName name))
  | .raw _ => .isTrue trivial

end EntryName

namespace Node

/-! ### Entries and nodes -/

theorem entryAt?_eq_none_iff {d : Node} {l : Location} :
    d.entryAt? l = none ↔ d.get? l = none := by
  rw [entryAt?, Option.map_eq_none_iff]

theorem entryAt?_eq_file_iff {d : Node} {l : Location} {f : File} :
    d.entryAt? l = some (.file f) ↔ d.get? l = some (.file f) := by
  rw [entryAt?, Option.map_eq_some_iff]
  constructor
  · rintro ⟨node, hnode, hentry⟩
    cases node with
    | file g =>
        cases hentry
        exact hnode
    | folder entries => cases hentry
  · exact fun h => ⟨_, h, rfl⟩

theorem entryAt?_eq_folder_iff {d : Node} {l : Location} :
    d.entryAt? l = some .folder ↔ ∃ entries, d.get? l = some (.folder entries) := by
  rw [entryAt?, Option.map_eq_some_iff]
  constructor
  · rintro ⟨node, hnode, hentry⟩
    cases node with
    | file g => cases hentry
    | folder entries => exact ⟨entries, hnode⟩
  · rintro ⟨entries, h⟩
    exact ⟨_, h, rfl⟩

theorem isFolderAt_iff {d : Node} {l : Location} :
    d.isFolderAt l = true ↔ d.entryAt? l = some .folder := by
  rw [entryAt?_eq_folder_iff, isFolderAt]
  cases hnode : d.get? l with
  | none => simp
  | some node => cases node <;> simp [Node.isFolder]

theorem isFolderAt_congr {d e : Node} {l : Location} (h : d.entryAt? l = e.entryAt? l) :
    d.isFolderAt l = e.isFolderAt l := by
  rw [Bool.eq_iff_iff, isFolderAt_iff, isFolderAt_iff, h]

theorem entryAt?_append (d : Node) (above below : Location) :
    d.entryAt? (above ++ below) = (d.get? above).bind (·.entryAt? below) := by
  rw [entryAt?, get?_append]
  cases d.get? above <;> rfl

/-- What has something below it is a folder. -/
theorem entryAt?_of_below {d : Node} {above : Location} {name : EntryName} {below : Location}
    (h : d.entryAt? (above ++ name :: below) ≠ none) : d.entryAt? above = some .folder := by
  rw [entryAt?_append] at h
  cases habove : d.get? above with
  | none => exact absurd (by rw [habove]; rfl) h
  | some node =>
      cases node with
      | file f => exact absurd (by rw [habove]; rfl) h
      | folder entries => exact entryAt?_eq_folder_iff.mpr ⟨entries, habove⟩

theorem entryAt?_below_eq_none {d : Node} {above : Location} (name : EntryName) (below : Location)
    (h : d.entryAt? above ≠ some .folder) : d.entryAt? (above ++ name :: below) = none :=
  Decidable.byContradiction fun hsome => h (entryAt?_of_below hsome)

theorem isSome_entryAt?_name {d : Node} {l : Location} {entries : List (EntryName × Node)}
    (h : d.get? l = some (.folder entries)) (name : EntryName) :
    (d.entryAt? (l ++ [name])).isSome = (entries.lookup name).isSome := by
  rw [entryAt?_append, h, Option.bind_some, entryAt?, get?_folder_cons]
  cases entries.lookup name <;> simp

/-! ### Changing one place -/

/-- Below a location or not. -/
theorem prefix_concat_iff {above l : Location} {name : EntryName} :
    above ++ [name] <+: l ↔ ∃ below, l = above ++ name :: below := by
  constructor
  · rintro ⟨below, rfl⟩
    exact ⟨below, List.append_assoc _ _ _⟩
  · rintro ⟨below, rfl⟩
    exact ⟨below, List.append_assoc _ _ _⟩

/-- Entries of one folder with different names are not below each other. -/
theorem not_prefix_of_ne {l rest rest' : Location} {name other : EntryName} (h : name ≠ other) :
    ¬l ++ name :: rest <+: l ++ other :: rest' := by
  rw [List.prefix_append_right_inj, List.cons_prefix_cons]
  exact fun hboth => h hboth.1

theorem not_prefix_of_text_ne {l rest rest' : Location} {name other : String} (h : name ≠ other) :
    ¬l ++ .text name :: rest <+: l ++ .text other :: rest' :=
  not_prefix_of_ne (EntryName.text_ne h)

/-- A location is not below an entry in it. -/
theorem not_prefix_self {l rest : Location} {name : EntryName} :
    ¬l ++ name :: rest <+: l := fun h => by
  have hlength := h.length_le
  rw [List.length_append, List.length_cons] at hlength
  omega

/-- A node that is put where something was is there afterwards, with all that is below it. -/
theorem get?_put_of_there {d : Node} {l : Location} (h : d.entryAt? l ≠ none) (new : Node)
    (below : Location) : (d.put l new).get? (l ++ below) = new.get? below := by
  -- The root has no folder around it, so it is a case of its own.
  rcases List.eq_nil_or_concat l with rfl | ⟨above, name, rfl⟩
  · rw [put, List.nil_append]
  · rw [List.concat_eq_append] at h ⊢
    obtain ⟨entries, hentries⟩ := entryAt?_eq_folder_iff.mp (entryAt?_of_below h)
    rw [List.append_assoc, List.singleton_append]
    exact get?_put_append hentries name new below

theorem get?_put_self_of_there {d : Node} {l : Location} (h : d.entryAt? l ≠ none) (new : Node) :
    (d.put l new).get? l = some new := by
  have hnode := get?_put_of_there h new []
  rwa [List.append_nil, get?_nil] at hnode

theorem entryAt?_put_append {d : Node} {above : Location} (h : d.entryAt? above = some .folder)
    (name : EntryName) (new : Node) (below : Location) :
    (d.put (above ++ [name]) new).entryAt? (above ++ name :: below) = new.entryAt? below := by
  obtain ⟨entries, hentries⟩ := entryAt?_eq_folder_iff.mp h
  rw [entryAt?, get?_put_append hentries]
  rfl

theorem entryAt?_put_self {d : Node} {above : Location} (h : d.entryAt? above = some .folder)
    (name : EntryName) (new : Node) :
    (d.put (above ++ [name]) new).entryAt? (above ++ [name]) = some new.entry := by
  rw [entryAt?_put_append h, entryAt?, get?_nil]
  rfl

theorem entryAt?_remove_append (d : Node) (above : Location) (name : EntryName) (below : Location) :
    (d.remove (above ++ [name])).entryAt? (above ++ name :: below) = none :=
  entryAt?_eq_none_iff.mpr (get?_remove_append d name above below)

theorem entryAt?_remove_eq_none {d : Node} {above l : Location} {name : EntryName}
    (h : above ++ [name] <+: l) : (d.remove (above ++ [name])).entryAt? l = none := by
  obtain ⟨below, rfl⟩ := prefix_concat_iff.mp h
  exact entryAt?_remove_append d above name below

/-- Removing the same from two trees keeps what is the same on both. -/
theorem entryAt?_remove_congr {d e : Node} {l : Location} (h : d.entryAt? l = e.entryAt? l)
    (above : Location) (name : EntryName) :
    (d.remove (above ++ [name])).entryAt? l = (e.remove (above ++ [name])).entryAt? l := by
  by_cases hl : above ++ [name] <+: l
  · rw [entryAt?_remove_eq_none hl, entryAt?_remove_eq_none hl]
  · rw [entryAt?_remove hl, entryAt?_remove hl, h]

/-- A node with nothing below it. -/
def IsLeaf (node : Node) : Prop :=
  ∀ name below, node.entryAt? (name :: below) = none

theorem isLeaf_file (f : File) : (file f).IsLeaf := fun _ _ => rfl

theorem isLeaf_folder_nil : (folder []).IsLeaf := fun _ _ => rfl

/-! ### Agreement -/

/-- Trees with the same entries, but perhaps not at some locations. -/
def AgreeOff (touched : Location → Prop) (d e : Node) : Prop :=
  ∀ l, ¬touched l → d.entryAt? l = e.entryAt? l

namespace AgreeOff

variable {touched : Location → Prop} {c d e : Node}

theorem refl (d : Node) : AgreeOff touched d d := fun _ _ => rfl

theorem trans (hcd : AgreeOff touched c d) (hde : AgreeOff touched d e) : AgreeOff touched c e :=
  fun l hl => (hcd l hl).trans (hde l hl)

theorem weaken {touched' : Location → Prop} (h : AgreeOff touched d e)
    (htouched : ∀ l, touched l → touched' l) : AgreeOff touched' d e :=
  fun l hl => h l fun hl' => hl (htouched l hl')

theorem put (d : Node) (l : Location) (new : Node) : AgreeOff (l <+: ·) (d.put l new) d :=
  fun _ hl => entryAt?_put new hl

theorem remove (d : Node) (l : Location) : AgreeOff (l <+: ·) (d.remove l) d :=
  fun _ hl => entryAt?_remove hl

/-- Where there is no folder before and after, nothing changes below either. -/
theorem of_not_folder {l : Location} (h : AgreeOff (l <+: ·) d e)
    (hd : d.entryAt? l ≠ some .folder) (he : e.entryAt? l ≠ some .folder) :
    AgreeOff (· = l) d e := by
  intro other hother
  -- Below the location neither tree has anything, since neither has a folder there.
  by_cases hbelow : l <+: other
  · obtain ⟨below, rfl⟩ := hbelow
    cases below with
    | nil => exact absurd (List.append_nil l) hother
    | cons name below =>
        rw [entryAt?_below_eq_none name below hd, entryAt?_below_eq_none name below he]
  · exact h other hbelow

theorem remove_file {above : Location} {name : EntryName} {f : File}
    (h : d.entryAt? (above ++ [name]) = some (.file f)) :
    AgreeOff (· = above ++ [name]) (d.remove (above ++ [name])) d := by
  refine (remove d _).of_not_folder ?_ ?_
  · rw [entryAt?_remove_append d above name []]
    exact fun h => by cases h
  · rw [h]
    exact fun h => by cases h

theorem put_file {above : Location} {name : EntryName} (f : File)
    (habove : d.entryAt? above = some .folder) (h : d.entryAt? (above ++ [name]) ≠ some .folder) :
    AgreeOff (· = above ++ [name]) (d.put (above ++ [name]) (.file f)) d := by
  refine (put d _ _).of_not_folder ?_ h
  rw [entryAt?_put_self habove]
  exact fun h => by cases h

end AgreeOff

/-! ### Taking away -/

/-- A tree sheds another if it has all its entries; so the other one came from it by removals. -/
def Sheds (d e : Node) : Prop :=
  ∀ l entry, e.entryAt? l = some entry → d.entryAt? l = some entry

namespace Sheds

variable {c d e : Node}

theorem refl (d : Node) : Sheds d d := fun _ _ h => h

theorem trans (hcd : Sheds c d) (hde : Sheds d e) : Sheds c e :=
  fun l entry h => hcd l entry (hde l entry h)

/-- What is not there does not come back. -/
theorem entryAt?_eq_none (h : Sheds d e) {l : Location} (hl : d.entryAt? l = none) :
    e.entryAt? l = none := by
  cases hentry : e.entryAt? l with
  | none => rfl
  | some entry =>
      rw [h l entry hentry] at hl
      cases hl

theorem remove (d : Node) (above : Location) (name : EntryName) :
    Sheds d (d.remove (above ++ [name])) := by
  intro l entry h
  by_cases hl : above ++ [name] <+: l
  · rw [entryAt?_remove_eq_none hl] at h
    cases h
  · rwa [entryAt?_remove hl] at h

/-- Emptying a folder takes away what is in it. -/
theorem put_empty {l : Location} (h : d.entryAt? l = some .folder) :
    Sheds d (d.put l (.folder [])) := by
  intro other entry hother
  by_cases hl : l <+: other
  · obtain ⟨below, rfl⟩ := hl
    rw [entryAt?, get?_put_of_there (by simp [h])] at hother
    cases below with
    | nil =>
        cases hother
        rwa [List.append_nil]
    | cons first rest => cases hother
  · rwa [entryAt?_put _ hl] at hother

end Sheds

/-! ### Legal trees -/

/-- A tree all of whose names are such as entries can have. -/
def Legal (d : Node) : Prop :=
  ∀ l, d.entryAt? l ≠ none → ∀ name ∈ l, name.IsLegal

namespace Legal

variable {d e : Node}

theorem of_sheds (hd : d.Legal) (h : Sheds d e) : e.Legal := by
  intro l hl name hname
  obtain ⟨entry, hentry⟩ := Option.ne_none_iff_exists'.mp hl
  exact hd l (by rw [h l entry hentry]; exact Option.some_ne_none _) name hname

theorem remove (hd : d.Legal) (above : Location) (name : EntryName) :
    (d.remove (above ++ [name])).Legal :=
  hd.of_sheds (.remove d above name)

theorem subtree (hd : d.Legal) {l : Location} {node : Node} (h : d.get? l = some node) :
    node.Legal := by
  intro below hbelow name hname
  refine hd (l ++ below) ?_ name (List.mem_append_right l hname)
  rwa [entryAt?_append, h, Option.bind_some]

theorem of_isLeaf {node : Node} (h : node.IsLeaf) : node.Legal := by
  intro l hl
  cases l with
  | nil => exact fun _ hname => absurd hname List.not_mem_nil
  | cons name below => exact absurd (h name below) hl

theorem folder {entries : List (EntryName × Node)}
    (h : ∀ child ∈ entries, child.1.IsLegal ∧ child.2.Legal) : (folder entries).Legal := by
  intro l hl
  cases l with
  | nil => exact fun _ hname => absurd hname List.not_mem_nil
  | cons first below =>
      rw [Ne, entryAt?_eq_none_iff, get?_folder_cons] at hl
      cases hchild : entries.lookup first with
      | none =>
          rw [hchild] at hl
          exact absurd rfl hl
      | some child =>
          obtain ⟨before, after, rfl, -⟩ := List.lookup_eq_some_iff.mp hchild
          obtain ⟨hfirst, hlegal⟩ := h (first, child) (by simp)
          rw [hchild, Option.bind_some, ← entryAt?_eq_none_iff] at hl
          intro name hname
          rcases List.mem_cons.mp hname with rfl | hname
          · exact hfirst
          · exact hlegal below hl name hname

theorem put (hd : d.Legal) {above : Location} {name : EntryName} {new : Node}
    (habove : d.entryAt? above = some .folder) (hname : name.IsLegal) (hnew : new.Legal) :
    (d.put (above ++ [name]) new).Legal := by
  intro l hl
  by_cases hbelow : above ++ [name] <+: l
  · obtain ⟨below, rfl⟩ := prefix_concat_iff.mp hbelow
    rw [entryAt?_put_append habove] at hl
    intro other hother
    rcases List.mem_append.mp hother with h | h
    · exact hd above (by rw [habove]; exact Option.some_ne_none _) other h
    · rcases List.mem_cons.mp h with rfl | h
      · exact hname
      · exact hnew below hl other h
  · rw [entryAt?_put new hbelow] at hl
    exact hd l hl

end Legal

end Node

end ReleasePipeline
