import ReleasePipeline.Path

/-!
# ReleasePipeline.Proofs.Path.Joining

What joining does to the views of a path. Seen from an absolute folder everything is absolute, and
an absolute path stays as it is. A relative path adds its segments to those of the folder, whether
the folder ends in a slash, is empty, or needs a slash in between (`segments_join`); so a single
name adds exactly itself.

`IsName` is the condition on a text for being the name of an entry: it is not empty, has no slash in
it and is neither of the two dots.
-/

namespace ReleasePipeline

/-- No part holds the separator. -/
theorem Text.not_mem_of_mem_splitOn {separator : Char} {cs part : List Char}
    (h : part ∈ cs.splitOn separator) : separator ∉ part := by
  induction cs generalizing part with
  | nil => simp_all
  | cons c cs ih =>
      obtain ⟨first, parts, hparts⟩ := List.exists_cons_of_ne_nil (List.splitOn_ne_nil separator cs)
      rw [hparts] at ih
      rw [List.splitOn_cons_eq_if_modifyHead, hparts, List.modifyHead_cons] at h
      split at h
      · rcases List.mem_cons.mp h with rfl | h
        · exact List.not_mem_nil
        · exact ih h
      · rename_i hc
        rcases List.mem_cons.mp h with rfl | h
        · rw [List.mem_cons, not_or]
          exact ⟨fun heq => hc (beq_iff_eq.mpr heq.symm), ih List.mem_cons_self⟩
        · exact ih (List.mem_cons_of_mem _ h)

namespace Path

/-! ### Names -/

/-- A text that can stand between two slashes. -/
structure IsSegment (text : String) : Prop where
  ne_nil : text.toList ≠ []
  no_slash : '/' ∉ text.toList

/-- A text that can be the name of an entry. -/
structure IsName (name : String) : Prop where
  ne_nil : name.toList ≠ []
  no_slash : '/' ∉ name.toList
  not_here : name ≠ "."
  not_up : name ≠ ".."

theorem not_isAbsolute_of_no_slash {text : String} (h : '/' ∉ text.toList) :
    (Path.mk text).isAbsolute = false := by
  have hhead : text.toList.head? ≠ some '/' := fun e => h (List.mem_of_mem_head? e)
  simpa [isAbsolute] using hhead

theorem not_endsInSlash_of_no_slash {text : String} (h : '/' ∉ text.toList) :
    (Path.mk text).endsInSlash = false := by
  have hlast : text.toList.getLast? ≠ some '/' := fun e => h (List.mem_of_getLast? e)
  simpa [endsInSlash] using hlast

theorem IsSegment.segments_eq {text : String} (h : IsSegment text) :
    (Path.mk text).segments = [text] := by
  simp [segments, List.splitOn_eq_singleton h.no_slash, h.ne_nil]

theorem isSegment_of_mem_segments {p : Path} {text : String} (h : text ∈ p.segments) :
    IsSegment text := by
  simp only [segments, List.mem_map, List.mem_filter, decide_eq_true_eq] at h
  obtain ⟨part, ⟨hpart, hne⟩, rfl⟩ := h
  constructor
  · simpa using hne
  · simpa using Text.not_mem_of_mem_splitOn hpart

namespace IsName

variable {name : String}

theorem isSegment (h : IsName name) : IsSegment name :=
  ⟨h.ne_nil, h.no_slash⟩

theorem not_isAbsolute (h : IsName name) : (Path.mk name).isAbsolute = false :=
  not_isAbsolute_of_no_slash h.no_slash

theorem segments_eq (h : IsName name) : (Path.mk name).segments = [name] :=
  h.isSegment.segments_eq

end IsName

theorem isName_iff {name : String} :
    IsName name ↔ name.toList ≠ [] ∧ '/' ∉ name.toList ∧ name ≠ "." ∧ name ≠ ".." := by
  constructor
  · rintro ⟨hne, hslash, hhere, hup⟩
    exact ⟨hne, hslash, hhere, hup⟩
  · rintro ⟨hne, hslash, hhere, hup⟩
    exact ⟨hne, hslash, hhere, hup⟩

instance (name : String) : Decidable (IsName name) :=
  decidable_of_decidable_of_iff isName_iff.symm

/-! ### Absolute paths -/

theorem join_of_isAbsolute {folder p : Path} (h : p.isAbsolute = true) : folder / p = p :=
  if_pos h

theorem join_of_not_isAbsolute {folder p : Path} (h : p.isAbsolute = false) :
    folder / p = if folder.text.toList = [] ∨ folder.endsInSlash then ⟨folder.text ++ p.text⟩
      else ⟨folder.text ++ "/" ++ p.text⟩ :=
  if_neg (by simp [h])

theorem isAbsolute_of_text_append {p : Path} {rest : String} (h : p.isAbsolute = true) :
    (Path.mk (p.text ++ rest)).isAbsolute = true := by
  simp only [isAbsolute, beq_iff_eq] at h ⊢
  rw [String.toList_append, List.head?_append, h, Option.some_or]

/-- Everything seen from an absolute folder is absolute. -/
theorem isAbsolute_join {folder : Path} (p : Path) (h : folder.isAbsolute = true) :
    (folder / p).isAbsolute = true := by
  cases hp : p.isAbsolute with
  | true => rwa [join_of_isAbsolute hp]
  | false =>
      rw [join_of_not_isAbsolute hp]
      split
      · exact isAbsolute_of_text_append h
      · rw [String.append_assoc]
        exact isAbsolute_of_text_append h

theorem isAbsolute_join_iff {folder p : Path} :
    (folder / p).isAbsolute = true ↔ p.isAbsolute = true ∨ folder.isAbsolute = true := by
  constructor
  · intro h
    by_cases hp : p.isAbsolute = true
    · exact .inl hp
    · rw [Bool.not_eq_true] at hp
      by_cases hempty : folder.text.toList = []
      · -- Nothing stands in front of the relative path.
        rw [join_of_not_isAbsolute hp, if_pos (.inl hempty)] at h
        simp only [isAbsolute, String.toList_append, hempty, List.nil_append] at h hp
        rw [h] at hp
        cases hp
      · obtain ⟨c, cs, hcs⟩ := List.exists_cons_of_ne_nil hempty
        rw [join_of_not_isAbsolute hp] at h
        refine .inr ?_
        split at h <;> simpa [isAbsolute, hcs] using h
  · rintro (hp | hfolder)
    · rwa [join_of_isAbsolute hp]
    · exact isAbsolute_join p hfolder

/-- What was seen from an absolute folder is seen as it is from any other. -/
theorem join_join {cwd : Path} (folder : Path) (text : String) (h : cwd.isAbsolute = true) :
    folder / (cwd / text).text = cwd / text :=
  join_of_isAbsolute (isAbsolute_join ⟨text⟩ h)

theorem isAbsolute_extend {p : Path} (parts : List Component) (h : p.isAbsolute = true) :
    (p.extend parts).isAbsolute = true := by
  induction parts generalizing p with
  | nil => exact h
  | cons part rest ih => exact ih (isAbsolute_join part.toPath h)

/-- The normal form of a path seen from an absolute folder is absolute. -/
theorem isAbsolute_of_absolute? {folder p q : Path} (hfolder : folder.isAbsolute = true)
    (h : folder.absolute? p = some q) : q.isAbsolute = true := by
  unfold absolute? at h
  split at h
  · cases h
  · have hjoined : (if p.isAbsolute then
          if p.hasDoubleRoot then extend ⟨"//"⟩ (p.componentsFromHere.drop 1)
          else extend ⟨""⟩ p.componentsFromHere
        else extend folder p.componentsFromHere).isAbsolute = true := by
      by_cases hp : p.isAbsolute = true
      · rw [if_pos hp]
        by_cases hdouble : p.hasDoubleRoot = true
        · rw [if_pos hdouble]
          exact isAbsolute_extend _ (by decide)
        · -- The first component puts the root in front of the empty path.
          obtain ⟨rest, hrest⟩ : ∃ rest, p.componentsFromHere = .root :: rest := by
            rw [componentsFromHere, components, if_pos hp]
            exact ⟨_, rfl⟩
          rw [if_neg hdouble, hrest]
          exact isAbsolute_extend rest (by decide)
      · rw [if_neg hp]
        exact isAbsolute_extend _ hfolder
    cases h
    split
    · exact isAbsolute_join _ hjoined
    · exact hjoined

/-- An extension goes to the name that was joined last. -/
theorem addExtension_join {folder : Path} {name : String} (extension : String)
    (h : (Path.mk name).isAbsolute = false)
    (hext : (Path.mk (name ++ "." ++ extension)).isAbsolute = false) :
    (folder / (⟨name⟩ : Path)).addExtension extension =
      folder / (⟨name ++ "." ++ extension⟩ : Path) := by
  rw [join_of_not_isAbsolute h, join_of_not_isAbsolute hext]
  split
  · simp only [addExtension, String.append_assoc]
  · simp only [addExtension, String.append_assoc]

/-! ### Segments -/

/-- The non-empty parts of a text between slashes. -/
def partsOf (cs : List Char) : List String :=
  ((cs.splitOn '/').filter (· ≠ [])).map String.ofList

theorem partsOf_nil : partsOf [] = [] := rfl

theorem partsOf_append_slash (xs ys : List Char) :
    partsOf (xs ++ '/' :: ys) = partsOf xs ++ partsOf ys := by
  rw [partsOf, List.splitOn_append_cons_self, List.filter_append, List.map_append]
  rfl

theorem segments_eq_partsOf (p : Path) : p.segments = partsOf p.text.toList := rfl

/-- A relative path adds its segments to those of the folder. -/
theorem segments_join {folder p : Path} (h : p.isAbsolute = false) :
    (folder / p).segments = folder.segments ++ p.segments := by
  rw [join_of_not_isAbsolute h]
  simp only [segments_eq_partsOf]
  -- Three ways to join: no slash after an empty folder or after a slash, else one slash.
  by_cases hempty : folder.text.toList = []
  · rw [if_pos (.inl hempty), String.toList_append, hempty, partsOf_nil]
    rfl
  by_cases hslash : folder.endsInSlash = true
  · obtain ⟨front, hfront⟩ : ∃ front, folder.text.toList = front ++ ['/'] := by
      rw [endsInSlash, beq_iff_eq, List.getLast?_eq_some_iff] at hslash
      exact hslash
    rw [if_pos (.inr hslash), String.toList_append, hfront, List.append_assoc, List.singleton_append,
      partsOf_append_slash, partsOf_append_slash, partsOf_nil, List.append_nil]
  · rw [if_neg (by simp [hempty, hslash]), String.toList_append, String.toList_append,
      List.append_assoc]
    exact partsOf_append_slash _ _

theorem segments_join_segment {folder : Path} {text : String} (h : IsSegment text) :
    (folder / text).segments = folder.segments ++ [text] :=
  (segments_join (not_isAbsolute_of_no_slash h.no_slash)).trans (by rw [h.segments_eq])

theorem segments_join_name {folder : Path} {name : String} (h : IsName name) :
    (folder / name).segments = folder.segments ++ [name] :=
  segments_join_segment h.isSegment

theorem segments_join_here (folder : Path) :
    (folder / ".").segments = folder.segments ++ ["."] :=
  segments_join (by decide)

/-- Joining puts the text of a path at the end, whatever the path is. -/
theorem exists_text_join (folder p : Path) : ∃ front, (folder / p).text = front ++ p.text := by
  cases hp : p.isAbsolute with
  | true => exact ⟨"", by rw [join_of_isAbsolute hp, String.empty_append]⟩
  | false =>
      rw [join_of_not_isAbsolute hp]
      split
      · exact ⟨_, rfl⟩
      · exact ⟨_, rfl⟩

/-- A text without slashes at the end of a path is at the end of its last segment. -/
theorem exists_segments_of_ending (text : String) {ending : String} (hne : ending.toList ≠ [])
    (hslash : '/' ∉ ending.toList) :
    ∃ front last, (Path.mk (text ++ ending)).segments = front ++ [last ++ ending] := by
  -- What stands behind the last slash of the text goes in front of the ending.
  obtain ⟨front, last, hlast, htext⟩ : ∃ front last, '/' ∉ last ∧
      partsOf (text.toList ++ ending.toList) = front ++ partsOf (last ++ ending.toList) := by
    by_cases hmem : '/' ∈ text.toList
    · obtain ⟨behind, before, hsplit, hbehind⟩ :=
        List.eq_append_cons_of_mem (List.mem_reverse.mpr hmem)
      have htext : text.toList = before.reverse ++ '/' :: behind.reverse := by
        rw [← List.reverse_reverse text.toList, hsplit]
        simp
      refine ⟨partsOf before.reverse, behind.reverse, by simpa using hbehind, ?_⟩
      rw [htext, List.append_assoc, List.cons_append, partsOf_append_slash]
    · exact ⟨[], text.toList, hmem, rfl⟩
  refine ⟨front, String.ofList last, ?_⟩
  have hparts : '/' ∉ last ++ ending.toList := by
    rw [List.mem_append, not_or]
    exact ⟨hlast, hslash⟩
  rw [segments_eq_partsOf, String.toList_append, htext, partsOf, List.splitOn_eq_singleton hparts,
    List.filter_cons_of_pos (by simp [hne])]
  simp [String.ofList_append]

theorem join_name_ne {folder : Path} {name : String} (h : IsName name) : folder / name ≠ folder := by
  intro heq
  have hsegments : (folder / name).segments = folder.segments ++ [name] := segments_join_name h
  rw [heq] at hsegments
  simpa using congrArg List.length hsegments

theorem not_endsInSlash_join_segment {folder : Path} {text : String} (h : IsSegment text) :
    (folder / text).endsInSlash = false := by
  have hlast : ∀ front : String, (Path.mk (front ++ text)).endsInSlash = false := fun front => by
    have htext := not_endsInSlash_of_no_slash h.no_slash
    simp only [endsInSlash, beq_eq_false_iff_ne] at htext ⊢
    rw [String.toList_append, List.getLast?_append]
    cases hl : text.toList.getLast? with
    | none => exact absurd (List.getLast?_eq_none_iff.mp hl) h.ne_nil
    | some c => rwa [hl] at htext
  change (folder / (⟨text⟩ : Path)).endsInSlash = false
  rw [join_of_not_isAbsolute (not_isAbsolute_of_no_slash h.no_slash)]
  split
  · exact hlast _
  · exact hlast _

theorem not_endsInSlash_join_name {folder : Path} {name : String} (h : IsName name) :
    (folder / name).endsInSlash = false :=
  not_endsInSlash_join_segment h.isSegment

/-! ### Components -/

/-- A name is one more component of the path that it is joined to. -/
theorem components_join_name {folder : Path} {name : String} (h : IsName name) :
    (folder / name).components = folder.components ++ [.name name] := by
  have hpart : Component.ofSegment name = .name name := by
    rw [Component.ofSegment, if_neg h.not_here, if_neg h.not_up]
  have habsolute : (folder / name).isAbsolute = folder.isAbsolute := by
    rw [Bool.eq_iff_iff]
    exact isAbsolute_join_iff.trans (by simp [h.not_isAbsolute])
  -- A leading dot stays in front, and the name is none.
  have hhead : ∀ parts : List Component,
      (parts ++ [Component.name name]).head? = some .here ↔ parts.head? = some .here := by
    intro parts
    cases parts <;> simp
  unfold components
  simp only [segments_join_name h, habsolute, List.map_append, List.map_singleton, hpart, hhead,
    List.filter_append]
  split
  · rfl
  · split
    · rfl
    · rfl

end Path

end ReleasePipeline
