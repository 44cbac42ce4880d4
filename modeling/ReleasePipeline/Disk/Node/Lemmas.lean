import ReleasePipeline.Disk.Node

/-!
# ReleasePipeline.Disk.Node.Lemmas

What `put` and `remove` do to the views of a tree. At and below the location, `put` shows the new
node and `remove` shows nothing; at every other location the entry is what it was. The entry and not
the node, since a folder above the location does hold something else afterwards.
-/

namespace ReleasePipeline.Node

/-! ### Entries by name -/

@[simp] theorem lookup_dropEntry_self (entries : List (EntryName × Node)) (name : EntryName) :
    (dropEntry entries name).lookup name = none := by
  simp only [dropEntry, List.lookup_eq_none_iff, List.mem_filter, decide_eq_true_eq]
  rintro entry ⟨-, h⟩
  simpa using fun h' => h h'.symm

theorem lookup_dropEntry_ne (entries : List (EntryName × Node)) {name other : EntryName}
    (h : other ≠ name) : (dropEntry entries name).lookup other = entries.lookup other := by
  induction entries with
  | nil => rfl
  | cons entry rest ih =>
    obtain ⟨key, node⟩ := entry
    rw [dropEntry] at ih ⊢
    by_cases hkey : key = name
    · subst hkey
      have hother : (other == key) = false := by simpa using h
      simp only [ne_eq, not_true_eq_false, decide_false, Bool.false_eq_true, not_false_eq_true,
        List.filter_cons_of_neg, List.lookup_cons, hother, ih]
    · simp only [ne_eq, hkey, not_false_eq_true, decide_true, List.filter_cons_of_pos,
        List.lookup_cons, ih]

@[simp] theorem lookup_bindEntry_self (entries : List (EntryName × Node)) (name : EntryName)
    (node : Node) : (bindEntry entries name node).lookup name = some node := by
  simp [bindEntry]

theorem lookup_bindEntry_ne (entries : List (EntryName × Node)) {name other : EntryName} (node : Node)
    (h : other ≠ name) : (bindEntry entries name node).lookup other = entries.lookup other := by
  have hother : (other == name) = false := by simpa using h
  rw [bindEntry, List.lookup_cons, hother]
  exact lookup_dropEntry_ne entries h

/-! ### Looking up -/

@[simp] theorem get?_nil (node : Node) : node.get? [] = some node := by
  cases node <;> rfl

@[simp] theorem get?_folder_cons (entries : List (EntryName × Node)) (name : EntryName)
    (rest : Location) :
    (folder entries).get? (name :: rest) = (entries.lookup name).bind (·.get? rest) := by
  rw [get?, Node.entries]
  cases entries.lookup name <;> rfl

@[simp] theorem get?_file_cons (f : File) (name : EntryName) (rest : Location) :
    (file f).get? (name :: rest) = none := rfl

theorem get?_append (node : Node) (above below : Location) :
    node.get? (above ++ below) = (node.get? above).bind (·.get? below) := by
  induction above generalizing node with
  | nil => simp
  | cons name rest ih =>
    cases node with
    | file f => simp
    | folder entries =>
      cases h : entries.lookup name with
      | none => simp [h]
      | some child => simp [h, ih]

/-! ### Putting -/

/-- A node that is put into a folder is there afterwards, with all that is below it. -/
theorem get?_put_append {node : Node} {above : Location} {entries : List (EntryName × Node)}
    (h : node.get? above = some (folder entries)) (name : EntryName) (new : Node)
    (below : Location) :
    (node.put (above ++ [name]) new).get? (above ++ name :: below) = new.get? below := by
  induction above generalizing node with
  | nil =>
    simp only [get?_nil, Option.some.injEq] at h
    simp [h, put]
  | cons first rest ih =>
    cases node with
    | file f => simp at h
    | folder own =>
      cases hchild : own.lookup first with
      | none => simp [hchild] at h
      | some child =>
        simp only [get?_folder_cons, hchild, Option.bind_some] at h
        obtain ⟨second, others, hrest⟩ : ∃ second others, rest ++ [name] = second :: others := by
          cases rest <;> simp
        simp only [List.cons_append, hrest, put, hchild, get?_folder_cons, lookup_bindEntry_self,
          Option.bind_some]
        rw [← hrest]
        exact ih h

/-- Putting a node somewhere changes no entry but those there and below. -/
theorem entryAt?_put {node : Node} {location other : Location} (new : Node)
    (h : ¬location <+: other) : (node.put location new).entryAt? other = node.entryAt? other := by
  induction location generalizing node other with
  | nil => simp at h
  | cons name rest ih =>
    cases node with
    | file f => cases rest <;> rfl
    | folder entries =>
      cases other with
      | nil =>
        cases rest with
        | nil => rfl
        | cons second others =>
          rw [put]
          cases entries.lookup name <;> simp [entryAt?, entry]
          simp
      | cons first below =>
        by_cases hfirst : first = name
        · subst hfirst
          have hrest : ¬rest <+: below := fun hp => h (by simpa using hp)
          cases rest with
          | nil => simp at hrest
          | cons second others =>
            cases hchild : entries.lookup first with
            | none => simp [put, hchild]
            | some child => simpa [put, hchild, entryAt?] using ih hrest
        · cases rest with
          | nil => simp [put, entryAt?, lookup_bindEntry_ne entries new hfirst]
          | cons second others =>
            cases hchild : entries.lookup name with
            | none => simp [put, hchild]
            | some child => simp [put, hchild, entryAt?, lookup_bindEntry_ne entries _ hfirst]

/-! ### Removing -/

/-- What is removed is gone with all that is below it. -/
theorem get?_remove_append (node : Node) (name : EntryName) (above below : Location) :
    (node.remove (above ++ [name])).get? (above ++ name :: below) = none := by
  induction above generalizing node with
  | nil => cases node <;> simp [remove]
  | cons first rest ih =>
    cases node with
    | file f =>
      obtain ⟨second, others, hrest⟩ : ∃ second others, rest ++ [name] = second :: others := by
        cases rest <;> simp
      simp [hrest, remove]
    | folder own =>
      obtain ⟨second, others, hrest⟩ : ∃ second others, rest ++ [name] = second :: others := by
        cases rest <;> simp
      cases hchild : own.lookup first with
      | none => simp [hrest, remove, hchild]
      | some child =>
        simp only [List.cons_append, hrest, remove, hchild, get?_folder_cons,
          lookup_bindEntry_self, Option.bind_some]
        rw [← hrest]
        exact ih child

/-- Removing something changes no entry but those there and below. -/
theorem entryAt?_remove {node : Node} {location other : Location} (h : ¬location <+: other) :
    (node.remove location).entryAt? other = node.entryAt? other := by
  induction location generalizing node other with
  | nil => simp at h
  | cons name rest ih =>
    cases node with
    | file f => cases rest <;> rfl
    | folder entries =>
      cases other with
      | nil =>
        cases rest with
        | nil => rfl
        | cons second others =>
          rw [remove]
          cases entries.lookup name <;> simp [entryAt?, entry]
          simp
      | cons first below =>
        by_cases hfirst : first = name
        · subst hfirst
          have hrest : ¬rest <+: below := fun hp => h (by simpa using hp)
          cases rest with
          | nil => simp at hrest
          | cons second others =>
            cases hchild : entries.lookup first with
            | none => simp [remove, hchild]
            | some child => simpa [remove, hchild, entryAt?] using ih hrest
        · cases rest with
          | nil => simp [remove, entryAt?, lookup_dropEntry_ne entries hfirst]
          | cons second others =>
            cases hchild : entries.lookup name with
            | none => simp [remove, hchild]
            | some child => simp [remove, hchild, entryAt?, lookup_bindEntry_ne entries _ hfirst]

end ReleasePipeline.Node
