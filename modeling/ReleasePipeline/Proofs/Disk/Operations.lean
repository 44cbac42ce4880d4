import ReleasePipeline.Disk.Operations
import ReleasePipeline.Proofs.Disk.Location

/-!
# ReleasePipeline.Proofs.Disk.Operations

What each operation does to a disk, in one lemma each: an equation that gives its outcome in terms
of the entries it looks at, and from it the cases that matter. The two kinds of cases are the change
that a success makes, at a location fixed by the text of the path, and what a fault says about the
disk, which it leaves alone. In particular a fault that says that something is missing means that
the path cannot be located at all.
-/

namespace ReleasePipeline.Disk

variable {d e : Node} {p : Path} {l : Location}

theorem check_bind (test : Node → Except Fault α) (f : α → DiskM β) (d : Node) :
    (check test >>= f) d = match test d with
      | .ok a => f a d
      | .error fault => .error fault d := by
  change EStateM.bind (check test) f d = _
  unfold EStateM.bind check
  cases test d <;> rfl

theorem outcome_bind (op : DiskM α) (f : Except Fault α → DiskM β) (d : Node) :
    (outcome op >>= f) d = match op d with
      | .ok a e => f (.ok a) e
      | .error fault e => f (.error fault) e := by
  change EStateM.bind (outcome op) f d = _
  unfold EStateM.bind outcome
  cases op d <;> rfl

/-! ### Reading -/

theorem openForReading_eq (p : Path) (d : Node) :
    openForReading p d = match locate d p with
      | .ok l => .ok l d
      | .error fault => .error fault d := by
  unfold openForReading check
  dsimp only
  cases locate d p <;> rfl

theorem readAt_eq (l : Location) (d : Node) :
    readAt l d = match d.entryAt? l with
      | some (.file f) => .ok f.content d
      | some .folder => .error .isFolder d
      | none => .error .noEntry d := by
  unfold readAt Node.entryAt?
  cases d.get? l with
  | none => rfl
  | some node => cases node <;> rfl

/-! ### Removing files -/

theorem removeFileAt_eq (l : Location) (slash : Bool) (d : Node) :
    removeFileAt l slash d = match d.entryAt? l with
      | some .folder => .error .isFolder d
      | some (.file _) => if slash then .error .notFolder d else .ok () (d.remove l)
      | none => .error .noEntry d := by
  unfold removeFileAt
  simp only [Node.entryAt?]
  cases h : d.get? l with
  | none => simp
  | some node => cases node <;> simp [Node.entry]

theorem removeFile_eq (p : Path) (d : Node) :
    removeFile p d = match place d p with
      | .error fault => .error fault d
      | .ok found =>
        match found.last with
        | .name name =>
          if isTooLong name then .error .nameTooLong d
          else
            match d.entryAt? (found.folder ++ [.text name]) with
            | some .folder => .error .isFolder d
            | some (.file _) =>
              if found.slash then .error .notFolder d
              else .ok () (d.remove (found.folder ++ [.text name]))
            | none => .error .noEntry d
        | _ => .error .isFolder d := by
  unfold removeFile
  rw [check_bind]
  cases place d p with
  | error fault => rfl
  | ok found =>
      obtain ⟨folder, last, slash⟩ := found
      cases last with
      | name name =>
          dsimp only
          cases isTooLong name with
          | true => rfl
          | false => exact removeFileAt_eq _ _ _
      | _ => rfl

theorem not_locate_of_place_error {fault : Fault} (h : place d p = .error fault) (l : Location) :
    locate d p ≠ .ok l := by
  intro hlocate
  obtain ⟨found, hfound⟩ := exists_place_of_locate hlocate
  rw [h] at hfound
  cases hfound

theorem removeFile_cases (p : Path) (d : Node) :
    (∃ folder name f, place d p = .ok ⟨folder, .name name, false⟩ ∧
      d.entryAt? (folder ++ [.text name]) = some (.file f) ∧
        removeFile p d = .ok () (d.remove (folder ++ [.text name]))) ∨
    ∃ fault, removeFile p d = .error fault d ∧
      (fault.saysMissing = true → ∀ l, locate d p ≠ .ok l) := by
  rw [removeFile_eq]
  cases hplace : place d p with
  | error fault => exact .inr ⟨fault, rfl, fun _ => not_locate_of_place_error hplace⟩
  | ok found =>
      obtain ⟨folder, last, slash⟩ := found
      cases last with
      | name name =>
          dsimp only
          cases isTooLong name with
          | true => exact .inr ⟨_, rfl, nofun⟩
          | false =>
              cases hentry : d.entryAt? (folder ++ [.text name]) with
              | none =>
                  exact .inr ⟨_, rfl, fun _ => locate_ne_ok_of_entryAt?_eq_none hplace hentry⟩
              | some entry =>
                  cases entry with
                  | folder => exact .inr ⟨_, rfl, nofun⟩
                  | file f =>
                      cases slash with
                      | true => exact .inr ⟨_, rfl, nofun⟩
                      | false => exact .inl ⟨folder, name, f, rfl, hentry, rfl⟩
      | _ => exact .inr ⟨_, rfl, nofun⟩

theorem removeFile_ok (h : removeFile p d = .ok () e) :
    (∃ f, d.entryAt? p.location = some (.file f)) ∧ e.entryAt? p.location = none ∧
      Node.AgreeOff (· = p.location) e d ∧ Node.Sheds d e ∧ ∀ l, locate e p ≠ .ok l := by
  rcases removeFile_cases p d with ⟨folder, name, f, hplace, hfile, hrun⟩ | ⟨fault, hrun, -⟩
  · rw [h] at hrun
    obtain ⟨-, rfl⟩ := EStateM.Result.ok.inj hrun
    have hgone := Node.entryAt?_remove_append d folder name []
    rw [location_of_place hplace]
    exact ⟨⟨f, hfile⟩, hgone, .remove_file hfile, .remove d folder name,
      locate_ne_ok_of_entryAt?_eq_none hplace hgone⟩
  · rw [h] at hrun
    cases hrun

theorem removeFile_error {fault : Fault} (h : removeFile p d = .error fault e) :
    e = d ∧ (fault.saysMissing = true → ∀ l, locate d p ≠ .ok l) := by
  rcases removeFile_cases p d with ⟨_, _, _, -, -, hrun⟩ | ⟨cause, hrun, habsent⟩
  · rw [h] at hrun
    cases hrun
  · rw [h] at hrun
    cases hrun
    exact ⟨rfl, habsent⟩

theorem removeListed_raw_eq (folder : Path) (name : RawName) (d : Node) :
    removeListed (.raw folder name) d = match folderAround d folder name with
      | .error fault => .error fault d
      | .ok around =>
        if isTooLong (.raw name) then .error .nameTooLong d
        else
          match d.entryAt? (around ++ [.raw name]) with
          | some .folder => .error .isFolder d
          | some (.file _) => .ok () (d.remove (around ++ [.raw name]))
          | none => .error .noEntry d := by
  rw [removeListed, check_bind]
  cases folderAround d folder name with
  | error fault => rfl
  | ok around =>
      dsimp only
      cases isTooLong (.raw name) with
      | true => rfl
      | false => exact removeFileAt_eq _ _ _

/-- The folder around an entry is the one that its path leads to. -/
theorem location_of_folderAround {folder : Path} {name : RawName}
    (h : folderAround d folder name = .ok l) : l = folder.location := by
  unfold folderAround at h
  cases haccept : acceptEntry (.raw folder name) with
  | error fault =>
      rw [haccept] at h
      cases h
  | ok u =>
      rw [haccept] at h
      exact walk_ok (walkToFolder_eq_ok_iff.mp h).1

/-- A listed entry is removed if it is a file, or nothing changes. -/
theorem removeListed_cases {folder : Path} {name : EntryName} (hname : name.IsLegal) (d : Node) :
    (∃ f, d.entryAt? (folder.location ++ [name]) = some (.file f) ∧
      removeListed (folder / name) d = .ok () (d.remove (folder.location ++ [name]))) ∨
    ∃ fault, removeListed (folder / name) d = .error fault d := by
  cases name with
  | text name =>
      rcases removeFile_cases (folder / name) d with ⟨around, last, f, hplace, hfile, hrun⟩ |
        ⟨fault, hrun, -⟩
      · rw [← location_of_place hplace, Path.location_join_name hname] at hfile hrun
        exact .inl ⟨f, hfile, hrun⟩
      · exact .inr ⟨fault, hrun⟩
  | raw name =>
      change (∃ f, _ ∧ removeListed (.raw folder name) d = _) ∨
        ∃ fault, removeListed (.raw folder name) d = _
      rw [removeListed_raw_eq]
      cases haround : folderAround d folder name with
      | error fault => exact .inr ⟨fault, rfl⟩
      | ok around =>
          obtain rfl := location_of_folderAround haround
          dsimp only
          cases isTooLong (.raw name) with
          | true => exact .inr ⟨_, rfl⟩
          | false =>
              cases hentry : d.entryAt? (folder.location ++ [.raw name]) with
              | none => exact .inr ⟨_, rfl⟩
              | some entry =>
                  cases entry with
                  | folder => exact .inr ⟨_, rfl⟩
                  | file f => exact .inl ⟨f, rfl, rfl⟩

/-! ### Making and removing folders -/

theorem makeFolder_eq (p : Path) (d : Node) :
    makeFolder p d = match place d p with
      | .error fault => .error fault d
      | .ok found =>
        match found.last with
        | .name name =>
          if isTooLong name then .error .nameTooLong d
          else if (d.entryAt? (found.folder ++ [.text name])).isSome then .error .occupied d
          else .ok () (d.put (found.folder ++ [.text name]) (.folder []))
        | _ => .error .occupied d := by
  unfold makeFolder
  rw [check_bind]
  cases place d p with
  | error fault => rfl
  | ok found =>
      obtain ⟨folder, last, slash⟩ := found
      cases last with
      | name name =>
          dsimp only [makeFolderAt]
          rw [Node.entryAt?, Option.isSome_map]
      | _ => rfl

theorem makeFolder_cases (p : Path) (d : Node) :
    (∃ folder name slash, place d p = .ok ⟨folder, .name name, slash⟩ ∧
      d.entryAt? (folder ++ [.text name]) = none ∧
        makeFolder p d = .ok () (d.put (folder ++ [.text name]) (.folder []))) ∨
    ∃ fault, makeFolder p d = .error fault d := by
  rw [makeFolder_eq]
  cases place d p with
  | error fault => exact .inr ⟨fault, rfl⟩
  | ok found =>
      obtain ⟨folder, last, slash⟩ := found
      cases last with
      | name name =>
          dsimp only
          cases isTooLong name with
          | true => exact .inr ⟨_, rfl⟩
          | false =>
              cases hentry : d.entryAt? (folder ++ [.text name]) with
              | none => exact .inl ⟨folder, name, slash, rfl, hentry, rfl⟩
              | some entry => exact .inr ⟨_, rfl⟩
      | _ => exact .inr ⟨_, rfl⟩

theorem removeFolder_eq (p : Path) (d : Node) :
    removeFolder p d = match place d p with
      | .error fault => .error fault d
      | .ok found =>
        match found.last with
        | .root => .error .busy d
        | .here => .error .invalidArgument d
        | .up => .error .notEmpty d
        | .name name =>
          if isTooLong name then .error .nameTooLong d
          else
            match d.get? (found.folder ++ [.text name]) with
            | some (.folder []) => .ok () (d.remove (found.folder ++ [.text name]))
            | some (.folder (_ :: _)) => .error .notEmpty d
            | some (.file _) => .error .notFolder d
            | none => .error .noEntry d := by
  unfold removeFolder
  rw [check_bind]
  cases place d p with
  | error fault => rfl
  | ok found =>
      obtain ⟨folder, last, slash⟩ := found
      cases last with
      | name name =>
          dsimp only
          cases isTooLong name <;> rfl
      | _ => rfl

theorem removeFolder_cases (p : Path) (d : Node) :
    (∃ folder name slash, place d p = .ok ⟨folder, .name name, slash⟩ ∧
      removeFolder p d = .ok () (d.remove (folder ++ [.text name]))) ∨
    ∃ fault, removeFolder p d = .error fault d ∧
      (fault.saysMissing = true → ∀ l, locate d p ≠ .ok l) := by
  rw [removeFolder_eq]
  cases hplace : place d p with
  | error fault => exact .inr ⟨fault, rfl, fun _ => not_locate_of_place_error hplace⟩
  | ok found =>
      obtain ⟨folder, last, slash⟩ := found
      cases last with
      | name name =>
          dsimp only
          cases isTooLong name with
          | true => exact .inr ⟨_, rfl, nofun⟩
          | false =>
              cases hnode : d.get? (folder ++ [.text name]) with
              | none =>
                  exact .inr ⟨_, rfl, fun _ => locate_ne_ok_of_entryAt?_eq_none hplace
                    (Node.entryAt?_eq_none_iff.mpr hnode)⟩
              | some node =>
                  cases node with
                  | file f => exact .inr ⟨_, rfl, nofun⟩
                  | folder entries =>
                      cases entries with
                      | nil => exact .inl ⟨folder, name, slash, rfl, rfl⟩
                      | cons _ _ => exact .inr ⟨_, rfl, nofun⟩
      | _ => exact .inr ⟨_, rfl, nofun⟩

theorem removeTree_eq (p : Path) (d : Node) :
    removeTree p d = match locate d p with
      | .error fault => .error fault d
      | .ok l =>
        match d.entryAt? l with
        | some .folder =>
          match removeFolder p (d.put l (.folder [])) with
          | .ok () e => .ok () e
          | .error fault e => if fault.saysMissing then .ok () e else .error fault e
        | _ => .error .notFolder d := by
  unfold removeTree
  rw [check_bind]
  cases locate d p with
  | error fault => rfl
  | ok l =>
      dsimp only
      rw [check_bind]
      dsimp only
      cases hfolder : d.isFolderAt l with
      | true =>
          rw [Node.isFolderAt_iff.mp hfolder, if_pos rfl]
          dsimp only
          refine (outcome_bind (removeFolder p) _ (d.put l (.folder []))).trans ?_
          cases removeFolder p (d.put l (.folder [])) with
          | ok u e => rfl
          | error fault e =>
              dsimp only
              cases fault.saysMissing <;> rfl
      | false =>
          have hentry : d.entryAt? l ≠ some .folder := fun h => by
            rw [Node.isFolderAt_iff.mpr h] at hfolder
            cases hfolder
          rw [if_neg nofun]
          cases h : d.entryAt? l with
          | none => rfl
          | some entry =>
              cases entry with
              | file f => rfl
              | folder => exact absurd h hentry

/-- Removing a tree takes away nothing but what is there and below, and only if it is a folder.
After a success the path cannot be located; a fault that says that something is missing comes before
anything is removed, and so does one about a file. -/
theorem removeTree_cases (p : Path) (d : Node) :
    (∃ e, removeTree p d = .ok () e ∧ Node.AgreeOff (p.location <+: ·) e d ∧ Node.Sheds d e ∧
      d.entryAt? p.location = some .folder ∧ ∀ l, locate e p ≠ .ok l) ∨
    ∃ fault e, removeTree p d = .error fault e ∧ Node.AgreeOff (p.location <+: ·) e d ∧
      Node.Sheds d e ∧ (fault.saysMissing = true → e = d) ∧
        ∀ f, d.entryAt? p.location = some (.file f) → e = d := by
  rw [removeTree_eq]
  cases hlocate : locate d p with
  | error fault =>
      exact .inr ⟨fault, d, rfl, .refl d, .refl d, fun _ => rfl, fun _ _ => rfl⟩
  | ok l =>
      dsimp only
      cases hentry : d.entryAt? l with
      | none => exact .inr ⟨_, d, rfl, .refl d, .refl d, nofun, fun _ _ => rfl⟩
      | some entry =>
          cases entry with
          | file f => exact .inr ⟨_, d, rfl, .refl d, .refl d, nofun, fun _ _ => rfl⟩
          | folder =>
              obtain rfl := location_of_locate hlocate
              have hagree : Node.AgreeOff (p.location <+: ·) (d.put p.location (.folder [])) d :=
                .put d p.location _
              have hsheds : Node.Sheds d (d.put p.location (.folder [])) := .put_empty hentry
              dsimp only
              -- Emptying comes before removing the folder itself, so the fault that is passed over
              -- is one of a tree that has lost entries already.
              rcases removeFolder_cases p (d.put p.location (.folder [])) with
                ⟨folder, name, slash, hplace, hremove⟩ | ⟨fault, hremove, hmissing⟩
              · rw [hremove]
                have hlocation := location_of_place hplace
                refine .inl ⟨_, rfl, .trans ?_ hagree, hsheds.trans (.remove _ folder name), hentry,
                  locate_ne_ok_of_entryAt?_eq_none hplace ?_⟩
                · rw [← hlocation]
                  exact .remove _ _
                · exact Node.entryAt?_remove_append _ folder name []
              · rw [hremove]
                dsimp only
                cases hcalled : fault.saysMissing with
                | true => exact .inl ⟨_, rfl, hagree, hsheds, hentry, hmissing hcalled⟩
                | false =>
                    refine .inr ⟨fault, _, rfl, hagree, hsheds, fun h => absurd h (by simp [hcalled]),
                      fun f hf => absurd (hentry.symm.trans hf) nofun⟩

/-! ### Writing files -/

theorem openForWriting_eq (p : Path) (executable : Bool) (d : Node) :
    openForWriting p executable d = match place d p with
      | .error fault => .error fault d
      | .ok found =>
        match found.last with
        | .name name =>
          if found.slash then .error .isFolder d
          else if isTooLong name then .error .nameTooLong d
          else
            match d.entryAt? (found.folder ++ [.text name]) with
            | some .folder => .error .isFolder d
            | some (.file _) => .ok (found.folder ++ [.text name]) d
            | none => .ok (found.folder ++ [.text name])
                (d.put (found.folder ++ [.text name]) (.file { content := [], executable }))
        | _ => .error .isFolder d := by
  unfold openForWriting
  rw [check_bind]
  cases place d p with
  | error fault => rfl
  | ok found =>
      obtain ⟨folder, last, slash⟩ := found
      cases last with
      | name name =>
          dsimp only
          cases slash with
          | true => rfl
          | false =>
              cases isTooLong name with
              | true => rfl
              | false =>
                  simp only [Node.entryAt?]
                  cases h : d.get? (folder ++ [.text name]) with
                  | none => simp [h]
                  | some node => cases node <;> simp [h, Node.entry]
      | _ => rfl

/-- A disk on which a location holds a file now, and nothing else has changed. -/
structure Wrote (d : Node) (l : Location) (f : File) (e : Node) : Prop where
  entryAt? : e.entryAt? l = some (.file f)
  agree : Node.AgreeOff (· = l) e d

namespace Wrote

variable {folder : Location} {name : EntryName} {f g : File}

theorem put (f : File) (hfolder : d.entryAt? folder = some .folder)
    (hentry : d.entryAt? (folder ++ [name]) ≠ some .folder) :
    Wrote d (folder ++ [name]) f (d.put (folder ++ [name]) (.file f)) :=
  ⟨Node.entryAt?_put_self hfolder name (.file f), .put_file f hfolder hentry⟩

theorem trans {c : Node} (hd : Wrote c l g d) (he : Wrote d l f e) : Wrote c l f e :=
  ⟨he.entryAt?, he.agree.trans hd.agree⟩

/-- Writing over what was just written. -/
theorem put_again (hfolder : d.entryAt? folder = some .folder)
    (h : Wrote d (folder ++ [name]) g e) :
    Wrote e (folder ++ [name]) f (e.put (folder ++ [name]) (.file f)) := by
  refine .put f ?_ ?_
  · rw [h.agree folder (by simp)]
    exact hfolder
  · rw [h.entryAt?]
    exact nofun

theorem legal (h : Wrote d (folder ++ [name]) f e) (hd : d.Legal)
    (hfolder : d.entryAt? folder = some .folder) (hname : name.IsLegal) : e.Legal := by
  intro l hl
  by_cases heq : l = folder ++ [name]
  · intro other hother
    rw [heq] at hother
    rcases List.mem_append.mp hother with hmem | hmem
    · exact hd folder (by rw [hfolder]; exact Option.some_ne_none _) other hmem
    · rw [List.mem_singleton.mp hmem]
      exact hname
  · rw [h.agree l heq] at hl
    exact hd l hl

end Wrote

theorem openForWriting_cases (p : Path) (executable : Bool) (d : Node) :
    (∃ folder name f e, place d p = .ok ⟨folder, .name name, false⟩ ∧
      d.entryAt? (folder ++ [.text name]) ≠ some .folder ∧
        openForWriting p executable d = .ok (folder ++ [.text name]) e ∧
          Wrote d (folder ++ [.text name]) f e) ∨
    ∃ fault, openForWriting p executable d = .error fault d := by
  rw [openForWriting_eq]
  cases hplace : place d p with
  | error fault => exact .inr ⟨fault, rfl⟩
  | ok found =>
      obtain ⟨folder, last, slash⟩ := found
      cases last with
      | name name =>
          dsimp only
          cases slash with
          | true => exact .inr ⟨_, rfl⟩
          | false =>
              cases isTooLong name with
              | true => exact .inr ⟨_, rfl⟩
              | false =>
                  cases hentry : d.entryAt? (folder ++ [.text name]) with
                  | none =>
                      have hno : d.entryAt? (folder ++ [.text name]) ≠ some .folder := by
                        rw [hentry]
                        exact nofun
                      obtain ⟨-, -, -, -, -, hfolder⟩ := place_ok hplace
                      exact .inl ⟨folder, name, _, _, rfl, hno, rfl, .put _ hfolder hno⟩
                  | some entry =>
                      cases entry with
                      | folder => exact .inr ⟨_, rfl⟩
                      | file f =>
                          have hno : d.entryAt? (folder ++ [.text name]) ≠ some .folder := by
                            rw [hentry]
                            exact nofun
                          exact .inl ⟨folder, name, f, d, rfl, hno, rfl, hentry, .refl d⟩
      | _ => exact .inr ⟨_, rfl⟩

theorem changeFile_eq (l : Location) (change : File → File) (d : Node) :
    changeFile l change d = match d.entryAt? l with
      | some (.file f) => .ok () (d.put l (.file (change f)))
      | _ => .ok () d := by
  unfold changeFile Node.entryAt?
  cases d.get? l with
  | none => rfl
  | some node => cases node <;> rfl

theorem copyFile_eq (source target : Path) (d : Node) :
    copyFile source target d = match locate d source with
      | .error fault => .error fault d
      | .ok origin =>
        match d.entryAt? origin with
        | some (.file f) =>
          match openForWriting target f.executable d with
          | .error fault e => .error fault e
          | .ok goal e =>
            changeFile goal
              (fun _ => if origin = goal then { content := [], executable := f.executable } else f) e
        | _ => .error .notRegular d := by
  unfold copyFile openForReading
  rw [check_bind]
  cases locate d source with
  | error fault => rfl
  | ok origin =>
      dsimp only
      rw [check_bind]
      simp only [Node.entryAt?]
      cases hnode : d.get? origin with
      | none => simp
      | some node =>
          cases node with
          | folder entries => simp [Node.entry]
          | file f =>
              simp only [Option.map_some, Node.entry]
              change EStateM.bind (openForWriting target f.executable) _ d = _
              unfold EStateM.bind
              cases openForWriting target f.executable d <;> rfl

/-- A copy lands at the target's location and is the whole change. A file that is copied onto itself
is lost. -/
theorem copyFile_cases (source target : Path) (d : Node) :
    (∃ origin f folder name e, locate d source = .ok origin ∧
      d.entryAt? origin = some (.file f) ∧ place d target = .ok ⟨folder, .name name, false⟩ ∧
      d.entryAt? (folder ++ [.text name]) ≠ some .folder ∧ copyFile source target d = .ok () e ∧
      Wrote d (folder ++ [.text name])
        (if origin = folder ++ [.text name] then { content := [], executable := f.executable } else f)
        e) ∨
    ∃ fault, copyFile source target d = .error fault d := by
  rw [copyFile_eq]
  cases hlocate : locate d source with
  | error fault => exact .inr ⟨fault, rfl⟩
  | ok origin =>
      dsimp only
      cases horigin : d.entryAt? origin with
      | none => exact .inr ⟨_, rfl⟩
      | some entry =>
          cases entry with
          | folder => exact .inr ⟨_, rfl⟩
          | file f =>
              dsimp only
              rcases openForWriting_cases target f.executable d with
                ⟨folder, name, g, e, hplace, hentry, hopen, hwrote⟩ | ⟨fault, hopen⟩
              · obtain ⟨-, -, -, -, -, hfolder⟩ := place_ok hplace
                rw [hopen]
                dsimp only
                -- What was opened is a file now, so the change goes through.
                rw [changeFile_eq, hwrote.entryAt?]
                exact .inl ⟨origin, f, folder, name, _, rfl, horigin, hplace, hentry, rfl,
                  hwrote.trans (.put_again hfolder hwrote)⟩
              · rw [hopen]
                exact .inr ⟨fault, rfl⟩

theorem copyFile_ok {source target : Path} (h : copyFile source target d = .ok () e) :
    ∃ f, FileAt d source f ∧ d.entryAt? target.location ≠ some .folder ∧
      Node.AgreeOff (· = target.location) e d ∧ (d.Legal → e.Legal) ∧
        (source.location ≠ target.location → e.entryAt? target.location = some (.file f)) := by
  rcases copyFile_cases source target d with
    ⟨origin, f, folder, name, e', hlocate, hfile, hplace, hno, hrun, hwrote⟩ | ⟨fault, hrun⟩
  · rw [h] at hrun
    obtain ⟨-, rfl⟩ := EStateM.Result.ok.inj hrun
    obtain rfl := location_of_locate hlocate
    obtain ⟨-, -, -, hname, -, hfolder⟩ := place_ok hplace
    rw [location_of_place hplace]
    refine ⟨f, ⟨hlocate, hfile⟩, hno, hwrote.agree, fun hd => hwrote.legal hd hfolder hname, ?_⟩
    intro hapart
    rw [hwrote.entryAt?, if_neg hapart]
  · rw [h] at hrun
    cases hrun

theorem copyFile_error {source target : Path} {fault : Fault}
    (h : copyFile source target d = .error fault e) : e = d := by
  rcases copyFile_cases source target d with ⟨_, _, _, _, _, -, -, -, -, hrun, -⟩ | ⟨cause, hrun⟩
  · rw [h] at hrun
    cases hrun
  · rw [h] at hrun
    cases hrun
    rfl

/-! ### Renaming -/

theorem rename_eq (source target : Path) (d : Node) :
    rename source target d =
      if hasNul source || hasNul target then .error .nulInPath d
      else
        match place d source with
        | .error fault => .error fault d
        | .ok origin =>
          match place d target with
          | .error fault => .error fault d
          | .ok goal =>
            match origin.last, goal.last with
            | .name oldName, .name newName =>
              if isTooLong oldName then .error .nameTooLong d
              else
                let old := origin.folder ++ [.text oldName]
                let new := goal.folder ++ [.text newName]
                match d.get? old with
                | none => .error .noEntry d
                | some moved =>
                  if isTooLong newName then .error .nameTooLong d
                  else if !moved.isFolder && (origin.slash || goal.slash) then .error .notFolder d
                  else if old = new then .ok () d
                  else if old.isPrefixOf new then .error .invalidArgument d
                  else if new.isPrefixOf old then .error .notEmpty d
                  else
                    match mayReplace moved (d.get? new) with
                    | .ok () => .ok () ((d.remove old).put new moved)
                    | .error fault => .error fault d
            | _, _ => .error .busy d := by
  unfold rename
  cases hasNul source || hasNul target with
  | true => rfl
  | false =>
      rw [if_neg nofun, if_neg nofun]
      dsimp only
      rw [check_bind]
      cases place d source with
      | error fault => rfl
      | ok origin =>
          dsimp only
          rw [check_bind]
          cases place d target with
          | error fault => rfl
          | ok goal =>
              obtain ⟨oldFolder, oldLast, oldSlash⟩ := origin
              obtain ⟨newFolder, newLast, newSlash⟩ := goal
              cases oldLast with
              | name oldName =>
                  cases newLast with
                  | name newName =>
                      dsimp only
                      cases isTooLong oldName <;> rfl
                  | _ => rfl
              | _ => rfl

/-- A disk on which everything at and below one location is at another now. -/
structure Moved (d : Node) (old new : Location) (e : Node) : Prop where
  gone : ∀ l, old <+: l → e.entryAt? l = none
  arrived : ∀ below, e.entryAt? (new ++ below) = d.entryAt? (old ++ below)
  agree : Node.AgreeOff (fun l => old <+: l ∨ new <+: l) e d
  legal : d.Legal → e.Legal

theorem Moved.of_put_remove {above folder : Location} {oldName newName : EntryName} {moved : Node}
    (hnode : d.get? (above ++ [oldName]) = some moved) (hfolder : d.entryAt? folder = some .folder)
    (hname : newName.IsLegal)
    (hbelow : ¬above ++ [oldName] <+: folder ++ [newName])
    (habove : ¬folder ++ [newName] <+: above ++ [oldName]) :
    Moved d (above ++ [oldName]) (folder ++ [newName])
      ((d.remove (above ++ [oldName])).put (folder ++ [newName]) moved) := by
  have hfolder' : (d.remove (above ++ [oldName])).entryAt? folder = some .folder := by
    rw [Node.entryAt?_remove fun h => hbelow (h.trans (List.prefix_append _ _))]
    exact hfolder
  refine ⟨?_, ?_, ?_,
    fun hd => (hd.remove above oldName).put hfolder' hname (hd.subtree hnode)⟩
  · intro l hl
    -- Neither location is below the other, so nothing is below both.
    have hnew : ¬folder ++ [newName] <+: l := fun h => by
      rcases List.prefix_or_prefix_of_prefix hl h with h | h
      · exact hbelow h
      · exact habove h
    rw [Node.entryAt?_put moved hnew, Node.entryAt?_remove_eq_none hl]
  · intro below
    rw [List.append_assoc, List.singleton_append, Node.entryAt?_put_append hfolder',
      Node.entryAt?_append, hnode]
    rfl
  · intro l hl
    rw [Node.entryAt?_put moved fun h => hl (.inr h), Node.entryAt?_remove fun h => hl (.inl h)]

theorem rename_cases (source target : Path) (d : Node) :
    (∃ above oldName oldSlash folder newName newSlash e,
      place d source = .ok ⟨above, .name oldName, oldSlash⟩ ∧
      place d target = .ok ⟨folder, .name newName, newSlash⟩ ∧
      d.entryAt? (above ++ [.text oldName]) ≠ none ∧ rename source target d = .ok () e ∧
      (above ++ [.text oldName] = folder ++ [.text newName] ∧ e = d ∨
        Moved d (above ++ [.text oldName]) (folder ++ [.text newName]) e)) ∨
    ∃ fault, rename source target d = .error fault d := by
  rw [rename_eq]
  split
  · exact .inr ⟨_, rfl⟩
  cases hsource : place d source with
  | error fault => exact .inr ⟨fault, rfl⟩
  | ok origin =>
      dsimp only
      cases htarget : place d target with
      | error fault => exact .inr ⟨fault, rfl⟩
      | ok goal =>
          obtain ⟨above, oldLast, oldSlash⟩ := origin
          obtain ⟨folder, newLast, newSlash⟩ := goal
          dsimp only
          split
          · rename_i oldName newName
            split
            · exact .inr ⟨_, rfl⟩
            cases hnode : d.get? (above ++ [.text oldName]) with
            | none => exact .inr ⟨_, rfl⟩
            | some moved =>
                have hthere : d.entryAt? (above ++ [.text oldName]) ≠ none := by
                  rw [Ne, Node.entryAt?_eq_none_iff, hnode]
                  exact nofun
                obtain ⟨-, -, -, hname, -, hfolder⟩ := place_ok htarget
                dsimp only
                split
                · exact .inr ⟨_, rfl⟩
                split
                · exact .inr ⟨_, rfl⟩
                split
                · rename_i hsame
                  exact .inl ⟨above, oldName, oldSlash, folder, newName, newSlash, d, rfl, rfl,
                    hthere, rfl, .inl ⟨hsame, rfl⟩⟩
                split
                · exact .inr ⟨_, rfl⟩
                rename_i hbelow
                split
                · exact .inr ⟨_, rfl⟩
                rename_i habove
                rw [List.isPrefixOf_iff_prefix] at hbelow habove
                split
                · exact .inl ⟨above, oldName, oldSlash, folder, newName, newSlash, _, rfl, rfl,
                    hthere, rfl, .inr (.of_put_remove hnode hfolder hname hbelow habove)⟩
                · exact .inr ⟨_, rfl⟩
          · exact .inr ⟨_, rfl⟩

/-! ### Listing -/

theorem mem_names {entries : List (EntryName × Node)} {name : EntryName} :
    name ∈ (Node.folder entries).names ↔ (entries.lookup name).isSome = true := by
  simp only [Node.names, Node.entries, List.mem_mergeSort, List.mem_eraseDups, List.mem_map]
  constructor
  · rintro ⟨entry, hentry, rfl⟩
    rw [List.lookup_isSome_iff]
    exact ⟨entry, hentry, by simp⟩
  · intro h
    rw [List.lookup_isSome_iff] at h
    obtain ⟨entry, hentry, heq⟩ := h
    exact ⟨entry, hentry, (by simpa using heq : name = entry.1).symm⟩

theorem nodup_eraseDups [BEq α] [LawfulBEq α] : ∀ xs : List α, xs.eraseDups.Nodup
  | [] => .nil
  | x :: xs => by
      rw [List.eraseDups_cons, List.nodup_cons]
      refine ⟨?_, nodup_eraseDups _⟩
      intro h
      simp [List.mem_eraseDups] at h
termination_by xs => xs.length
decreasing_by exact Nat.lt_succ_of_le (List.length_filter_le _ _)

theorem pairwise_names (node : Node) : node.names.Pairwise (·.bytes ≤ ·.bytes) := by
  have htrans : ∀ a b c : EntryName, decide (a.bytes ≤ b.bytes) = true →
      decide (b.bytes ≤ c.bytes) = true → decide (a.bytes ≤ c.bytes) = true := fun a b c hab hbc =>
    decide_eq_true (List.le_trans (of_decide_eq_true hab) (of_decide_eq_true hbc))
  have htotal : ∀ a b : EntryName,
      (decide (a.bytes ≤ b.bytes) || decide (b.bytes ≤ a.bytes)) = true := fun a b => by
    rcases List.le_total a.bytes b.bytes with h | h <;> simp [h]
  exact (List.pairwise_mergeSort htrans htotal _).imp of_decide_eq_true

/-- Folders with entries of the same names are listed alike, whatever order they keep them in. -/
theorem names_congr {entries entries' : List (EntryName × Node)}
    (h : ∀ name, (entries.lookup name).isSome = (entries'.lookup name).isSome) :
    (Node.folder entries).names = (Node.folder entries').names := by
  have hnodup : ∀ node : Node, node.names.Nodup := fun node =>
    (List.mergeSort_perm _ _).nodup_iff.mpr (nodup_eraseDups _)
  -- Two sorted lists with the same members, each once, are equal.
  have hperm : (Node.folder entries).names.Perm (Node.folder entries').names := by
    refine (List.perm_ext_iff_of_nodup (hnodup _) (hnodup _)).mpr fun name => ?_
    rw [mem_names, mem_names, h]
  exact hperm.eq_of_pairwise (fun a b _ _ hab hba =>
    EntryName.bytes_inj.mp (List.le_antisymm hab hba))
    (pairwise_names _) (pairwise_names _)

theorem list_cases (order : ListingOrder) (p : Path) (d : Node) :
    (∃ l names, locate d p = .ok l ∧ d.entryAt? l = some .folder ∧ list order p d = .ok names d ∧
      ∀ name, name ∈ names ↔ d.entryAt? (l ++ [name]) ≠ none) ∨
    ∃ fault, list order p d = .error fault d := by
  unfold list
  cases hlocate : locate d p with
  | error fault => exact .inr ⟨fault, rfl⟩
  | ok l =>
      dsimp only
      cases hnode : d.get? l with
      | none => exact .inr ⟨_, rfl⟩
      | some node =>
          cases node with
          | file f => exact .inr ⟨_, rfl⟩
          | folder entries =>
              refine .inl ⟨l, _, rfl, Node.entryAt?_eq_folder_iff.mpr ⟨entries, hnode⟩, rfl,
                fun name => ?_⟩
              rw [(order.perm _).mem_iff, mem_names, ← Node.isSome_entryAt?_name hnode,
                Option.isSome_iff_ne_none]

/-! ### In a folder that is reached -/

section

variable {folder : Path} {name : String}

theorem removeFile_join (hname : Path.IsName name) (h : Reaches d folder) :
    removeFile (folder / name) d = match accept (folder / name) with
      | .error fault => .error fault d
      | .ok () =>
        if isTooLong name then .error .nameTooLong d
        else
          match d.entryAt? (folder.location ++ [.text name]) with
          | some .folder => .error .isFolder d
          | some (.file _) => .ok () (d.remove (folder.location ++ [.text name]))
          | none => .error .noEntry d := by
  rw [removeFile_eq, h.place_eq hname]
  cases accept (folder / name) <;> rfl

theorem removeListed_join {name : EntryName} (hname : name.IsLegal) (h : Reaches d folder) :
    removeListed (folder / name) d = match acceptEntry (folder / name) with
      | .error fault => .error fault d
      | .ok () =>
        if isTooLong name then .error .nameTooLong d
        else
          match d.entryAt? (folder.location ++ [name]) with
          | some .folder => .error .isFolder d
          | some (.file _) => .ok () (d.remove (folder.location ++ [name]))
          | none => .error .noEntry d := by
  cases name with
  | text name => exact removeFile_join hname h
  | raw name =>
      change removeListed (.raw folder name) d = match acceptEntry (.raw folder name) with
        | .error _ => _
        | .ok () => _
      rw [removeListed_raw_eq, folderAround, h.walkToFolder_eq]
      cases acceptEntry (.raw folder name) <;> rfl

/-- A file that is found missing in a folder that is reached is not there. -/
theorem entryAt?_of_removeFile_missing {fault : Fault} (hname : Path.IsName name)
    (h : Reaches d folder) (hrun : removeFile (folder / name) d = .error fault e)
    (hmissing : fault.saysMissing = true) : d.entryAt? (folder.location ++ [.text name]) = none := by
  rw [removeFile_join hname h] at hrun
  cases haccept : accept (folder / name) with
  | error cause =>
      rw [haccept] at hrun
      cases hrun
      rw [accept_join_error hname haccept] at hmissing
      cases hmissing
  | ok u =>
      rw [haccept] at hrun
      dsimp only at hrun
      cases hlong : isTooLong name with
      | true =>
          rw [hlong] at hrun
          cases hrun
          cases hmissing
      | false =>
          rw [hlong] at hrun
          cases hentry : d.entryAt? (folder.location ++ [.text name]) with
          | none => rfl
          | some entry =>
              rw [hentry] at hrun
              cases entry with
              | file f => cases hrun
              | folder =>
                  cases hrun
                  cases hmissing

/-- In a folder that is reached past it, a tree is removed for good. -/
theorem removeTree_join (hname : Path.IsName name) (h : Reaches d folder)
    (hroad : ∀ l ∈ folder.road, ¬folder.location ++ [.text name] <+: l) :
    removeTree (folder / name) d = match accept (folder / name) with
      | .error fault => .error fault d
      | .ok () =>
        if isTooLong name then .error .nameTooLong d
        else
          match d.entryAt? (folder.location ++ [.text name]) with
          | some .folder => .ok () ((d.put (folder.location ++ [.text name]) (.folder [])).remove
              (folder.location ++ [.text name]))
          | some (.file _) => .error .notFolder d
          | none => .error .noEntry d := by
  rw [removeTree_eq, h.locate_eq hname]
  cases haccept : accept (folder / name) with
  | error fault => rfl
  | ok u =>
      cases hlong : isTooLong name with
      | true => rfl
      | false =>
          cases hentry : d.entryAt? (folder.location ++ [.text name]) with
          | none => rfl
          | some entry =>
              cases entry with
              | file f =>
                  simp only [Option.isSome_some, Bool.false_eq_true, if_false, if_true, hentry]
              | folder =>
                  have hempty :
                      Reaches (d.put (folder.location ++ [.text name]) (.folder [])) folder :=
                    h.of_agree (.put d _ _) fun l hl hbelow => absurd hbelow (hroad l hl)
                  obtain ⟨entries, hentries⟩ := Node.entryAt?_eq_folder_iff.mp h.folder_location
                  have hnode : (d.put (folder.location ++ [.text name]) (.folder [])).get?
                      (folder.location ++ [.text name]) = some (.folder []) :=
                    (Node.get?_put_append hentries name _ []).trans rfl
                  simp only [Option.isSome_some, Bool.false_eq_true, if_false, if_true, hentry]
                  rw [removeFolder_eq, hempty.place_eq hname, haccept]
                  dsimp only
                  rw [hlong, hnode]
                  rfl

theorem openForWriting_join {executable : Bool} (hname : Path.IsName name) (h : Reaches d folder) :
    openForWriting (folder / name) executable d = match accept (folder / name) with
      | .error fault => .error fault d
      | .ok () =>
        if isTooLong name then .error .nameTooLong d
        else
          match d.entryAt? (folder.location ++ [.text name]) with
          | some .folder => .error .isFolder d
          | some (.file _) => .ok (folder.location ++ [.text name]) d
          | none => .ok (folder.location ++ [.text name])
              (d.put (folder.location ++ [.text name]) (.file { content := [], executable })) := by
  rw [openForWriting_eq, h.place_eq hname]
  cases accept (folder / name) <;> rfl

/-- Writing a file where there is no folder, in a folder that is reached. -/
theorem exists_openForWriting (executable : Bool) (hname : Path.IsName name)
    (h : Reaches d folder) (haccept : accept (folder / name) = .ok ())
    (hlong : isTooLong name = false)
    (hno : d.entryAt? (folder.location ++ [.text name]) ≠ some .folder) :
    ∃ f e, openForWriting (folder / name) executable d = .ok (folder.location ++ [.text name]) e ∧
      Wrote d (folder.location ++ [.text name]) f e := by
  rw [openForWriting_join hname h, haccept, hlong]
  cases hentry : d.entryAt? (folder.location ++ [.text name]) with
  | none => exact ⟨_, _, rfl, .put _ h.folder_location hno⟩
  | some entry =>
      cases entry with
      | folder => exact absurd hentry hno
      | file f => exact ⟨f, d, rfl, hentry, .refl d⟩

/-- Moving something to a place where there is nothing, in a folder that is reached. -/
theorem rename_join {above : Path} {oldName : String} (hold : Path.IsName oldName)
    (hname : Path.IsName name)
    (habove : ¬folder.location ++ [.text name] <+: above.location ++ [.text oldName])
    (hbelow : ¬above.location ++ [.text oldName] <+: folder.location ++ [.text name])
    (hfrom : Reaches d above) (h : Reaches d folder)
    (hnone : d.entryAt? (folder.location ++ [.text name]) = none) :
    rename (above / oldName) (folder / name) d =
      if hasNul (above / oldName) || hasNul (folder / name) then .error .nulInPath d
      else
        match accept (above / oldName), accept (folder / name) with
        | .error fault, _ => .error fault d
        | .ok (), .error fault => .error fault d
        | .ok (), .ok () =>
          if isTooLong oldName then .error .nameTooLong d
          else
            match d.get? (above.location ++ [.text oldName]) with
            | none => .error .noEntry d
            | some moved =>
              if isTooLong name then .error .nameTooLong d
              else .ok () ((d.remove (above.location ++ [.text oldName])).put
                (folder.location ++ [.text name])
                moved) := by
  have hne : above.location ++ [.text oldName] ≠ folder.location ++ [.text name] := fun heq =>
    hbelow (heq ▸ List.prefix_rfl)
  rw [rename_eq, hfrom.place_eq hold, h.place_eq hname]
  cases accept (above / oldName) with
  | error fault => rfl
  | ok u =>
      cases accept (folder / name) with
      | error fault => rfl
      | ok u =>
          dsimp only
          cases d.get? (above.location ++ [.text oldName]) with
          | none => rfl
          | some moved =>
              rw [Node.entryAt?_eq_none_iff.mp hnone]
              rw [← List.isPrefixOf_iff_prefix] at habove hbelow
              simp only [Bool.or_self, Bool.and_false, Bool.false_eq_true, if_false, if_neg hne,
                if_neg habove, if_neg hbelow, mayReplace]

end

end ReleasePipeline.Disk
