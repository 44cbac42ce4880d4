import ReleasePipeline.Proofs.Disk.Operations
import ReleasePipeline.Proofs.Stage.Matches

/-!
# ReleasePipeline.Proofs.Disk.SideBySide

The same operation on two disks. Where both disks reach a folder, every walk to an entry of it goes
the same way on both. An operation in that folder then ends alike, as long as the entry it is after
is the same on both, and it makes the same change to both.
-/

namespace ReleasePipeline

open Disk Node

/-! ### Looking -/

namespace Disk

variable {d e : Node} {folder : Path} {name : String}

/-- The same entries on the road to a path: it is located alike. -/
theorem locate_congr {p : Path} (h : ∀ l ∈ p.road, d.entryAt? l = e.entryAt? l) :
    locate d p = locate e p := by
  unfold locate follow
  rw [walk_congr h]
  cases hwalk : walk e [] p.segments with
  | error fault => rfl
  | ok l =>
      have hl : l = p.location := walk_ok hwalk
      dsimp only
      rw [hl, isFolderAt_congr (h _ (Path.location_mem_road p))]

theorem locate_folder_congr (hd : Reaches d folder) (he : Reaches e folder) :
    locate d folder = locate e folder :=
  locate_congr fun l hl => (hd.folders l hl).trans (he.folders l hl).symm

theorem locate_join_here_congr (hd : Reaches d folder) (he : Reaches e folder) :
    locate d (folder / ".") = locate e (folder / ".") := by
  refine locate_congr ?_
  intro l hl
  have hmem : l ∈ folder.road := by
    rw [Path.road_join_here, List.mem_append, List.mem_singleton] at hl
    rcases hl with hl | rfl
    · exact hl
    · exact Path.location_mem_road folder
  rw [hd.folders l hmem, he.folders l hmem]

/-- With the same folders on the road, both disks or neither have a folder at its end. -/
theorem isFolder_congr {p : Path}
    (h : ∀ l ∈ p.road, (d.entryAt? l = some .folder ↔ e.entryAt? l = some .folder)) :
    isFolder d p = isFolder e p := by
  have hgoes : ∀ {d e : Node}, (∀ l ∈ p.road, d.entryAt? l = some .folder →
      e.entryAt? l = some .folder) → isFolder d p = true → isFolder e p = true := by
    intro d e hroad hd
    have hreaches := Reaches.of_isFolder hd
    obtain ⟨l, hlocate, hfolder⟩ := isFolder_iff.mp hd
    rw [locate_congr fun l hl => (hreaches.folders l hl).trans
      (hroad l hl (hreaches.folders l hl)).symm] at hlocate
    have hl : l ∈ p.road := location_of_locate hlocate ▸ Path.location_mem_road p
    exact isFolder_iff.mpr ⟨l, hlocate, hroad l hl hfolder⟩
  rw [Bool.eq_iff_iff]
  exact ⟨hgoes fun l hl => (h l hl).mp, hgoes fun l hl => (h l hl).mpr⟩

theorem locate_join_congr (hname : Path.IsName name) (hd : Reaches d folder)
    (he : Reaches e folder)
    (hentry : d.entryAt? (folder.location ++ [.text name]) =
      e.entryAt? (folder.location ++ [.text name])) :
    locate d (folder / name) = locate e (folder / name) := by
  rw [hd.locate_eq hname, he.locate_eq hname, hentry]

theorem place_join_congr (hname : Path.IsName name) (hd : Reaches d folder)
    (he : Reaches e folder) : place d (folder / name) = place e (folder / name) := by
  rw [hd.place_eq hname, he.place_eq hname]

theorem isFolder_join_congr (hname : Path.IsName name) (hd : Reaches d folder)
    (he : Reaches e folder)
    (hentry : d.entryAt? (folder.location ++ [.text name]) =
      e.entryAt? (folder.location ++ [.text name])) :
    isFolder d (folder / name) = isFolder e (folder / name) := by
  unfold isFolder
  rw [locate_join_congr hname hd he hentry]
  cases hlocate : locate e (folder / name) with
  | error fault => rfl
  | ok l =>
      have hl : l = (folder / name).location := location_of_locate hlocate
      dsimp only
      rw [hl, Path.location_join_name hname, isFolderAt_congr hentry]

/-! ### Changing -/

theorem openForReading_alike {p : Path} (h : locate d p = locate e p) :
    EndAlike (fun l l' d' e' => (l = l' ∧ l = p.location) ∧ d' = d ∧ e' = e)
      (fun d' e' => d' = d ∧ e' = e) (openForReading p d) (openForReading p e) := by
  rw [openForReading_eq, openForReading_eq, h]
  cases hlocate : locate e p with
  | error fault => exact .error ⟨rfl, rfl⟩
  | ok l => exact .ok ⟨⟨rfl, location_of_locate hlocate⟩, rfl, rfl⟩

theorem readAt_alike {l : Location} (h : d.entryAt? l = e.entryAt? l) :
    EndAlike (fun content content' d' e' => content = content' ∧ d' = d ∧ e' = e)
      (fun d' e' => d' = d ∧ e' = e) (readAt l d) (readAt l e) := by
  rw [readAt_eq, readAt_eq, h]
  cases e.entryAt? l with
  | none => exact .error ⟨rfl, rfl⟩
  | some entry =>
      cases entry with
      | file f => exact .ok ⟨rfl, rfl, rfl⟩
      | folder => exact .error ⟨rfl, rfl⟩

/-- The same entries in a folder are listed alike. -/
theorem list_alike {order : ListingOrder} {p : Path} (hlocate : locate d p = locate e p)
    (hentry : d.entryAt? p.location = e.entryAt? p.location)
    (hnames : ∀ name, d.entryAt? (p.location ++ [name]) = e.entryAt? (p.location ++ [name])) :
    EndAlike (fun names names' d' e' => (names = names' ∧
        ∀ name ∈ names, d.entryAt? (p.location ++ [name]) ≠ none) ∧ d' = d ∧ e' = e)
      (fun d' e' => d' = d ∧ e' = e) (list order p d) (list order p e) := by
  have hcases := list_cases order p d
  unfold list at hcases ⊢
  rw [hlocate] at hcases ⊢
  cases hfound : locate e p with
  | error fault => exact .error ⟨rfl, rfl⟩
  | ok l =>
      obtain rfl := location_of_locate hfound
      rw [hfound] at hcases
      dsimp only at hcases ⊢
      cases hd : d.entryAt? p.location with
      | none =>
          have he := hentry.symm.trans hd
          rw [entryAt?_eq_none_iff.mp hd, entryAt?_eq_none_iff.mp he]
          exact .error ⟨rfl, rfl⟩
      | some entry =>
          have he := hentry.symm.trans hd
          cases entry with
          | file f =>
              rw [entryAt?_eq_file_iff.mp hd, entryAt?_eq_file_iff.mp he]
              exact .error ⟨rfl, rfl⟩
          | folder =>
              obtain ⟨entries, hd⟩ := entryAt?_eq_folder_iff.mp hd
              obtain ⟨entries', he⟩ := entryAt?_eq_folder_iff.mp he
              -- The two folders may keep their entries in different orders.
              have hsame : (Node.folder entries).names = (Node.folder entries').names :=
                names_congr fun name => by
                  rw [← isSome_entryAt?_name hd, ← isSome_entryAt?_name he, hnames]
              rw [hd, he]
              dsimp only
              refine .ok ⟨⟨by rw [hsame], ?_⟩, rfl, rfl⟩
              intro name hname
              rw [(order.perm _).mem_iff, mem_names, ← isSome_entryAt?_name hd] at hname
              exact Option.isSome_iff_ne_none.mp hname

theorem removeListed_alike {name : EntryName} (hname : name.IsLegal) (hd : Reaches d folder)
    (he : Reaches e folder)
    (hentry : d.entryAt? (folder.location ++ [name]) = e.entryAt? (folder.location ++ [name])) :
    EndAlike (fun _ _ d' e' => (∃ f, d.entryAt? (folder.location ++ [name]) = some (.file f)) ∧
        d' = d.remove (folder.location ++ [name]) ∧ e' = e.remove (folder.location ++ [name]))
      (fun d' e' => d' = d ∧ e' = e) (removeListed (folder / name) d)
      (removeListed (folder / name) e) := by
  rw [removeListed_join hname hd, removeListed_join hname he, hentry]
  cases acceptEntry (folder / name) with
  | error fault => exact .error ⟨rfl, rfl⟩
  | ok u =>
      dsimp only
      cases isTooLong name with
      | true => exact .error ⟨rfl, rfl⟩
      | false =>
          cases e.entryAt? (folder.location ++ [name]) with
          | none => exact .error ⟨rfl, rfl⟩
          | some entry =>
              cases entry with
              | folder => exact .error ⟨rfl, rfl⟩
              | file f => exact .ok ⟨⟨f, rfl⟩, rfl, rfl⟩

theorem removeTree_alike (hname : Path.IsName name) (hd : Reaches d folder) (he : Reaches e folder)
    (hroad : ∀ l ∈ folder.road, ¬folder.location ++ [.text name] <+: l)
    (hentry : d.entryAt? (folder.location ++ [.text name]) =
      e.entryAt? (folder.location ++ [.text name])) :
    EndAlike (fun _ _ d' e' => (AgreeOff (folder.location ++ [.text name] <+: ·) d' d ∧
          AgreeOff (folder.location ++ [.text name] <+: ·) e' e) ∧ (Sheds d d' ∧ Sheds e e') ∧
        ∀ l, folder.location ++ [.text name] <+: l → d'.entryAt? l = none ∧ e'.entryAt? l = none)
      (fun d' e' => d' = d ∧ e' = e) (removeTree (folder / name) d)
      (removeTree (folder / name) e) := by
  rw [removeTree_join hname hd hroad, removeTree_join hname he hroad, hentry]
  cases accept (folder / name) with
  | error fault => exact .error ⟨rfl, rfl⟩
  | ok u =>
      dsimp only
      cases isTooLong name with
      | true => exact .error ⟨rfl, rfl⟩
      | false =>
          cases hfound : e.entryAt? (folder.location ++ [.text name]) with
          | none => exact .error ⟨rfl, rfl⟩
          | some entry =>
              cases entry with
              | file f => exact .error ⟨rfl, rfl⟩
              | folder =>
                  refine .ok ⟨⟨?_, ?_⟩, ⟨?_, ?_⟩, fun l hl => ⟨?_, ?_⟩⟩
                  · exact .trans (.remove _ _) (.put d _ _)
                  · exact .trans (.remove _ _) (.put e _ _)
                  · exact (Sheds.put_empty (hentry.trans hfound)).trans (.remove _ _ _)
                  · exact (Sheds.put_empty hfound).trans (.remove _ _ _)
                  · exact entryAt?_remove_eq_none hl
                  · exact entryAt?_remove_eq_none hl

/-! ### Copying -/

/-- A copy of one file to one place, where neither disk or both have a folder. -/
theorem copyFile_alike {source : Path} (hname : Path.IsName name) (hd : Reaches d folder)
    (he : Reaches e folder) (hlocate : locate d source = locate e source)
    (hsource : d.entryAt? source.location = e.entryAt? source.location)
    (hfolder : d.entryAt? (folder.location ++ [.text name]) = some .folder ↔
      e.entryAt? (folder.location ++ [.text name]) = some .folder) :
    EndAlike (fun _ _ d' e' => d.entryAt? (folder.location ++ [.text name]) ≠ some .folder ∧
        ∃ f, Wrote d (folder.location ++ [.text name]) f d' ∧
          Wrote e (folder.location ++ [.text name]) f e')
      (fun d' e' => d' = d ∧ e' = e) (copyFile source (folder / name) d)
      (copyFile source (folder / name) e) := by
  rw [copyFile_eq, copyFile_eq, hlocate]
  cases hfound : locate e source with
  | error fault => exact .error ⟨rfl, rfl⟩
  | ok origin =>
      obtain rfl := location_of_locate hfound
      dsimp only
      rw [hsource]
      cases e.entryAt? source.location with
      | none => exact .error ⟨rfl, rfl⟩
      | some entry =>
          cases entry with
          | folder => exact .error ⟨rfl, rfl⟩
          | file f =>
              dsimp only
              cases haccept : accept (folder / name) with
              | error fault =>
                  rw [openForWriting_join hname hd, openForWriting_join hname he, haccept]
                  exact .error ⟨rfl, rfl⟩
              | ok u =>
                  cases hlong : isTooLong name with
                  | true =>
                      rw [openForWriting_join hname hd, openForWriting_join hname he, haccept, hlong]
                      exact .error ⟨rfl, rfl⟩
                  | false =>
                      by_cases hno : d.entryAt? (folder.location ++ [.text name]) = some .folder
                      · rw [openForWriting_join hname hd, openForWriting_join hname he, haccept,
                          hlong, hno, hfolder.mp hno]
                        exact .error ⟨rfl, rfl⟩
                      · -- What stood there may differ; it is written over on either side.
                        obtain ⟨f₁, d', hrund, hwroted⟩ := exists_openForWriting
                          f.executable hname hd haccept hlong hno
                        obtain ⟨f₂, e', hrune, hwrotee⟩ := exists_openForWriting
                          f.executable hname he haccept hlong
                          fun h => hno (hfolder.mpr h)
                        rw [hrund, hrune]
                        dsimp only
                        rw [changeFile_eq, changeFile_eq, hwroted.entryAt?, hwrotee.entryAt?]
                        exact .ok ⟨hno, _, hwroted.trans (.put_again hd.folder_location hwroted),
                          hwrotee.trans (.put_again he.folder_location hwrotee)⟩

/-! ### Moving -/

/-- The same thing is moved to a place where neither disk has anything. -/
theorem rename_alike {above : Path} {oldName : String} (hold : Path.IsName oldName)
    (hname : Path.IsName name)
    (habove : ¬folder.location ++ [EntryName.text name] <+:
      above.location ++ [EntryName.text oldName])
    (hbelow : ¬above.location ++ [EntryName.text oldName] <+:
      folder.location ++ [EntryName.text name])
    (hfrom : Reaches d above ∧ Reaches e above) (hreaches : Reaches d folder ∧ Reaches e folder)
    (hsource : d.entryAt? (above.location ++ [EntryName.text oldName]) =
      e.entryAt? (above.location ++ [EntryName.text oldName]))
    (htarget : d.entryAt? (folder.location ++ [EntryName.text name]) = none ∧
      e.entryAt? (folder.location ++ [EntryName.text name]) = none) :
    EndAlike (fun _ _ d' e' =>
        Moved d (above.location ++ [EntryName.text oldName])
            (folder.location ++ [EntryName.text name]) d' ∧
          Moved e (above.location ++ [EntryName.text oldName])
            (folder.location ++ [EntryName.text name]) e')
      (fun d' e' => d' = d ∧ e' = e) (rename (above / oldName) (folder / name) d)
      (rename (above / oldName) (folder / name) e) := by
  rw [rename_join hold hname habove hbelow hfrom.1 hreaches.1 htarget.1,
    rename_join hold hname habove hbelow hfrom.2 hreaches.2 htarget.2]
  cases hasNul (above / oldName) || hasNul (folder / name) with
  | true => exact .error ⟨rfl, rfl⟩
  | false =>
      cases accept (above / oldName) with
      | error fault => exact .error ⟨rfl, rfl⟩
      | ok u =>
          cases accept (folder / name) with
          | error fault => exact .error ⟨rfl, rfl⟩
          | ok u =>
              dsimp only
              cases isTooLong oldName with
              | true => exact .error ⟨rfl, rfl⟩
              | false =>
                  cases hd : d.get? (above.location ++ [.text oldName]) with
                  | none =>
                      rw [entryAt?_eq_none_iff.mpr hd, eq_comm, entryAt?_eq_none_iff] at hsource
                      rw [hsource]
                      exact .error ⟨rfl, rfl⟩
                  | some moved =>
                      cases he : e.get? (above.location ++ [.text oldName]) with
                      | none =>
                          rw [entryAt?_eq_none_iff.mpr he, entryAt?_eq_none_iff, hd] at hsource
                          cases hsource
                      | some moved' =>
                          cases isTooLong name with
                          | true => exact .error ⟨rfl, rfl⟩
                          | false =>
                              exact .ok ⟨.of_put_remove hd hreaches.1.folder_location hname hbelow
                                habove, .of_put_remove he hreaches.2.folder_location hname hbelow
                                habove⟩

end Disk

end ReleasePipeline
