import Mathlib.Data.List.Chain
import ReleasePipeline.Proofs.Path.Joining
import ReleasePipeline.Workspace

/-!
# ReleasePipeline.Proofs.Path.NormalForm

The normal form of a path, in which the root of a workspace is kept. A normal path is absolute, has
no dot among its segments and no two slashes side by side, but for two at its very front
(`IsNormal`). It is determined by its segments and by whether it starts with two slashes and ends in
one (`IsNormal.ext`).

Normalising starts at the root, at two slashes or in a folder (`startOf`) and joins the segments that
are no dots one after another. One such step keeps the path normal (`IsNormal.join`), and so does the
whole run (`IsNormalFolder.joinAll`). What comes out has the slashes and the segments of the text
(`NormalizesTo`), so a path that is normal already comes out as it is, whatever folder it is seen
from (`absolute?_of_isNormal`).
-/

namespace ReleasePipeline

namespace Path

/-! ### Slashes -/

/-- Whether two characters are not both slashes. -/
def NotBothSlashes (c d : Char) : Prop :=
  ¬(c = '/' ∧ d = '/')

instance : DecidableRel NotBothSlashes := fun c d =>
  inferInstanceAs (Decidable ¬(c = '/' ∧ d = '/'))

/-- Two texts that do not bring two slashes together when one follows the other. -/
def MeetsWell (front back : List Char) : Prop :=
  ∀ c ∈ front.getLast?, ∀ d ∈ back.head?, NotBothSlashes c d

theorem isChain_of_no_slash {cs : List Char} (h : '/' ∉ cs) : cs.IsChain NotBothSlashes := by
  induction cs with
  | nil => exact .nil
  | cons c cs ih =>
      simp only [List.mem_cons, not_or] at h
      exact List.isChain_cons.mpr ⟨fun d _ hboth => h.1 hboth.1.symm, ih h.2⟩

theorem isChain_slash_cons {cs : List Char} (h : '/' ∉ cs) :
    ('/' :: cs).IsChain NotBothSlashes := by
  refine List.isChain_cons.mpr ⟨fun d hd hboth => ?_, isChain_of_no_slash h⟩
  exact h (hboth.2 ▸ List.mem_of_mem_head? hd)

/-- Segments with a slash behind each of them. -/
def slashed (segments : List String) : List Char :=
  segments.flatMap fun segment => segment.toList ++ ['/']

theorem partsOf_of_no_slash {cs : List Char} (hne : cs ≠ []) (h : '/' ∉ cs) :
    partsOf cs = [String.ofList cs] := by
  simp [partsOf, List.splitOn_eq_singleton h, hne]

/-- A text that starts with anything but a slash has a part. -/
theorem eq_nil_of_partsOf_eq_nil {cs : List Char} (hhead : cs.head? ≠ some '/')
    (hnil : partsOf cs = []) : cs = [] := by
  cases cs with
  | nil => rfl
  | cons c cs =>
      have hc : c ≠ '/' := by simpa using hhead
      obtain ⟨part, parts, hsplit⟩ := List.exists_cons_of_ne_nil (List.splitOn_ne_nil '/' cs)
      simp [partsOf, List.splitOn_cons_eq_if_modifyHead, hc, hsplit] at hnil

/-- A text that ends in a slash, does not start with one and has no two side by side is its parts
with a slash behind each. -/
theorem eq_slashed_partsOf {cs : List Char} (hhead : cs.head? ≠ some '/')
    (hchain : cs.IsChain NotBothSlashes) (hlast : ∀ c ∈ cs.getLast?, c = '/') :
    cs = slashed (partsOf cs) := by
  by_cases hnil : cs = []
  · subst hnil
    rfl
  have hslash : '/' ∈ cs := by
    have hmem : cs.getLast hnil ∈ cs := List.getLast_mem hnil
    rwa [hlast _ (List.getLast?_eq_some_getLast hnil)] at hmem
  obtain ⟨part, rest, rfl, hpart⟩ := List.eq_append_cons_of_mem hslash
  have hne : part ≠ [] := by
    intro h
    simp [h] at hhead
  obtain ⟨-, hrest, -⟩ := List.isChain_append.mp hchain
  obtain ⟨hnext, hrest⟩ := List.isChain_cons.mp hrest
  -- No slash follows the one behind the part, so the rest is of the same shape.
  have ih : rest = slashed (partsOf rest) := by
    refine eq_slashed_partsOf (fun h => hnext '/' h ⟨rfl, rfl⟩) hrest fun c hc => hlast c ?_
    simp [List.getLast?_append, List.getLast?_cons, Option.mem_def.mp hc]
  rw [partsOf_append_slash, partsOf_of_no_slash hne hpart]
  simpa [slashed] using ih
termination_by cs.length

/-! ### Normal paths -/

/-- An absolute path without dots and without repeated slashes. Behind the first character no two
slashes are side by side, so two at the front are all there can be. -/
structure IsNormal (p : Path) : Prop where
  absolute : p.isAbsolute = true
  no_here : "." ∉ p.segments
  single : p.text.toList.tail.IsChain NotBothSlashes

/-- A normal path as the system gives it for a folder: without a slash at its end, if it has any
segment at all. -/
structure IsNormalFolder (p : Path) : Prop extends IsNormal p where
  open_ended : p.endsInSlash = true → p.segments = []

/-- A segment that a normal path can have. -/
structure IsPart (text : String) : Prop extends IsSegment text where
  not_here : text ≠ "."

theorem isPart_of_mem_filter {p : Path} {text : String}
    (h : text ∈ p.segments.filter (· ≠ ".")) : IsPart text := by
  simp only [List.mem_filter, decide_eq_true_eq] at h
  exact ⟨isSegment_of_mem_segments h.1, h.2⟩

theorem exists_text_eq_slash_cons {p : Path} (h : p.isAbsolute = true) :
    ∃ rest, p.text.toList = '/' :: rest := by
  simpa [isAbsolute, List.head?_eq_some_iff] using h

/-- Joining a text without slashes puts it behind the path, with one slash in between. -/
theorem exists_join_eq {p : Path} {text : String} (h : p.isAbsolute = true)
    (hslash : '/' ∉ text.toList) :
    ∃ back, (p / text).text.toList = p.text.toList ++ back ∧ MeetsWell p.text.toList back ∧
      back.IsChain NotBothSlashes := by
  obtain ⟨rest, hrest⟩ := exists_text_eq_slash_cons h
  show ∃ back, (p / (⟨text⟩ : Path)).text.toList = _ ∧ _
  rw [join_of_not_isAbsolute (not_isAbsolute_of_no_slash hslash)]
  by_cases hend : p.endsInSlash = true
  · refine ⟨text.toList, by simp [hend], fun c _ d hd hboth => ?_, isChain_of_no_slash hslash⟩
    exact hslash (hboth.2 ▸ List.mem_of_mem_head? hd)
  · refine ⟨'/' :: text.toList, by simp [hend, hrest], fun c hc d _ hboth => hend ?_,
      isChain_slash_cons hslash⟩
    simpa [endsInSlash, hboth.1] using hc

theorem hasDoubleRoot_iff {p : Path} :
    p.hasDoubleRoot = true ↔
      ∃ rest, p.text.toList = '/' :: '/' :: rest ∧ rest.head? ≠ some '/' := by
  unfold hasDoubleRoot
  split
  · rename_i rest htext
    simp [htext]
  · rename_i rest hno htext
    cases rest with
    | nil => simp [htext]
    | cons c rest => simpa [htext] using fun h : c = '/' => hno rest (by rw [h])
  · rename_i hno
    simpa using fun rest htext => absurd htext (hno rest)

/-- Two slashes at the front stay two, and one stays one. -/
theorem hasDoubleRoot_append {p q : Path} {back : List Char} (h : p.isAbsolute = true)
    (hq : q.text.toList = p.text.toList ++ back) (hmeets : MeetsWell p.text.toList back) :
    q.hasDoubleRoot = p.hasDoubleRoot := by
  obtain ⟨rest, hrest⟩ := exists_text_eq_slash_cons h
  rw [Bool.eq_iff_iff, hasDoubleRoot_iff, hasDoubleRoot_iff, hq, hrest]
  rw [hrest] at hmeets
  -- What decides is the second and the third character, and the back may bring either of them.
  have hback : ∀ {front : List Char}, MeetsWell (front ++ ['/']) back → back.head? ≠ some '/' :=
    fun hmeets hhead => hmeets '/' (by simp) '/' hhead ⟨rfl, rfl⟩
  cases rest with
  | nil =>
      have hhead := @hback [] hmeets
      cases back <;> simp_all
  | cons c rest =>
      cases rest with
      | nil =>
          by_cases hc : c = '/'
          · subst hc
            simpa using @hback ['/'] hmeets
          · simp [hc]
      | cons d rest => simp

/-! ### Joining one part -/

theorem mem_getLast?_of_mem_tail {cs : List Char} {c : Char} (h : c ∈ cs.tail.getLast?) :
    c ∈ cs.getLast? := by
  cases cs with
  | nil => exact h
  | cons d cs => simp_all [List.getLast?_cons]

/-- A path stays normal when a text without slashes is joined that is no dot. The empty text puts a
slash at the end. -/
theorem IsNormal.join {p : Path} {text : String} (h : p.IsNormal) (hslash : '/' ∉ text.toList)
    (hhere : text ≠ ".") : (p / text).IsNormal := by
  obtain ⟨back, hback, hmeets, hchain⟩ := exists_join_eq h.absolute hslash
  obtain ⟨rest, hrest⟩ := exists_text_eq_slash_cons h.absolute
  have hrelative := not_isAbsolute_of_no_slash hslash
  refine ⟨isAbsolute_join ⟨text⟩ h.absolute, ?_, ?_⟩
  · show "." ∉ (p / (⟨text⟩ : Path)).segments
    rw [segments_join hrelative, List.mem_append, not_or]
    refine ⟨h.no_here, fun hmem => hhere ?_⟩
    by_cases hempty : text.toList = []
    · simp [segments_eq_partsOf, hempty, partsOf_nil] at hmem
    · rw [(IsSegment.mk hempty hslash).segments_eq, List.mem_singleton] at hmem
      exact hmem.symm
  · rw [hback, List.tail_append_of_ne_nil (by simp [hrest])]
    exact List.isChain_append.mpr ⟨h.single, hchain, fun c hc d hd =>
      hmeets c (mem_getLast?_of_mem_tail hc) d hd⟩

theorem hasDoubleRoot_join {p : Path} {text : String} (h : p.isAbsolute = true)
    (hslash : '/' ∉ text.toList) : (p / text).hasDoubleRoot = p.hasDoubleRoot := by
  obtain ⟨back, hback, hmeets, -⟩ := exists_join_eq h hslash
  exact hasDoubleRoot_append h hback hmeets

/-! ### A slash at the end -/

theorem segments_join_empty (p : Path) : (p / "").segments = p.segments :=
  (segments_join (by decide)).trans (List.append_nil _)

theorem text_join_empty {p : Path} (hne : p.text.toList ≠ []) :
    (p / "").text = if p.endsInSlash then p.text else p.text ++ "/" := by
  show (p / (⟨""⟩ : Path)).text = _
  rw [join_of_not_isAbsolute (by decide)]
  cases p.endsInSlash <;> simp [hne]

theorem endsInSlash_join_empty {p : Path} (hne : p.text.toList ≠ []) :
    (p / "").endsInSlash = true := by
  have htext := text_join_empty hne
  unfold endsInSlash
  rw [htext]
  cases hend : p.endsInSlash with
  | true => exact hend
  | false => simp

/-! ### What determines a normal path -/

/-- The slashes that a normal path starts with. -/
def rootOf (double : Bool) : String :=
  if double then "//" else "/"

theorem IsNormal.text_ne_nil {p : Path} (h : p.IsNormal) : p.text.toList ≠ [] := by
  obtain ⟨rest, hrest⟩ := exists_text_eq_slash_cons h.absolute
  simp [hrest]

theorem IsNormal.exists_behind_root {p : Path} (h : p.IsNormal) :
    ∃ behind, p.text.toList = (rootOf p.hasDoubleRoot).toList ++ behind ∧
      behind.head? ≠ some '/' ∧ behind.IsChain NotBothSlashes := by
  have hchain := h.single
  cases hdouble : p.hasDoubleRoot with
  | true =>
      obtain ⟨rest, hrest, hhead⟩ := hasDoubleRoot_iff.mp hdouble
      rw [hrest] at hchain
      exact ⟨rest, hrest, hhead, (List.isChain_cons.mp hchain).2⟩
  | false =>
      obtain ⟨rest, hrest⟩ := exists_text_eq_slash_cons h.absolute
      rw [hrest] at hchain
      refine ⟨rest, hrest, fun hhead => ?_, hchain⟩
      obtain ⟨others, rfl⟩ := List.head?_eq_some_iff.mp hhead
      have hnext := (List.isChain_cons.mp hchain).1
      have htwo := hasDoubleRoot_iff.mpr ⟨others, hrest, fun h => hnext '/' h ⟨rfl, rfl⟩⟩
      rw [hdouble] at htwo
      cases htwo

theorem partsOf_root_append (double : Bool) (cs : List Char) :
    partsOf ((rootOf double).toList ++ cs) = partsOf cs := by
  cases double with
  | true => exact partsOf_append_slash ['/'] cs
  | false => exact partsOf_append_slash [] cs

/-- With a slash at its end, a normal path is its root and its segments with a slash behind each. -/
theorem IsNormal.text_eq_slashed {p : Path} (h : p.IsNormal) (hend : p.endsInSlash = true) :
    p.text.toList = (rootOf p.hasDoubleRoot).toList ++ slashed p.segments := by
  obtain ⟨behind, htext, hhead, hchain⟩ := h.exists_behind_root
  have hlast : ∀ c ∈ behind.getLast?, c = '/' := by
    intro c hc
    simp only [endsInSlash, htext, List.getLast?_append, Option.mem_def.mp hc, Option.some_or,
      beq_iff_eq, Option.some.injEq] at hend
    exact hend
  rw [segments_eq_partsOf, htext, partsOf_root_append, ← eq_slashed_partsOf hhead hchain hlast]

theorem IsNormal.text_join_empty_eq {p : Path} (h : p.IsNormal) :
    (p / "").text.toList = (rootOf p.hasDoubleRoot).toList ++ slashed p.segments := by
  have hjoin : (p / "").IsNormal := h.join (by decide) (by decide)
  rw [hjoin.text_eq_slashed (endsInSlash_join_empty h.text_ne_nil), segments_join_empty,
    hasDoubleRoot_join h.absolute (by decide)]

/-- Normal paths with the same segments and the same slashes at both ends are the same. -/
theorem IsNormal.ext {p q : Path} (hp : p.IsNormal) (hq : q.IsNormal)
    (hdouble : p.hasDoubleRoot = q.hasDoubleRoot) (hsegments : p.segments = q.segments)
    (hend : p.endsInSlash = q.endsInSlash) : p = q := by
  have hclosed : (p / "").text = (q / "").text := by
    rw [← String.toList_inj, hp.text_join_empty_eq, hq.text_join_empty_eq, hdouble, hsegments]
  rw [text_join_empty hp.text_ne_nil, text_join_empty hq.text_ne_nil, hend] at hclosed
  have htext : p.text = q.text := by
    cases hslash : q.endsInSlash with
    | true => simpa [hslash] using hclosed
    | false => simpa [hslash] using hclosed
  cases p
  cases q
  exact congrArg Path.mk htext

/-- Only the bare roots have no segments. -/
theorem IsNormal.segments_eq_nil_iff {p : Path} (h : p.IsNormal) :
    p.segments = [] ↔ p = ⟨"/"⟩ ∨ p = ⟨"//"⟩ := by
  constructor
  · intro hnil
    obtain ⟨behind, htext, hhead, -⟩ := h.exists_behind_root
    -- What stands behind the root would start with a part.
    have hbehind : behind = [] := by
      rw [segments_eq_partsOf, htext, partsOf_root_append] at hnil
      exact eq_nil_of_partsOf_eq_nil hhead hnil
    rw [hbehind, List.append_nil, String.toList_inj] at htext
    cases hdouble : p.hasDoubleRoot with
    | true => exact .inr (congrArg Path.mk (htext.trans (by rw [hdouble]; rfl)))
    | false => exact .inl (congrArg Path.mk (htext.trans (by rw [hdouble]; rfl)))
  · intro hroot
    rcases hroot with rfl | rfl <;> decide

/-! ### Joining parts one after another -/

/-- A path with texts joined on, one after another. -/
def joinAll (p : Path) (parts : List String) : Path :=
  parts.foldl (fun (front : Path) (part : String) => front / part) p

/-- Joining a part keeps a folder in normal form. -/
theorem IsNormalFolder.join {p : Path} {part : String} (h : p.IsNormalFolder) (hpart : IsPart part) :
    (p / part).IsNormalFolder := by
  refine ⟨h.toIsNormal.join hpart.no_slash hpart.not_here, fun hend => ?_⟩
  rw [not_endsInSlash_join_segment hpart.toIsSegment] at hend
  cases hend

/-- Joining parts keeps a folder in normal form, adds exactly the parts, and leaves its root. -/
theorem IsNormalFolder.joinAll {p : Path} {parts : List String} (h : p.IsNormalFolder)
    (hparts : ∀ part ∈ parts, IsPart part) :
    (p.joinAll parts).IsNormalFolder ∧ (p.joinAll parts).segments = p.segments ++ parts ∧
      (p.joinAll parts).hasDoubleRoot = p.hasDoubleRoot := by
  induction parts generalizing p with
  | nil => exact ⟨h, (List.append_nil _).symm, rfl⟩
  | cons part rest ih =>
      have hpart := hparts part (List.mem_cons_self ..)
      obtain ⟨hnormal, hsegments, hdouble⟩ :=
        ih (h.join hpart) fun other hother => hparts other (List.mem_cons_of_mem _ hother)
      refine ⟨hnormal, ?_, ?_⟩
      · rw [segments_join_segment hpart.toIsSegment, List.append_assoc] at hsegments
        exact hsegments
      · exact hdouble.trans (hasDoubleRoot_join h.absolute hpart.no_slash)

/-- A slash at the end changes neither the segments nor the root. -/
theorem IsNormal.closed {p : Path} (h : p.IsNormal) :
    (p / "").IsNormal ∧ (p / "").segments = p.segments ∧
      (p / "").hasDoubleRoot = p.hasDoubleRoot :=
  ⟨h.join (by decide) (by decide), segments_join_empty p, hasDoubleRoot_join h.absolute (by decide)⟩

/-! ### Normalising -/

/-- Where normalising a path starts: at its root, or in the folder that it is seen from. -/
def startOf (folder p : Path) : Path :=
  if p.isAbsolute then ⟨rootOf p.hasDoubleRoot⟩ else folder

theorem ofSegment_eq_here_iff {segment : String} :
    Component.ofSegment segment = .here ↔ segment = "." := by
  unfold Component.ofSegment
  by_cases hhere : segment = "."
  · simp [hhere]
  · by_cases hup : segment = ".." <;> simp [hhere, hup]

theorem toPath_ofSegment (segment : String) :
    (Component.ofSegment segment).toPath = ⟨segment⟩ := by
  unfold Component.ofSegment
  by_cases hhere : segment = "."
  · simp [hhere, Component.toPath]
  · by_cases hup : segment = ".." <;> simp [hhere, hup, Component.toPath]

theorem extend_map_ofSegment (p : Path) (segments : List String) :
    p.extend (segments.map Component.ofSegment) = p.joinAll segments := by
  unfold extend joinAll
  rw [List.foldl_map]
  simp only [toPath_ofSegment]
  rfl

theorem filter_map_ofSegment (segments : List String) :
    (segments.map Component.ofSegment).filter (· ≠ .here) =
      (segments.filter (· ≠ ".")).map Component.ofSegment := by
  simp [List.filter_map, Function.comp_def, ofSegment_eq_here_iff]

/-- Behind a dot in front, the components of a relative path are its segments that are no dots. -/
theorem dropWhile_components {p : Path} (h : p.isAbsolute = false) :
    p.components.dropWhile (· = .here) =
      (p.segments.filter (· ≠ ".")).map Component.ofSegment := by
  have hrest : ((p.segments.map Component.ofSegment).filter (· ≠ .here)).dropWhile (· = .here) =
      (p.segments.map Component.ofSegment).filter (· ≠ .here) := by
    cases hparts : (p.segments.map Component.ofSegment).filter (· ≠ .here) with
    | nil => rfl
    | cons part rest =>
        have hmem : part ∈ (p.segments.map Component.ofSegment).filter (· ≠ .here) :=
          hparts ▸ List.mem_cons_self
        have hpart : part ≠ .here := of_decide_eq_true (List.mem_filter.mp hmem).2
        exact List.dropWhile_cons_of_neg (by simpa using hpart)
  rw [← filter_map_ofSegment, ← hrest]
  unfold components
  rw [h, if_neg Bool.false_ne_true]
  split
  · exact List.dropWhile_cons_of_pos (by decide)
  · rfl

/-- Without dots, the components of a path are its root, if it has one, and its other segments. -/
theorem componentsFromHere_eq (p : Path) :
    p.componentsFromHere = (if p.isAbsolute then [.root] else []) ++
      (p.segments.filter (· ≠ ".")).map Component.ofSegment := by
  have hparts := filter_map_ofSegment p.segments
  have htwice : ((p.segments.filter (· ≠ ".")).map Component.ofSegment).filter (· ≠ .here) =
      (p.segments.filter (· ≠ ".")).map Component.ofSegment := by
    rw [← hparts, List.filter_filter]
    simp
  unfold componentsFromHere components
  simp only [hparts]
  cases p.isAbsolute with
  | true => simpa using htwice
  | false =>
      rw [if_neg Bool.false_ne_true, if_neg Bool.false_ne_true, List.nil_append]
      split
      · rw [List.filter_cons_of_neg (by decide)]
        exact htwice
      · exact htwice

/-- Normalising joins the segments that are no dots to the start, and a slash if there was one. -/
theorem absolute?_eq (folder : Path) {p : Path} (hne : p.text.toList ≠ []) :
    folder.absolute? p =
      let joined := (startOf folder p).joinAll (p.segments.filter (· ≠ "."))
      some (if p.endsInSlash then joined / "" else joined) := by
  have hjoined : (if p.isAbsolute then
        if p.hasDoubleRoot then extend ⟨"//"⟩ (p.componentsFromHere.drop 1)
        else extend ⟨""⟩ p.componentsFromHere
      else extend folder p.componentsFromHere) =
        (startOf folder p).joinAll (p.segments.filter (· ≠ ".")) := by
    rw [componentsFromHere_eq, ← extend_map_ofSegment]
    unfold startOf
    cases p.isAbsolute with
    | false => rfl
    | true => cases p.hasDoubleRoot <;> rfl
  unfold absolute?
  rw [if_neg hne]
  dsimp only
  rw [hjoined]
  rfl

/-! ### The normal form -/

/-- What normalising makes of a path, seen from a folder. -/
structure NormalizesTo (folder p root : Path) : Prop where
  normal : root.IsNormal
  /-- Two slashes at the front stay two, and no others become two. -/
  hasDoubleRoot_eq :
    root.hasDoubleRoot = if p.isAbsolute then p.hasDoubleRoot else folder.hasDoubleRoot
  /-- The dots go, and everything else stays in its place. -/
  segments_eq :
    root.segments = (if p.isAbsolute then [] else folder.segments) ++ p.segments.filter (· ≠ ".")
  /-- A slash at the end stays, and only a bare root has one that was not there. -/
  endsInSlash_iff : root.endsInSlash = true ↔ p.endsInSlash = true ∨ root = ⟨"/"⟩ ∨ root = ⟨"//"⟩

theorem isNormalFolder_rootOf (double : Bool) : IsNormalFolder ⟨rootOf double⟩ := by
  cases double <;> exact ⟨⟨by decide, by decide, by decide⟩, by decide⟩

theorem hasDoubleRoot_rootOf (double : Bool) : (Path.mk (rootOf double)).hasDoubleRoot = double := by
  cases double <;> decide

theorem segments_rootOf (double : Bool) : (Path.mk (rootOf double)).segments = [] := by
  cases double <;> decide

theorem endsInSlash_of_isBare {root : Path} (h : root = ⟨"/"⟩ ∨ root = ⟨"//"⟩) :
    root.endsInSlash = true := by
  rcases h with rfl | rfl <;> decide

/-- A relative path is normalised in a folder that is normal, an absolute one anywhere. -/
theorem exists_normalizesTo {folder p : Path}
    (hfolder : p.isAbsolute = false → folder.IsNormalFolder) (hne : p.text.toList ≠ []) :
    ∃ root, folder.absolute? p = some root ∧ NormalizesTo folder p root := by
  have hstart : (startOf folder p).IsNormalFolder ∧
      (startOf folder p).hasDoubleRoot =
        (if p.isAbsolute then p.hasDoubleRoot else folder.hasDoubleRoot) ∧
      (startOf folder p).segments = if p.isAbsolute then [] else folder.segments := by
    unfold startOf
    cases hp : p.isAbsolute with
    | true => exact ⟨isNormalFolder_rootOf _, hasDoubleRoot_rootOf _, segments_rootOf _⟩
    | false => exact ⟨hfolder hp, rfl, rfl⟩
  obtain ⟨hnormal, hdouble, hsegments⟩ := hstart
  obtain ⟨hjoined, hjoinedSegments, hjoinedDouble⟩ :=
    hnormal.joinAll fun part hpart => isPart_of_mem_filter (p := p) hpart
  rw [hsegments] at hjoinedSegments
  rw [hdouble] at hjoinedDouble
  refine ⟨_, absolute?_eq folder hne, ?_⟩
  cases hend : p.endsInSlash with
  | true =>
      obtain ⟨hclosed, hclosedSegments, hclosedDouble⟩ := hjoined.toIsNormal.closed
      exact ⟨hclosed, hclosedDouble.trans hjoinedDouble, hclosedSegments.trans hjoinedSegments,
        fun _ => .inl hend, fun _ => endsInSlash_join_empty hjoined.text_ne_nil⟩
  | false =>
      refine ⟨hjoined.toIsNormal, hjoinedDouble, hjoinedSegments, fun hslash => .inr ?_, ?_⟩
      · exact hjoined.segments_eq_nil_iff.mp (hjoined.open_ended hslash)
      · intro h
        rw [hend] at h
        exact endsInSlash_of_isBare (h.resolve_left Bool.false_ne_true)

/-- A normal path is its own normal form, from wherever it is seen. -/
theorem absolute?_of_isNormal {p : Path} (h : p.IsNormal) (folder : Path) :
    folder.absolute? p = some p := by
  obtain ⟨root, hroot, hform⟩ := @exists_normalizesTo folder p
    (fun hrelative => absurd hrelative (by simp [h.absolute])) h.text_ne_nil
  have hdouble : root.hasDoubleRoot = p.hasDoubleRoot := by
    simpa [h.absolute] using hform.hasDoubleRoot_eq
  have hsegments : root.segments = p.segments := by
    have hkept : p.segments.filter (· ≠ ".") = p.segments := by
      rw [List.filter_eq_self]
      intro segment hmem
      exact decide_eq_true fun heq => h.no_here (heq ▸ hmem)
    rw [hform.segments_eq, if_pos h.absolute, List.nil_append, hkept]
  have hend : root.endsInSlash = p.endsInSlash := by
    rw [Bool.eq_iff_iff, hform.endsInSlash_iff]
    refine ⟨fun hslash => hslash.elim id fun hbare => ?_, .inl⟩
    have hnil : p.segments = [] := hsegments ▸ hform.normal.segments_eq_nil_iff.mpr hbare
    exact endsInSlash_of_isBare (h.segments_eq_nil_iff.mp hnil)
  rw [hroot, hform.normal.ext h hdouble hsegments hend]

end Path

namespace Workspace

/-- **A workspace's root is in normal form.** From a folder in normal form and with any text but the
empty one, a workspace opens. Its root is the text in normal form and is current at first, and opening
the root again gives the same workspace, in whatever folder the process is then. -/
theorem open?_normalizes {processFolder text : Path} (hfolder : processFolder.IsNormalFolder)
    (htext : text.text.toList ≠ []) :
    ∃ workspace, Workspace.open? processFolder text = .ok workspace ∧
      Path.NormalizesTo processFolder text workspace.root ∧ workspace.cwd = workspace.root ∧
      ∀ other, Workspace.open? other workspace.root = .ok workspace := by
  obtain ⟨root, hroot, hform⟩ := Path.exists_normalizesTo (fun _ => hfolder) htext
  refine ⟨⟨root, root⟩, ?_, hform, rfl, fun other => ?_⟩
  · simp only [Workspace.open?, hroot]
  · simp only [Workspace.open?, Path.absolute?_of_isNormal hform.normal other]

/-- Dots and repeated slashes go, `..` and the slash at the end stay. -/
theorem open?_normalizes_of_untidy_text :
    Path.IsNormalFolder ⟨"/home/ci"⟩ ∧ (Path.mk ".//../proj/./sub//").text.toList ≠ [] ∧
      Workspace.open? ⟨"/home/ci"⟩ ⟨".//../proj/./sub//"⟩ =
        .ok ⟨⟨"/home/ci/../proj/sub/"⟩, ⟨"/home/ci/../proj/sub/"⟩⟩ ∧
      Path.NormalizesTo ⟨"/home/ci"⟩ ⟨".//../proj/./sub//"⟩ ⟨"/home/ci/../proj/sub/"⟩ ∧
      ∀ other, Workspace.open? other ⟨"/home/ci/../proj/sub/"⟩ =
        .ok ⟨⟨"/home/ci/../proj/sub/"⟩, ⟨"/home/ci/../proj/sub/"⟩⟩ := by
  have hfolder : Path.IsNormalFolder ⟨"/home/ci"⟩ :=
    ⟨⟨by decide, by decide, by decide⟩, by decide⟩
  have htext : (Path.mk ".//../proj/./sub//").text.toList ≠ [] := by decide
  have hopen : Workspace.open? ⟨"/home/ci"⟩ ⟨".//../proj/./sub//"⟩ =
      .ok ⟨⟨"/home/ci/../proj/sub/"⟩, ⟨"/home/ci/../proj/sub/"⟩⟩ := by decide
  obtain ⟨workspace, hworkspace, hform, -, hagain⟩ := open?_normalizes hfolder htext
  cases hworkspace.symm.trans hopen
  exact ⟨hfolder, htext, hopen, hform, hagain⟩

/-- A text that names nothing but the root gets the root's slash, though it ends in a dot. -/
theorem open?_adds_slash_to_root :
    Path.IsNormalFolder ⟨"/project"⟩ ∧ (Path.mk "/.").text.toList ≠ [] ∧
      ¬∃ workspace, Workspace.open? ⟨"/project"⟩ ⟨"/."⟩ = .ok workspace ∧
        (workspace.root.endsInSlash = true ↔ (Path.mk "/.").endsInSlash = true) := by
  have hopen : Workspace.open? ⟨"/project"⟩ ⟨"/."⟩ = .ok ⟨⟨"/"⟩, ⟨"/"⟩⟩ := by decide
  refine ⟨⟨⟨by decide, by decide, by decide⟩, by decide⟩, by decide, ?_⟩
  intro h
  obtain ⟨workspace, hworkspace, hslash⟩ := h
  cases hworkspace.symm.trans hopen
  exact absurd (hslash.mp (by decide)) (by decide)

end Workspace

end ReleasePipeline
