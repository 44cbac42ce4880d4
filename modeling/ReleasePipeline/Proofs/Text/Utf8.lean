import Mathlib.Data.List.Basic
import ReleasePipeline.Text.Utf8

/-!
# ReleasePipeline.Proofs.Text.Utf8

The readers of bytes against their writer. The relation `Spells` says what the pieces of a byte
string are without the machine that finds them: encoded characters, bytes that begin no character,
and the beginnings of a character that break off, each taken as far as it goes. The machine finds
exactly such pieces (`spells_pieces`), so

* `decode?` gives a text if and only if the bytes are its encoding (`decode?_eq_some_iff`);
* `decodeLossy` keeps encoded characters and marks each broken piece once.

The machine is followed over one character. `Waits` is what holds while it does: which bytes it has
taken, and that the ranges it asks for lead to the end of some character. That no other byte would do
needs no look at the ranges, since the machine reads every encoded character
(`pieces_encodeChar_append`).
-/

namespace ReleasePipeline.Utf8

/-! ### What bytes spell -/

/-- Bytes that an encoded character starts with. -/
def Begins (run : Bytes) : Prop :=
  ∃ c rest, String.utf8EncodeChar c = run ++ rest

/-- The pieces of a byte string, `none` for a broken one. A piece that breaks off goes on for as long
as its bytes begin a character. -/
inductive Spells : Bytes → List (Option Char) → Prop where
  | nil : Spells [] []
  | character (c : Char) (h : Spells rest found) :
    Spells (String.utf8EncodeChar c ++ rest) (some c :: found)
  | stray (hbyte : ¬Begins [byte]) (h : Spells rest found) : Spells (byte :: rest) (none :: found)
  | cut (hne : run ≠ []) (hbegins : ∃ byte, Begins (run ++ [byte]))
    (hends : ∀ byte more, rest = byte :: more → ¬Begins (run ++ [byte])) (h : Spells rest found) :
    Spells (run ++ rest) (none :: found)

/-! ### First bytes -/

theorem first_ascii {b : UInt8} (h : b.toNat < 0x80) :
    first b = ([some (Char.ofNat b.toNat)], .start) := by
  simp only [first, UInt8.lt_iff_toNat_lt, ← UInt8.toNat_inj, UInt8.reduceToNat]
  rw [if_pos h]

theorem first_stray {b : UInt8} (h : 0x80 ≤ b.toNat ∧ b.toNat < 0xC2 ∨ 0xF4 < b.toNat) :
    first b = ([none], .start) := by
  simp only [first, UInt8.lt_iff_toNat_lt, ← UInt8.toNat_inj, UInt8.reduceToNat]
  rw [if_neg (by omega)]
  by_cases hlow : b.toNat < 0xC2
  · rw [if_pos hlow]
  · rw [if_neg hlow, if_neg (by omega), if_neg (by omega), if_neg (by omega), if_neg (by omega),
      if_neg (by omega), if_neg (by omega), if_neg (by omega)]

theorem first_two {b : UInt8} (h : 0xC2 ≤ b.toNat) (h' : b.toNat < 0xE0) :
    first b = ([], .tail 0 0x80 0xBF (b.toNat - 0xC0)) := by
  simp only [first, UInt8.lt_iff_toNat_lt, ← UInt8.toNat_inj, UInt8.reduceToNat]
  rw [if_neg (by omega), if_neg (by omega), if_pos h']

/-- The lowest second byte that keeps out a code point which fewer bytes can hold, and the highest
one that keeps out the surrogates. -/
theorem first_three {b : UInt8} (h : 0xE0 ≤ b.toNat) (h' : b.toNat < 0xF0) :
    first b = ([], .tail 1 (if b.toNat = 0xE0 then 0xA0 else 0x80)
      (if b.toNat = 0xED then 0x9F else 0xBF) (b.toNat - 0xE0)) := by
  simp only [first, UInt8.lt_iff_toNat_lt, ← UInt8.toNat_inj, UInt8.reduceToNat]
  rw [if_neg (by omega), if_neg (by omega), if_neg (by omega)]
  by_cases hlow : b.toNat = 0xE0
  · simp [hlow]
  · by_cases hhigh : b.toNat = 0xED
    · simp [hhigh]
    · rw [if_neg hlow, if_neg hhigh, if_pos h', if_neg hlow, if_neg hhigh]

theorem first_four {b : UInt8} (h : 0xF0 ≤ b.toNat) (h' : b.toNat ≤ 0xF4) :
    first b = ([], .tail 2 (if b.toNat = 0xF0 then 0x90 else 0x80)
      (if b.toNat = 0xF4 then 0x8F else 0xBF) (b.toNat - 0xF0)) := by
  simp only [first, UInt8.lt_iff_toNat_lt, ← UInt8.toNat_inj, UInt8.reduceToNat]
  rw [if_neg (by omega), if_neg (by omega), if_neg (by omega), if_neg (by omega),
    if_neg (by omega), if_neg (by omega)]
  by_cases hlow : b.toNat = 0xF0
  · simp [hlow]
  · by_cases hhigh : b.toNat = 0xF4
    · simp [hhigh]
    · rw [if_neg hlow, if_pos (by omega), if_neg hlow, if_neg hhigh]

/-! ### Bytes inside a character -/

/-- Bytes that only continue a character. -/
def IsTail (b : UInt8) : Prop :=
  0x80 ≤ b.toNat ∧ b.toNat ≤ 0xBF

theorem pieces_cons (b : UInt8) (rest : Bytes) :
    pieces (b :: rest) = (first b).1 ++ piecesFrom (first b).2 rest :=
  rfl

theorem piecesFrom_tail_last {low high b : UInt8} (h : low ≤ b ∧ b ≤ high) (code : Nat)
    (rest : Bytes) :
    piecesFrom (.tail 0 low high code) (b :: rest) =
      some (Char.ofNat (code * 64 + (b.toNat - 0x80))) :: pieces rest := by
  simp only [piecesFrom, step, if_pos h]
  rfl

theorem piecesFrom_tail_more {low high b : UInt8} (h : low ≤ b ∧ b ≤ high) (more code : Nat)
    (rest : Bytes) :
    piecesFrom (.tail (more + 1) low high code) (b :: rest) =
      piecesFrom (.tail more 0x80 0xBF (code * 64 + (b.toNat - 0x80))) rest := by
  simp only [piecesFrom, step, if_pos h]
  rfl

theorem piecesFrom_tail_cut {low high b : UInt8} (h : ¬(low ≤ b ∧ b ≤ high)) (more code : Nat)
    (rest : Bytes) :
    piecesFrom (.tail more low high code) (b :: rest) = none :: pieces (b :: rest) := by
  simp only [piecesFrom, step, if_neg h]
  rfl

/-! ### Encoded characters

Characters of each length are read off the front of any bytes, and are written as they were read. -/

theorem isTail_iff {b : UInt8} : IsTail b ↔ 0x80 ≤ b ∧ b ≤ 0xBF := by
  simp only [IsTail, UInt8.le_iff_toNat_le, UInt8.reduceToNat]

/-- Second bytes of a character of three. The lowest ones keep out a code point that two bytes can
hold, and the highest ones the surrogates. -/
def IsSecondOfThree (b second : UInt8) : Prop :=
  IsTail second ∧ (b.toNat = 0xE0 → 0xA0 ≤ second.toNat) ∧ (b.toNat = 0xED → second.toNat ≤ 0x9F)

/-- Second bytes of a character of four, between the code points that three bytes can hold and those
past the last one. -/
def IsSecondOfFour (b second : UInt8) : Prop :=
  IsTail second ∧ (b.toNat = 0xF0 → 0x90 ≤ second.toNat) ∧ (b.toNat = 0xF4 → second.toNat ≤ 0x8F)

theorem isSecondOfThree_iff {b second : UInt8} :
    IsSecondOfThree b second ↔ (if b.toNat = 0xE0 then 0xA0 else 0x80) ≤ second ∧
      second ≤ (if b.toNat = 0xED then 0x9F else 0xBF) := by
  simp only [IsSecondOfThree, IsTail, UInt8.le_iff_toNat_le, apply_ite UInt8.toNat,
    UInt8.reduceToNat]
  split <;> split <;> omega

theorem isSecondOfFour_iff {b second : UInt8} :
    IsSecondOfFour b second ↔ (if b.toNat = 0xF0 then 0x90 else 0x80) ≤ second ∧
      second ≤ (if b.toNat = 0xF4 then 0x8F else 0xBF) := by
  simp only [IsSecondOfFour, IsTail, UInt8.le_iff_toNat_le, apply_ite UInt8.toNat,
    UInt8.reduceToNat]
  split <;> split <;> omega

section Lengths

variable {b second third fourth : UInt8}

theorem pieces_two (h : 0xC2 ≤ b.toNat) (h' : b.toNat < 0xE0) (hsecond : IsTail second)
    (rest : Bytes) :
    pieces (b :: second :: rest) =
      some (Char.ofNat ((b.toNat - 0xC0) * 64 + (second.toNat - 0x80))) :: pieces rest := by
  rw [pieces_cons, first_two h h', List.nil_append, piecesFrom_tail_last (isTail_iff.mp hsecond)]

theorem pieces_three (h : 0xE0 ≤ b.toNat) (h' : b.toNat < 0xF0) (hsecond : IsSecondOfThree b second)
    (hthird : IsTail third) (rest : Bytes) :
    pieces (b :: second :: third :: rest) =
      some (Char.ofNat (((b.toNat - 0xE0) * 64 + (second.toNat - 0x80)) * 64 +
        (third.toNat - 0x80))) :: pieces rest := by
  rw [pieces_cons, first_three h h', List.nil_append,
    piecesFrom_tail_more (isSecondOfThree_iff.mp hsecond),
    piecesFrom_tail_last (isTail_iff.mp hthird)]

theorem pieces_four (h : 0xF0 ≤ b.toNat) (h' : b.toNat ≤ 0xF4) (hsecond : IsSecondOfFour b second)
    (hthird : IsTail third) (hfourth : IsTail fourth) (rest : Bytes) :
    pieces (b :: second :: third :: fourth :: rest) =
      some (Char.ofNat ((((b.toNat - 0xF0) * 64 + (second.toNat - 0x80)) * 64 +
        (third.toNat - 0x80)) * 64 + (fourth.toNat - 0x80))) :: pieces rest := by
  rw [pieces_cons, first_four h h', List.nil_append,
    piecesFrom_tail_more (isSecondOfFour_iff.mp hsecond),
    piecesFrom_tail_more (isTail_iff.mp hthird), piecesFrom_tail_last (isTail_iff.mp hfourth)]

end Lengths

theorem encodeChar_one {c : Char} (h : c.toNat < 0x80) :
    String.utf8EncodeChar c = [UInt8.ofNat c.toNat] := by
  rw [String.utf8EncodeChar]
  exact if_pos (Nat.le_of_lt_succ h)

theorem encodeChar_two {c : Char} (h : 0x80 ≤ c.toNat) (h' : c.toNat < 0x800) :
    String.utf8EncodeChar c =
      [UInt8.ofNat (c.toNat / 64 % 32 + 192), UInt8.ofNat (c.toNat % 64 + 128)] := by
  rw [String.utf8EncodeChar]
  exact (if_neg (Nat.not_le.mpr h)).trans (if_pos (Nat.le_of_lt_succ h'))

theorem encodeChar_three {c : Char} (h : 0x800 ≤ c.toNat) (h' : c.toNat < 0x10000) :
    String.utf8EncodeChar c =
      [UInt8.ofNat (c.toNat / 4096 % 16 + 224), UInt8.ofNat (c.toNat / 64 % 64 + 128),
        UInt8.ofNat (c.toNat % 64 + 128)] := by
  rw [String.utf8EncodeChar]
  exact (if_neg (by change ¬c.toNat ≤ 127; omega)).trans
    ((if_neg (Nat.not_le.mpr h)).trans (if_pos (Nat.le_of_lt_succ h')))

theorem encodeChar_four {c : Char} (h : 0x10000 ≤ c.toNat) :
    String.utf8EncodeChar c =
      [UInt8.ofNat (c.toNat / 262144 % 8 + 240), UInt8.ofNat (c.toNat / 4096 % 64 + 128),
        UInt8.ofNat (c.toNat / 64 % 64 + 128), UInt8.ofNat (c.toNat % 64 + 128)] := by
  rw [String.utf8EncodeChar]
  exact (if_neg (by change ¬c.toNat ≤ 127; omega)).trans
    ((if_neg (by change ¬c.toNat ≤ 2047; omega)).trans (if_neg (Nat.not_le.mpr h)))

/-- The reader takes an encoded character off the front of any bytes. -/
theorem pieces_encodeChar_append (c : Char) (rest : Bytes) :
    pieces (String.utf8EncodeChar c ++ rest) = some c :: pieces rest := by
  have hvalid : c.toNat < 0xD800 ∨ 0xDFFF < c.toNat ∧ c.toNat < 0x110000 := c.valid
  have hcode : ∀ n, n = c.toNat → Char.ofNat n = c := by
    rintro n rfl
    exact Char.ofNat_toNat c
  have hbyte : ∀ n, (UInt8.ofNat n).toNat = n % 256 := fun n => UInt8.toNat_ofNat'
  by_cases hone : c.toNat < 0x80
  · rw [encodeChar_one hone, List.singleton_append, pieces_cons, first_ascii (by rw [hbyte]; omega),
      hcode _ (by rw [hbyte]; omega)]
    rfl
  by_cases htwo : c.toNat < 0x800
  · rw [encodeChar_two (by omega) htwo]
    refine (pieces_two ?_ ?_ ?_ rest).trans ?_
    all_goals simp only [IsTail, hbyte]
    · omega
    · omega
    · omega
    · rw [hcode _ (by omega)]
  by_cases hthree : c.toNat < 0x10000
  · rw [encodeChar_three (by omega) hthree]
    refine (pieces_three ?_ ?_ ?_ ?_ rest).trans ?_
    all_goals simp only [IsSecondOfThree, IsTail, hbyte]
    · omega
    · omega
    · omega
    · omega
    · rw [hcode _ (by omega)]
  · rw [encodeChar_four (by omega)]
    refine (pieces_four ?_ ?_ ?_ ?_ ?_ rest).trans ?_
    all_goals simp only [IsSecondOfFour, IsTail, hbyte]
    · omega
    · omega
    · omega
    · omega
    · omega
    · rw [hcode _ (by omega)]

theorem exists_char {n : Nat} (h : n.isValidChar) : ∃ c : Char, c.toNat = n :=
  ⟨Char.ofNatAux n h, rfl⟩

section Lengths

variable {b second third fourth : UInt8}

theorem exists_encodeChar_two (h : 0xC2 ≤ b.toNat) (h' : b.toNat < 0xE0) (hsecond : IsTail second) :
    ∃ c, String.utf8EncodeChar c = [b, second] := by
  unfold IsTail at hsecond
  obtain ⟨c, hc⟩ := exists_char (n := (b.toNat - 0xC0) * 64 + (second.toNat - 0x80)) (by omega)
  refine ⟨c, ?_⟩
  rw [encodeChar_two (by omega) (by omega)]
  simp only [List.cons.injEq, and_true, ← UInt8.toNat_inj, UInt8.toNat_ofNat']
  omega

theorem exists_encodeChar_three (h : 0xE0 ≤ b.toNat) (h' : b.toNat < 0xF0)
    (hsecond : IsSecondOfThree b second) (hthird : IsTail third) :
    ∃ c, String.utf8EncodeChar c = [b, second, third] := by
  unfold IsSecondOfThree at hsecond
  unfold IsTail at hsecond hthird
  obtain ⟨c, hc⟩ := exists_char (n := ((b.toNat - 0xE0) * 64 + (second.toNat - 0x80)) * 64 +
    (third.toNat - 0x80)) (by omega)
  refine ⟨c, ?_⟩
  rw [encodeChar_three (by omega) (by omega)]
  simp only [List.cons.injEq, and_true, ← UInt8.toNat_inj, UInt8.toNat_ofNat']
  omega

theorem exists_encodeChar_four (h : 0xF0 ≤ b.toNat) (h' : b.toNat ≤ 0xF4)
    (hsecond : IsSecondOfFour b second) (hthird : IsTail third) (hfourth : IsTail fourth) :
    ∃ c, String.utf8EncodeChar c = [b, second, third, fourth] := by
  unfold IsSecondOfFour at hsecond
  unfold IsTail at hsecond hthird hfourth
  obtain ⟨c, hc⟩ := exists_char (n := (((b.toNat - 0xF0) * 64 + (second.toNat - 0x80)) * 64 +
    (third.toNat - 0x80)) * 64 + (fourth.toNat - 0x80)) (by omega)
  refine ⟨c, ?_⟩
  rw [encodeChar_four (by omega)]
  simp only [List.cons.injEq, and_true, ← UInt8.toNat_inj, UInt8.toNat_ofNat']
  omega

end Lengths

/-! ### Inside a character -/

/-- The reader stands inside a character of which it has taken some bytes: it reads on from there,
and every byte that it asks for leads to the end of a character. -/
structure Waits (run : Bytes) (more : Nat) (low high : UInt8) (code : Nat) : Prop where
  ne_nil : run ≠ []
  reads : ∀ rest, pieces (run ++ rest) = piecesFrom (.tail more low high code) rest
  asks : low ≤ high
  completes : ∀ b tails, low ≤ b ∧ b ≤ high → tails.length = more → (∀ t ∈ tails, IsTail t) →
    ∃ c, String.utf8EncodeChar c = run ++ b :: tails

namespace Waits

variable {run : Bytes} {more code : Nat} {low high b : UInt8}

theorem exists_tails (more : Nat) : ∃ tails : Bytes, tails.length = more ∧ ∀ t ∈ tails, IsTail t :=
  ⟨List.replicate more 0x80, List.length_replicate, fun t ht => by
    rw [List.eq_of_mem_replicate ht]
    exact isTail_iff.mpr (by decide)⟩

theorem begins_append (h : Waits run more low high code) (hb : low ≤ b ∧ b ≤ high) :
    Begins (run ++ [b]) := by
  obtain ⟨tails, hlength, htails⟩ := exists_tails more
  obtain ⟨c, hc⟩ := h.completes b tails hb hlength htails
  exact ⟨c, tails, by rw [hc, List.append_assoc, List.singleton_append]⟩

/-- No other byte goes on: the reader would find a broken piece in an encoded character. -/
theorem not_begins_append (h : Waits run more low high code) (hb : ¬(low ≤ b ∧ b ≤ high)) :
    ¬Begins (run ++ [b]) := by
  rintro ⟨c, rest, hc⟩
  have hread := pieces_encodeChar_append c []
  rw [List.append_nil, hc, List.append_assoc, List.singleton_append, h.reads,
    piecesFrom_tail_cut hb] at hread
  cases hread

/-- A first byte after which the reader waits. -/
theorem of_first (hfirst : first b = ([], .tail more low high code)) (hasks : low ≤ high)
    (hcompletes : ∀ second tails, low ≤ second ∧ second ≤ high → tails.length = more →
      (∀ t ∈ tails, IsTail t) → ∃ c, String.utf8EncodeChar c = b :: second :: tails) :
    Waits [b] more low high code where
  ne_nil := List.cons_ne_nil b []
  reads rest := by rw [List.singleton_append, pieces_cons, hfirst, List.nil_append]
  asks := hasks
  completes := hcompletes

theorem next (h : Waits run (more + 1) low high code) (hb : low ≤ b ∧ b ≤ high) :
    Waits (run ++ [b]) more 0x80 0xBF (code * 64 + (b.toNat - 0x80)) where
  ne_nil := by simp
  reads rest := by
    rw [List.append_assoc, List.singleton_append, h.reads, piecesFrom_tail_more hb]
  asks := by decide
  completes t tails ht hlength htails := by
    have hall : ∀ u ∈ t :: tails, IsTail u := by
      intro u hu
      rcases List.mem_cons.mp hu with rfl | hu
      · exact isTail_iff.mpr ht
      · exact htails u hu
    obtain ⟨c, hc⟩ := h.completes b (t :: tails) hb (by rw [List.length_cons, hlength]) hall
    exact ⟨c, by rw [hc, List.append_assoc, List.singleton_append]⟩

end Waits

/-- What the first byte of a piece may be: a character of its own, one that begins no character, or
one after which the reader waits. -/
theorem first_cases (b : UInt8) :
    (∃ c, first b = ([some c], .start) ∧ String.utf8EncodeChar c = [b]) ∨
      first b = ([none], .start) ∧ ¬Begins [b] ∨
        ∃ more low high code, Waits [b] more low high code := by
  by_cases hascii : b.toNat < 0x80
  · obtain ⟨c, hc⟩ := exists_char (n := b.toNat) (by omega)
    refine .inl ⟨c, ?_, ?_⟩
    · rw [first_ascii hascii, ← hc, Char.ofNat_toNat]
    · rw [encodeChar_one (by omega), hc, UInt8.ofNat_toNat]
  by_cases hstray : b.toNat < 0xC2 ∨ 0xF4 < b.toNat
  · have hfirst : first b = ([none], .start) := first_stray (by omega)
    refine .inr (.inl ⟨hfirst, ?_⟩)
    rintro ⟨c, rest, hc⟩
    have hread := pieces_encodeChar_append c []
    rw [List.append_nil, hc, List.singleton_append, pieces_cons, hfirst] at hread
    cases hread
  refine .inr (.inr ?_)
  by_cases htwo : b.toNat < 0xE0
  · refine ⟨_, _, _, _, .of_first (first_two (by omega) htwo) (by decide) ?_⟩
    intro second tails hsecond hlength _
    obtain rfl := List.length_eq_zero_iff.mp hlength
    exact exists_encodeChar_two (by omega) htwo (isTail_iff.mpr hsecond)
  by_cases hthree : b.toNat < 0xF0
  · refine ⟨_, _, _, _, .of_first (first_three (by omega) hthree) ?_ ?_⟩
    · simp only [UInt8.le_iff_toNat_le, apply_ite UInt8.toNat, UInt8.reduceToNat]
      split <;> split <;> omega
    intro second tails hsecond hlength htails
    obtain ⟨third, rfl⟩ := List.length_eq_one_iff.mp hlength
    exact exists_encodeChar_three (by omega) hthree (isSecondOfThree_iff.mpr hsecond)
      (htails third (by simp))
  · refine ⟨_, _, _, _, .of_first (first_four (by omega) (by omega)) ?_ ?_⟩
    · simp only [UInt8.le_iff_toNat_le, apply_ite UInt8.toNat, UInt8.reduceToNat]
      split <;> split <;> omega
    intro second tails hsecond hlength htails
    obtain ⟨third, fourth, rfl⟩ := List.length_eq_two.mp hlength
    exact exists_encodeChar_four (by omega) (by omega) (isSecondOfFour_iff.mpr hsecond)
      (htails third (by simp)) (htails fourth (by simp))

/-! ### What is read -/

/-- Inside a character the reader finds its end or breaks off, and goes on behind it. The induction
is on the bytes that the character is short of. -/
theorem Waits.spells {rest : Bytes}
    (hrest : ∀ rest', rest'.length ≤ rest.length → Spells rest' (pieces rest')) :
    ∀ {more : Nat} {run : Bytes} {low high : UInt8} {code : Nat}, Waits run more low high code →
      Spells (run ++ rest) (piecesFrom (.tail more low high code) rest) := by
  induction rest with
  | nil =>
      intro more run low high code h
      exact .cut h.ne_nil ⟨low, h.begins_append ⟨UInt8.le_refl low, h.asks⟩⟩ nofun .nil
  | cons b rest ih =>
      intro more run low high code h
      by_cases hb : low ≤ b ∧ b ≤ high
      · cases more with
        | zero =>
            obtain ⟨c, hc⟩ := h.completes b [] hb rfl nofun
            have hread : piecesFrom (.tail 0 low high code) (b :: rest) = some c :: pieces rest := by
              rw [← h.reads, ← pieces_encodeChar_append, hc, List.append_assoc,
                List.singleton_append]
            rw [hread, List.append_cons, ← hc]
            exact .character c (hrest rest (Nat.le_succ _))
        | succ more =>
            rw [piecesFrom_tail_more hb, List.append_cons]
            exact ih (fun rest' hlength => hrest rest' (Nat.le_succ_of_le hlength)) (h.next hb)
      · rw [piecesFrom_tail_cut hb]
        refine .cut h.ne_nil ⟨low, h.begins_append ⟨UInt8.le_refl low, h.asks⟩⟩ ?_
          (hrest _ (Nat.le_refl _))
        rintro _ _ ⟨⟩
        exact h.not_begins_append hb

/-- **The pieces are those that the bytes spell.** -/
theorem spells_pieces (bytes : Bytes) : Spells bytes (pieces bytes) := by
  induction hlength : bytes.length using Nat.strongRecOn generalizing bytes with
  | ind n ih =>
      cases bytes with
      | nil => exact .nil
      | cons b rest =>
          have hrest : ∀ rest', rest'.length ≤ rest.length → Spells rest' (pieces rest') :=
            fun rest' h => ih rest'.length (by rw [← hlength, List.length_cons]; omega) rest' rfl
          rcases first_cases b with ⟨c, hfirst, hc⟩ | ⟨hfirst, hstray⟩ | ⟨_, _, _, _, hwaits⟩
          · have hspells := Spells.character c (hrest rest (Nat.le_refl _))
            rw [hc] at hspells
            rw [pieces_cons, hfirst]
            exact hspells
          · rw [pieces_cons, hfirst]
            exact .stray hstray (hrest rest (Nat.le_refl _))
          · have hspells := hwaits.spells hrest
            rw [← hwaits.reads] at hspells
            exact hspells

/-- A byte that begins no character, and a character of three bytes that breaks off after two. -/
example : pieces [0x31, 0xFF, 0xE2, 0x82, 0x61] = [some '1', none, none, some 'a'] := by
  decide

/-- Bytes without a broken piece are the encoding of what they spell. -/
theorem Spells.eq_encode {bytes : Bytes} {found : List (Option Char)} (h : Spells bytes found) :
    ∀ {cs : List Char}, found = cs.map some → bytes = cs.flatMap String.utf8EncodeChar := by
  induction h with
  | nil =>
      intro cs hcs
      rw [List.map_eq_nil_iff.mp hcs.symm]
      rfl
  | character c h ih =>
      intro cs hcs
      cases cs with
      | nil => cases hcs
      | cons d cs =>
          obtain ⟨hhead, htail⟩ := List.cons.inj hcs
          rw [Option.some.inj hhead, ih htail, List.flatMap_cons]
  | stray hbyte h ih =>
      intro cs hcs
      cases cs with
      | nil => cases hcs
      | cons d cs => exact nomatch (List.cons.inj hcs).1
  | cut hne hbegins hends h ih =>
      intro cs hcs
      cases cs with
      | nil => cases hcs
      | cons d cs => exact nomatch (List.cons.inj hcs).1

theorem pieces_encode (text : String) : pieces (encode text) = text.toList.map some := by
  unfold encode
  induction text.toList with
  | nil => rfl
  | cons c cs ih => rw [List.flatMap_cons, pieces_encodeChar_append, ih, List.map_cons]

theorem mapM_id_eq_some_iff {found : List (Option α)} {xs : List α} :
    found.mapM id = some xs ↔ found = xs.map some := by
  induction found generalizing xs with
  | nil => cases xs <;> simp
  | cons piece rest ih =>
      cases piece with
      | none => cases xs <;> simp
      | some x => cases xs <;> simp [Option.bind_eq_some_iff, ih, and_comm]

/-- **Bytes are read as a text exactly if they are its encoding.** -/
theorem decode?_eq_some_iff {bytes : Bytes} {text : String} :
    decode? bytes = some text ↔ bytes = encode text := by
  constructor
  · intro h
    obtain ⟨cs, hcs, rfl⟩ := Option.map_eq_some_iff.mp h
    rw [encode, String.toList_ofList]
    exact (spells_pieces bytes).eq_encode (mapM_id_eq_some_iff.mp hcs)
  · rintro rfl
    rw [decode?, mapM_id_eq_some_iff.mpr (pieces_encode text), Option.map_some,
      String.ofList_toList]

/-- A code point that takes more bytes than it needs, and a surrogate. -/
example : decode? [0xC0, 0x80] = none ∧ decode? [0xED, 0xA0, 0x80] = none := by
  decide

/-! ### Bytes that spell no text -/

/-- Whether bytes are the encoding of a text. -/
def IsText (bytes : Bytes) : Prop :=
  ∃ text, bytes = encode text

theorem isText_iff {bytes : Bytes} : IsText bytes ↔ (decode? bytes).isSome = true := by
  simp only [IsText, ← decode?_eq_some_iff, Option.isSome_iff_exists]

instance (bytes : Bytes) : Decidable (IsText bytes) :=
  decidable_of_iff _ isText_iff.symm

/-- A text that stands for bytes which spell none: what they do spell, with U+FFFD in place of each
broken piece. -/
def StandsFor (text : String) (bytes : Bytes) : Prop :=
  ∃ found, Spells bytes found ∧ none ∈ found ∧
    text = String.ofList (found.map (·.getD '\uFFFD'))

theorem exists_map_some {found : List (Option α)} (h : none ∉ found) :
    ∃ xs : List α, found = xs.map some := by
  induction found with
  | nil => exact ⟨[], rfl⟩
  | cons piece rest ih =>
      obtain ⟨hpiece, hrest⟩ := List.ne_and_not_mem_of_not_mem_cons h
      obtain ⟨xs, rfl⟩ := ih hrest
      obtain ⟨x, rfl⟩ := Option.ne_none_iff_exists'.mp hpiece.symm
      exact ⟨x :: xs, rfl⟩

theorem standsFor_decodeLossy {bytes : Bytes} (h : ¬IsText bytes) :
    StandsFor (decodeLossy bytes) bytes := by
  refine ⟨pieces bytes, spells_pieces bytes, Decidable.byContradiction fun hnone => h ?_, rfl⟩
  obtain ⟨cs, hcs⟩ := exists_map_some hnone
  rw [isText_iff, decode?, mapM_id_eq_some_iff.mpr hcs]
  rfl

end ReleasePipeline.Utf8
