import ReleasePipeline.Text.Blank
import ReleasePipeline.Text.Hex
import ReleasePipeline.Text.Quoted

/-!
# ReleasePipeline.Proofs.Text.Quoted

A quoted text keeps to its line and can be told from what stands around it. Only characters that
print are left in it (`prints_of_mem_quoteChars`), and these are neither controls nor white
space but for the space. And it ends where it says: `readEscape?` takes one escaped character off the
front of any characters, so no escape is the beginning of another, and two lines that start with a
quoted text start with the same one (`quoteChars_append_inj`).
-/

namespace ReleasePipeline.Text

/-! ### Separators -/

/-- What may follow a token that ends at a separator: nothing, or something that starts with it. -/
def EndsToken (separator : Char) (xs : List Char) : Prop :=
  ∀ c ∈ xs.head?, c = separator

/-- A token without the separator in it is told from what follows it. -/
theorem token_append_inj {separator : Char} {token other xs ys : List Char}
    (htoken : separator ∉ token) (hother : separator ∉ other) (hxs : EndsToken separator xs)
    (hys : EndsToken separator ys) (h : token ++ xs = other ++ ys) : token = other ∧ xs = ys := by
  have htake : ∀ {cs rest : List Char}, separator ∉ cs → EndsToken separator rest →
      (cs ++ rest).takeWhile (· ≠ separator) = cs := by
    intro cs rest hcs hrest
    have hend : rest.takeWhile (· ≠ separator) = [] := by
      cases rest with
      | nil => rfl
      | cons c rest => simp [hrest c rfl]
    rw [List.takeWhile_append_of_pos, hend, List.append_nil]
    intro c hc
    exact decide_eq_true fun heq => hcs (heq ▸ hc)
  have heq := htake htoken hxs
  rw [h, htake hother hys] at heq
  subst heq
  exact ⟨rfl, List.append_cancel_left h⟩

/-! ### Characters that print -/

/-- A printing character of ASCII. -/
def isPrintingAscii (c : Char) : Bool :=
  0x20 ≤ c.toNat ∧ c.toNat < 0x7F

/-- No range of characters that are escaped reaches into printing ASCII. -/
theorem prints_ascii {c : Char} (h : isPrintingAscii c = true) : isUnprintable c = false := by
  have hranges : ∀ range ∈ unprintableRanges, range.2 < 0x20 ∨ 0x7F ≤ range.1 := by decide +kernel
  have hascii : 0x20 ≤ c.toNat ∧ c.toNat < 0x7F := of_decide_eq_true h
  rw [← Bool.not_eq_true, isUnprintable, isWithin_iff]
  rintro ⟨range, hrange, hin⟩
  have hout := hranges range hrange
  omega

/-- White space other than the space is written as an escape. -/
theorem isUnprintable_of_isBlank {c : Char} (h : isBlank c = true) (hne : c ≠ ' ') :
    isUnprintable c = true := by
  have hblanks : ∀ n ∈ blanks, n = 0x20 ∨
      ∃ range ∈ unprintableRanges, range.1 ≤ n ∧ n ≤ range.2 := by decide +kernel
  refine isWithin_iff.mpr ((hblanks c.toNat (by simpa [isBlank] using h)).resolve_left fun hspace => ?_)
  exact hne (Char.toNat_inj.mp hspace)

/-- A control character: of the general category `Cc`. -/
def IsControl (c : Char) : Prop :=
  c.toNat < 0x20 ∨ 0x7F ≤ c.toNat ∧ c.toNat < 0xA0

theorem isUnprintable_of_isControl {c : Char} (h : IsControl c) : isUnprintable c = true := by
  refine isWithin_iff.mpr ?_
  rcases h with h | h
  · exact ⟨(0x0, 0x1F), by decide +kernel, by omega⟩
  · exact ⟨(0x7F, 0xA0), by decide +kernel, by omega⟩

/-! ### Hexadecimal numbers -/

/-- The number that hexadecimal digits spell. -/
def hexNumber? (digits : List Char) : Option Nat :=
  digits.foldlM (fun n c => (hexValue? c).map (n * 16 + ·)) 0

/-- The digits of a number are those of the part above its last digit, and that digit. -/
theorem hexDigits_induction {P : Nat → List Char → Prop}
    (hlast : ∀ n < 16, P n [Nat.digitChar n])
    (hmore : ∀ n digits, P n digits → ∀ k < 16, P (n * 16 + k) (digits ++ [Nat.digitChar k]))
    (n : Nat) : P n (Nat.toDigits 16 n) := by
  induction n using Nat.strongRecOn with
  | ind n ih =>
      by_cases h : n < 16
      · rw [Nat.toDigits_of_lt_base h]
        exact hlast n h
      · rw [Nat.toDigits_of_base_le (by decide) (Nat.le_of_not_lt h)]
        have hstep := hmore (n / 16) _ (ih (n / 16) (by omega)) (n % 16) (by omega)
        rwa [show n / 16 * 16 + n % 16 = n by omega] at hstep

theorem hexNumber?_toDigits (n : Nat) : hexNumber? (Nat.toDigits 16 n) = some n := by
  induction n using hexDigits_induction with
  | hlast n h => simp [hexNumber?, hexValue?_digitChar h]
  | hmore n digits ih k h =>
      rw [hexNumber?] at ih
      simp [hexNumber?, List.foldlM_append, ih, hexValue?_digitChar h]

theorem exists_digit_of_mem_hexCode {c d : Char} (h : d ∈ hexCode c) :
    ∃ k < 16, d = Nat.digitChar k := by
  unfold hexCode at h
  generalize c.toNat = n at h
  induction n using hexDigits_induction with
  | hlast n hn => exact ⟨n, hn, List.mem_singleton.mp h⟩
  | hmore n digits ih k hk =>
      rcases List.mem_append.mp h with h | h
      · exact ih h
      · exact ⟨k, hk, List.mem_singleton.mp h⟩

theorem printing_digitChar {k : Nat} (h : k < 16) :
    isPrintingAscii (Nat.digitChar k) = true ∧ Nat.digitChar k ≠ '\x7d' := by
  have hall : ∀ k : Fin 16,
      isPrintingAscii (Nat.digitChar k) = true ∧ Nat.digitChar k ≠ '\x7d' := by decide
  exact hall ⟨k, h⟩

/-! ### Escapes -/

/-- The character that a letter after a backslash stands for. -/
def letterMeaning? (letter : Char) : Option Char :=
  [('"', '"'), ('\\', '\\'), ('n', '\n'), ('r', '\r'), ('t', '\t'), ('0', '\x00')].lookup letter

/-- The escaped character at the front of some characters, and what follows it. A quote that is not
escaped is no character but the end of a text. -/
def readEscape? : List Char → Option (Char × List Char)
  | '\\' :: 'u' :: '\x7b' :: rest =>
    (hexNumber? (rest.takeWhile (· ≠ '\x7d'))).map fun code =>
      (Char.ofNat code, (rest.dropWhile (· ≠ '\x7d')).tail)
  | '\\' :: letter :: rest => (letterMeaning? letter).map fun c => (c, rest)
  | c :: rest => if c = '"' ∨ c = '\\' then none else some (c, rest)
  | [] => none

theorem readEscape?_letter {letter c : Char} (h : letterMeaning? letter = some c)
    (rest : List Char) : readEscape? ('\\' :: letter :: rest) = some (c, rest) := by
  have hu : letter ≠ 'u' := by
    rintro rfl
    cases h
  rw [readEscape?]
  · rw [h, Option.map_some]
  · simp [hu]

theorem readEscape?_code (c : Char) (rest : List Char) :
    readEscape? ('\\' :: 'u' :: '\x7b' :: (hexCode c ++ '\x7d' :: rest)) = some (c, rest) := by
  have hdigits : ∀ d ∈ hexCode c, (decide (d ≠ '\x7d')) = true := by
    intro d hd
    obtain ⟨k, hk, rfl⟩ := exists_digit_of_mem_hexCode hd
    exact decide_eq_true (printing_digitChar hk).2
  rw [readEscape?, List.takeWhile_append_of_pos hdigits, List.dropWhile_append_of_pos hdigits]
  simp [hexCode, hexNumber?_toDigits]

theorem readEscape?_plain {c : Char} (hquote : c ≠ '"') (hslash : c ≠ '\\') (rest : List Char) :
    readEscape? (c :: rest) = some (c, rest) := by
  simp [readEscape?, hquote, hslash]

/-- The three ways in which a character stands between quotes. -/
theorem escape_cases (c : Char) :
    (∃ letter ∈ ['"', '\\', 'n', 'r', 't', '0'],
      letterMeaning? letter = some c ∧ escape c = ['\\', letter]) ∨
    escape c = '\\' :: 'u' :: '\x7b' :: (hexCode c ++ ['\x7d']) ∨
    escape c = [c] ∧ c ≠ '"' ∧ c ≠ '\\' ∧ isUnprintable c = false := by
  -- The characters with a letter of their own, in the order in which they are looked for.
  by_cases hquote : c = '"'
  · subst hquote; exact .inl ⟨'"', by decide, rfl, rfl⟩
  by_cases hslash : c = '\\'
  · subst hslash; exact .inl ⟨'\\', by decide, rfl, rfl⟩
  by_cases hline : c = '\n'
  · subst hline; exact .inl ⟨'n', by decide, rfl, rfl⟩
  by_cases hreturn : c = '\r'
  · subst hreturn; exact .inl ⟨'r', by decide, rfl, rfl⟩
  by_cases htab : c = '\t'
  · subst htab; exact .inl ⟨'t', by decide, rfl, rfl⟩
  by_cases hnul : c = '\x00'
  · subst hnul; exact .inl ⟨'0', by decide, rfl, rfl⟩
  cases hprints : isUnprintable c with
  | true =>
      refine .inr (.inl ?_)
      simp [escape, hquote, hslash, hline, hreturn, htab, hnul, hprints]
  | false =>
      refine .inr (.inr ⟨?_, hquote, hslash, rfl⟩)
      simp [escape, hquote, hslash, hline, hreturn, htab, hnul, hprints]

/-- Reading undoes escaping, whatever follows. -/
theorem readEscape?_escape (c : Char) (rest : List Char) :
    readEscape? (escape c ++ rest) = some (c, rest) := by
  rcases escape_cases c with ⟨letter, -, hletter, hc⟩ | hc | ⟨hc, hquote, hslash, -⟩
  · rw [hc]
    exact readEscape?_letter hletter rest
  · rw [hc, List.cons_append, List.cons_append, List.cons_append, List.append_assoc]
    exact readEscape?_code c rest
  · rw [hc]
    exact readEscape?_plain hquote hslash rest

theorem escape_append_inj {c d : Char} {xs ys : List Char} (h : escape c ++ xs = escape d ++ ys) :
    c = d ∧ xs = ys := by
  have hread := readEscape?_escape c xs
  rw [h, readEscape?_escape, Option.some.injEq, Prod.mk.injEq] at hread
  exact ⟨hread.1.symm, hread.2.symm⟩

theorem escape_append_ne_quote (c : Char) (xs ys : List Char) : escape c ++ xs ≠ '"' :: ys := by
  intro h
  have hread := readEscape?_escape c xs
  rw [h] at hread
  simp [readEscape?] at hread

/-! ### Quoted texts -/

/-- A quoted text is told from what follows it. -/
theorem quoteChars_append_inj {text other xs ys : List Char}
    (h : quoteChars text ++ xs = quoteChars other ++ ys) : text = other ∧ xs = ys := by
  simp only [quoteChars, List.cons_append, List.append_assoc, List.nil_append,
    List.cons.injEq, true_and] at h
  induction text generalizing other with
  | nil =>
      cases other with
      | nil => exact ⟨rfl, (List.cons.inj h).2⟩
      | cons d other =>
          rw [List.flatMap_cons, List.append_assoc] at h
          exact (escape_append_ne_quote _ _ _ h.symm).elim
  | cons c text ih =>
      cases other with
      | nil =>
          rw [List.flatMap_cons, List.append_assoc] at h
          exact (escape_append_ne_quote _ _ _ h).elim
      | cons d other =>
          rw [List.flatMap_cons, List.flatMap_cons, List.append_assoc, List.append_assoc] at h
          obtain ⟨rfl, hrest⟩ := escape_append_inj h
          obtain ⟨rfl, htail⟩ := ih hrest
          exact ⟨rfl, htail⟩

/-- What stands between quotes prints. -/
theorem prints_of_mem_escape {c d : Char} (h : d ∈ escape c) : isUnprintable d = false := by
  rcases escape_cases c with ⟨letter, hmem, -, hc⟩ | hc | ⟨hc, -, -, hprints⟩
  · have hletters : ['"', '\\', 'n', 'r', 't', '0'].all isPrintingAscii = true := by decide
    simp only [hc, List.mem_cons, List.not_mem_nil, or_false] at h
    rcases h with rfl | rfl
    · exact prints_ascii (by decide)
    · exact prints_ascii (List.all_eq_true.mp hletters d hmem)
  · simp only [hc, List.mem_cons, List.mem_append, List.not_mem_nil, or_false] at h
    rcases h with rfl | rfl | rfl | h | rfl
    · exact prints_ascii (by decide)
    · exact prints_ascii (by decide)
    · exact prints_ascii (by decide)
    · obtain ⟨k, hk, rfl⟩ := exists_digit_of_mem_hexCode h
      exact prints_ascii (printing_digitChar hk).1
    · exact prints_ascii (by decide)
  · rw [hc, List.mem_singleton] at h
    rwa [h]

theorem prints_of_mem_quoteChars {text : List Char} {c : Char} (h : c ∈ quoteChars text) :
    isUnprintable c = false := by
  simp only [quoteChars, List.cons_append, List.mem_cons, List.mem_append, List.mem_flatMap,
    List.not_mem_nil, or_false] at h
  rcases h with rfl | ⟨d, -, hd⟩ | rfl
  · exact prints_ascii (by decide)
  · exact prints_of_mem_escape hd
  · exact prints_ascii (by decide)

end ReleasePipeline.Text
