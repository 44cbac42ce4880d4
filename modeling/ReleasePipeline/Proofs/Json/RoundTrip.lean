import ReleasePipeline.Json.Printer
import ReleasePipeline.Json.Reader

/-!
# ReleasePipeline.Proofs.Json.RoundTrip

What is printed is read back. The reader takes the printed form of a value off the front of any
characters and leaves what follows, so the statement composes: a string inside an object, an object
inside a list. It is proved for the values that hold texts only (`IsTextual`), that is without the
two forms that have no faithful print, and without numbers, which no record of this library has.

The printer and the reader disagree on what a control character is: it is written by number, and
read as a code unit that still has to be joined with its neighbours. `unitOf` is the unit in
between.
-/

namespace ReleasePipeline.Json

/-! ### Characters of a string -/

/-- The unit that a character is read as once it is escaped. Only a control character without a
letter of its own is written by number. -/
def unitOf (c : Char) : Unit16 :=
  if c.toNat < 0x20 ∧ c ∉ ['\x08', '\x0c', '\n', '\r', '\t'] then .code c.toNat else .char c

theorem readUnits_controlEscape {c : Char} (h : c.toNat < 0x20) (cs : List Char) :
    readUnits (controlEscape c ++ cs) =
      (readUnits cs).map fun read => (.code c.toNat :: read.1, read.2) := by
  have hzero : Text.hexValue? '0' = some 0 := by decide
  have hhigh : Text.hexValue? (Nat.digitChar (c.toNat / 16)) = some (c.toNat / 16) :=
    Text.hexValue?_digitChar (by omega)
  have hlow : Text.hexValue? (Nat.digitChar (c.toNat % 16)) = some (c.toNat % 16) :=
    Text.hexValue?_digitChar (by omega)
  have hvalue : c.toNat / 16 * 16 + c.toNat % 16 = c.toNat := by omega
  simp only [controlEscape, List.cons_append, List.nil_append, readUnits, hzero, hhigh, hlow]
  cases readUnits cs <;> simp [hvalue]

theorem readUnits_letter {letter c : Char} (h : letterEscape? letter = some c) (cs : List Char) :
    readUnits ('\\' :: letter :: cs) =
      (readUnits cs).map fun read => (.char c :: read.1, read.2) := by
  have hu : letter ≠ 'u' := by
    rintro rfl
    cases h
  rw [readUnits]
  · rw [h]
    cases readUnits cs <;> rfl
  · simp [hu]

theorem readUnits_plain {c : Char} (hquote : c ≠ '"') (hslash : c ≠ '\\')
    (hcontrol : ¬c.toNat < 0x20) (cs : List Char) :
    readUnits (c :: cs) = (readUnits cs).map fun read => (.char c :: read.1, read.2) := by
  simp [readUnits, hcontrol, hslash]

/-- Reading undoes escaping, one character at a time. -/
theorem readUnits_escape (c : Char) (cs : List Char) :
    readUnits (escape c ++ cs) =
      (readUnits cs).map fun read => (unitOf c :: read.1, read.2) := by
  -- The characters with a letter of their own, in the order in which the printer looks for them.
  by_cases hquote : c = '"'
  · subst hquote; exact readUnits_letter rfl cs
  by_cases hslash : c = '\\'
  · subst hslash; exact readUnits_letter rfl cs
  by_cases hback : c = '\x08'
  · subst hback; exact readUnits_letter rfl cs
  by_cases hfeed : c = '\x0c'
  · subst hfeed; exact readUnits_letter rfl cs
  by_cases hline : c = '\n'
  · subst hline; exact readUnits_letter rfl cs
  by_cases hreturn : c = '\r'
  · subst hreturn; exact readUnits_letter rfl cs
  by_cases htab : c = '\t'
  · subst htab; exact readUnits_letter rfl cs
  by_cases hcontrol : c.toNat < 0x20
  · simp only [escape, unitOf, hquote, hslash, hback, hfeed, hline, hreturn, htab, hcontrol, if_false,
      if_true, List.mem_cons, List.not_mem_nil, or_self, not_false_eq_true, and_self]
    exact readUnits_controlEscape hcontrol cs
  · simp only [escape, unitOf, hquote, hslash, hback, hfeed, hline, hreturn, htab, hcontrol, if_false,
      false_and, List.singleton_append]
    exact readUnits_plain hquote hslash hcontrol cs

/-- A code unit below the surrogates is a character by itself, whatever follows it. -/
theorem joinUnits_code {n : Nat} (h : n < 0xD800) (units : List Unit16) :
    joinUnits (.code n :: units) = (joinUnits units).map (Char.ofNat n :: ·) := by
  have hleading : isLeading n = false := by simp [isLeading]; omega
  have htrailing : isTrailing n = false := by simp [isTrailing]; omega
  cases units with
  | nil => simp [joinUnits, hleading, htrailing]
  | cons unit rest =>
      cases unit with
      | char c => simp [joinUnits, hleading, htrailing]
      | code m => simp [joinUnits, hleading, htrailing]

theorem joinUnits_map_unitOf (cs : List Char) : joinUnits (cs.map unitOf) = some cs := by
  induction cs with
  | nil => rfl
  | cons c rest ih =>
      rw [List.map_cons, unitOf]
      split
      · rename_i hcontrol
        rw [joinUnits_code (by omega), ih, Option.map_some, Char.ofNat_toNat]
      · simp [joinUnits, ih]

/-- A printed string is read back, with its quotes. -/
theorem readString_printText (text : String) (rest : List Char) :
    readString (text.toList.flatMap escape ++ '"' :: rest) = some (some text, rest) := by
  have hunits : ∀ cs : List Char,
      readUnits (cs.flatMap escape ++ '"' :: rest) = some (cs.map unitOf, rest) := by
    intro cs
    induction cs with
    | nil => rfl
    | cons c cs ih =>
        rw [List.flatMap_cons, List.append_assoc, readUnits_escape, ih]
        rfl
  simp only [readString, hunits, Option.map_some, joinUnits_map_unitOf, String.ofList_toList]

/-! ### Values of texts -/

mutual
/-- Whether a value is made of texts, truth values and null alone. -/
def Value.IsTextual : Value → Prop
  | .null => True
  | .bool _ => True
  | .number _ => False
  | .string text => text.isSome
  | .array items => AllTextual items
  | .object members => MembersTextual members

def AllTextual : List Value → Prop
  | [] => True
  | item :: rest => item.IsTextual ∧ AllTextual rest

def MembersTextual : List (Option String × Value) → Prop
  | [] => True
  | (name, value) :: rest => name.isSome ∧ value.IsTextual ∧ MembersTextual rest
end

@[simp] theorem Value.isTextual_text (content : String) : (Value.text content).IsTextual := by
  simp [Value.text, Value.IsTextual]

@[simp] theorem Value.isTextual_bool (value : Bool) : (Value.bool value).IsTextual := by
  simp [Value.IsTextual]

@[simp] theorem Value.isTextual_optionalText (content : Option String) :
    (Value.optionalText content).IsTextual := by
  cases content <;> simp [Value.optionalText, Value.IsTextual]

/-- A record is textual if its members are. -/
@[simp] theorem Value.isTextual_record (members : List (String × Value)) :
    (Value.record members).IsTextual ↔ ∀ member ∈ members, member.2.IsTextual := by
  simp only [Value.record, Value.IsTextual]
  induction members with
  | nil => simp [MembersTextual]
  | cons member rest ih => simp [MembersTextual, ih]

/-- Whether characters start with a token that closes nothing, so that a reader that looks for white
space or a closing bracket first is not diverted. -/
def StartsToken : List Char → Prop
  | [] => False
  | c :: _ => isSpace c = false ∧ c ≠ ']' ∧ c ≠ '\x7d'

theorem StartsToken.append {cs : List Char} (h : StartsToken cs) (rest : List Char) :
    StartsToken (cs ++ rest) := by
  cases cs with
  | nil => exact h.elim
  | cons c cs => exact h

theorem StartsToken.skipSpace_eq {cs : List Char} (h : StartsToken cs) : skipSpace cs = cs := by
  cases cs with
  | nil => exact h.elim
  | cons c cs => simp [skipSpace, h.1]

theorem startsToken_printText (text : String) : StartsToken (printText text) :=
  ⟨by decide, by decide, by decide⟩

theorem Value.startsToken_print {v : Value} (h : v.IsTextual) : StartsToken v.print := by
  cases v with
  | null => exact ⟨by decide, by decide, by decide⟩
  | bool value => cases value <;> exact ⟨by decide, by decide, by decide⟩
  | number digits => exact h.elim
  | string text => exact startsToken_printText _
  | array items => exact ⟨by decide, by decide, by decide⟩
  | object members => exact ⟨by decide, by decide, by decide⟩

theorem startsToken_printItems {items : List Value} (h : AllTextual items) (hne : items ≠ []) :
    StartsToken (printItems items) := by
  match items, h with
  | [], _ => exact absurd rfl hne
  | [item], h => exact Value.startsToken_print h.1
  | item :: _ :: _, h => exact (Value.startsToken_print h.1).append _

theorem startsToken_printMembers {members : List (Option String × Value)} (hne : members ≠ []) :
    StartsToken (printMembers members) := by
  match members with
  | [] => exact absurd rfl hne
  | [_] => exact (startsToken_printText _).append _
  | _ :: _ :: _ => exact ((startsToken_printText _).append _).append _

/-! ### Reading a value -/

theorem printText_append (text : String) (rest : List Char) :
    printText text ++ rest = '"' :: (text.toList.flatMap escape ++ '"' :: rest) := by
  simp [printText]

theorem readValue_printText (fuel : Nat) (text : String) (rest : List Char) :
    readValue (fuel + 1) (printText text ++ rest) = some (.text text, rest) := by
  have hspace : isSpace '"' = false := by decide
  rw [printText_append, readValue]
  simp [skipSpace, hspace, readString_printText, Value.text]

theorem readValue_bracket (fuel : Nat) {cs : List Char} (h : StartsToken cs) :
    readValue (fuel + 1) ('[' :: cs) =
      (readItems fuel cs).map fun read => (.array read.1, read.2) := by
  have hspace : isSpace '[' = false := by decide
  have hskip : skipSpace ('[' :: cs) = '[' :: cs := by simp [skipSpace, hspace]
  rw [readValue, hskip]
  cases cs with
  | nil => exact h.elim
  | cons c cs => simp [h.skipSpace_eq, h.2.1]

theorem readValue_brace (fuel : Nat) {cs : List Char} (h : StartsToken cs) :
    readValue (fuel + 1) ('\x7b' :: cs) =
      (readMembers fuel cs).map fun read => (.object read.1, read.2) := by
  have hspace : isSpace '\x7b' = false := by decide
  have hskip : skipSpace ('\x7b' :: cs) = '\x7b' :: cs := by simp [skipSpace, hspace]
  rw [readValue, hskip]
  cases cs with
  | nil => exact h.elim
  | cons c cs => simp [h.skipSpace_eq, h.2.2]

mutual
/-- The reader takes the printed form of a value off the front of any characters. The fuel that it
needs is bounded by what the value takes to print. -/
theorem readValue_print (v : Value) (h : v.IsTextual) (fuel : Nat) (rest : List Char)
    (hfuel : v.print.length ≤ fuel) : readValue fuel (v.print ++ rest) = some (v, rest) := by
  obtain ⟨fuel, rfl⟩ : ∃ k, fuel = k + 1 := by
    have hstarts := Value.startsToken_print h
    cases hprint : v.print with
    | nil => rw [hprint] at hstarts; exact hstarts.elim
    | cons c cs => exact ⟨fuel - 1, by simp [hprint] at hfuel; omega⟩
  cases v with
  | null => simp [Value.print, readValue, skipSpace, isSpace, afterWord?]
  | bool value => cases value <;> simp [Value.print, readValue, skipSpace, isSpace, afterWord?]
  | number digits => exact h.elim
  | string text =>
      obtain ⟨text, rfl⟩ := Option.isSome_iff_exists.mp h
      exact readValue_printText fuel text rest
  | array items =>
      by_cases hne : items = []
      · simp [hne, Value.print, printItems, readValue, skipSpace, isSpace]
      · have hitems := readItems_print items h hne fuel rest
          (by simp [Value.print] at hfuel; omega)
        simp only [Value.print, List.cons_append, List.append_assoc, List.nil_append]
        rw [readValue_bracket _ ((startsToken_printItems h hne).append _), hitems]
        rfl
  | object members =>
      by_cases hne : members = []
      · simp [hne, Value.print, printMembers, readValue, skipSpace, isSpace]
      · have hmembers := readMembers_print members h hne fuel rest
          (by simp [Value.print] at hfuel; omega)
        simp only [Value.print, List.cons_append, List.append_assoc, List.nil_append]
        rw [readValue_brace _ ((startsToken_printMembers hne).append _), hmembers]
        rfl

theorem readItems_print (items : List Value) (h : AllTextual items) (hne : items ≠ []) (fuel : Nat)
    (rest : List Char) (hfuel : (printItems items).length + 1 ≤ fuel) :
    readItems fuel (printItems items ++ ']' :: rest) = some (items, rest) := by
  obtain ⟨fuel, rfl⟩ : ∃ k, fuel = k + 1 := ⟨fuel - 1, by omega⟩
  match items, h with
  | [], _ => exact absurd rfl hne
  | [item], h =>
      have hitem := readValue_print item h.1 fuel (']' :: rest)
        (by simp [printItems] at hfuel; omega)
      simp [printItems, readItems, hitem, skipSpace, isSpace]
  | item :: next :: items, h =>
      have hitem := readValue_print item h.1 fuel
        (',' :: (printItems (next :: items) ++ ']' :: rest)) (by simp [printItems] at hfuel; omega)
      have hitems := readItems_print (next :: items) h.2 nofun fuel rest
        (by simp [printItems] at hfuel; omega)
      simp [printItems, readItems, hitem, hitems, skipSpace, isSpace]

theorem readMembers_print (members : List (Option String × Value)) (h : MembersTextual members)
    (hne : members ≠ []) (fuel : Nat) (rest : List Char)
    (hfuel : (printMembers members).length + 1 ≤ fuel) :
    readMembers fuel (printMembers members ++ '\x7d' :: rest) = some (members, rest) := by
  obtain ⟨fuel, rfl⟩ : ∃ k, fuel = k + 1 := ⟨fuel - 1, by omega⟩
  match members, h with
  | [], _ => exact absurd rfl hne
  | (none, _) :: _, h => exact absurd h.1 nofun
  | [(some name, value)], h =>
      have hvalue := readValue_print value h.2.1 fuel ('\x7d' :: rest)
        (by simp [printMembers] at hfuel; omega)
      simp [printMembers, printText_append, readMembers, readString_printText, hvalue, skipSpace,
        isSpace]
  | (some name, value) :: next :: members, h =>
      have hvalue := readValue_print value h.2.1 fuel
        (',' :: (printMembers (next :: members) ++ '\x7d' :: rest))
        (by simp [printMembers] at hfuel; omega)
      have hmembers := readMembers_print (next :: members) h.2.2 nofun fuel rest
        (by simp [printMembers] at hfuel; omega)
      simp [printMembers, printText_append, readMembers, readString_printText, hvalue, hmembers,
        skipSpace, isSpace]
end

/-- **A printed value is read back**, as the whole of a text. -/
theorem Value.ofText?_compact {v : Value} (h : v.IsTextual) : Value.ofText? v.compact = some v := by
  have hread := readValue_print v h (2 * v.print.length + 2) [] (by omega)
  rw [List.append_nil] at hread
  unfold Value.ofText? Value.compact
  dsimp only
  rw [String.toList_ofList, hread]
  rfl

end ReleasePipeline.Json
