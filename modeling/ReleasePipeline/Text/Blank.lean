/-!
# ReleasePipeline.Text.Blank

The characters with the Unicode property `White_Space`. There are twenty-five of them, and the
property is stable, so the table is complete.
-/

namespace ReleasePipeline.Text

/-- The code points with the property `White_Space`. -/
def blanks : List Nat :=
  [0x09, 0x0A, 0x0B, 0x0C, 0x0D, 0x20, 0x85, 0xA0, 0x1680,
   0x2000, 0x2001, 0x2002, 0x2003, 0x2004, 0x2005, 0x2006, 0x2007, 0x2008, 0x2009, 0x200A,
   0x2028, 0x2029, 0x202F, 0x205F, 0x3000]

/-- Whether a character is white space. -/
def isBlank (c : Char) : Bool :=
  blanks.contains c.toNat

/-- Core's white space, which is ASCII only, is white space here. -/
theorem isBlank_of_isWhitespace {c : Char} (h : c.isWhitespace = true) : isBlank c = true := by
  simp only [Char.isWhitespace, Bool.or_eq_true, decide_eq_true_eq] at h
  rcases h with ((rfl | rfl) | rfl) | rfl <;> decide

end ReleasePipeline.Text
