/-!
# ReleasePipeline.Text.SafeName

Names that are safe as a single path component. The safe characters are the ASCII letters and
digits, the underscore, the dash and the point; sanitising puts an underscore in place of every
other character, one for one.
-/

namespace ReleasePipeline.Text

/-- Whether a character may stand in a safe name. -/
def isSafe (c : Char) : Bool :=
  c.isAlphanum || c == '_' || c == '-' || c == '.'

/-- A character, or an underscore if it is not safe. -/
def sanitizeChar (c : Char) : Char :=
  if isSafe c then c else '_'

/-- A text with an underscore for each unsafe character. -/
def sanitize (text : String) : String :=
  String.ofList (text.toList.map sanitizeChar)

/-- What sanitising leaves is safe. -/
theorem isSafe_sanitizeChar (c : Char) : isSafe (sanitizeChar c) = true := by
  unfold sanitizeChar
  split
  · assumption
  · decide

/-- A safe character is kept. -/
theorem sanitizeChar_of_isSafe {c : Char} (h : isSafe c = true) : sanitizeChar c = c := by
  simp [sanitizeChar, h]

end ReleasePipeline.Text
