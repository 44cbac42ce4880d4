import ReleasePipeline.Text.Blank

/-!
# ReleasePipeline.Text.Pattern.Mode

How a part of a pattern is read. Two of the flags of a pattern decide on what it may hold: `x` lets
blanks and remarks stand anywhere, and `u`, which is on at first, says that the pattern speaks of
characters. With `u` off it speaks of bytes, and since what is matched is text, only of ASCII ones.
The other flags change what a pattern matches, but not whether it is one.
-/

namespace ReleasePipeline.Text.Pattern

/-- The flags that decide on what a pattern may hold. -/
structure Mode where
  spaced : Bool := false
  unicode : Bool := true
  deriving DecidableEq, Repr

namespace Mode

/-! ### Blanks and remarks -/

/-- A text without the blanks and remarks at its front. A remark goes from a number sign to the end
of its line. -/
def dropRemarks (inRemark : Bool) : List Char → List Char
  | [] => []
  | c :: cs =>
    if inRemark then dropRemarks (c ≠ '\n') cs
    else if isBlank c then dropRemarks false cs
    else if c = '#' then dropRemarks true cs
    else c :: cs

/-- The next thing that counts in a text. -/
def skip (mode : Mode) (text : List Char) : List Char :=
  if mode.spaced then dropRemarks false text else text

/-- The next character that is neither a blank nor a number sign with blanks around it. Looking
ahead does not see where a remark ends. -/
def peek? (mode : Mode) (text : List Char) : Option Char :=
  if mode.spaced then
    match text.dropWhile isBlank with
    | '#' :: rest => (rest.dropWhile isBlank).head?
    | rest => rest.head?
  else text.head?

/-! ### Flags -/

/-- The letters of the flags. -/
def letters : List Char := ['i', 'm', 's', 'U', 'u', 'R', 'x']

/-- Whether some letters switch flags: each at most once, with at most one minus among them, behind
which there are letters to switch off. -/
def areFlags (flags : List Char) : Bool :=
  flags.all (fun c => c == '-' || letters.contains c) && decide flags.Nodup &&
    flags.getLast? != some '-'

/-- What a flag is after some letters. -/
def switch (flags : List Char) (letter : Char) (before : Bool) : Bool :=
  if (flags.takeWhile (· ≠ '-')).contains letter then true
  else if flags.contains letter then false
  else before

/-- A mode after some letters. -/
def apply (mode : Mode) (flags : List Char) : Mode where
  spaced := switch flags 'x' mode.spaced
  unicode := switch flags 'u' mode.unicode

end Mode

end ReleasePipeline.Text.Pattern
