import ReleasePipeline.Text.Hex
import ReleasePipeline.Text.Pattern.Mode

/-!
# ReleasePipeline.Text.Pattern.Atom

The smallest parts of a pattern: a character that stands for itself, a class that a backslash and a
letter name, and an edge, which matches between characters. `readAtom` reads one from the front of a
text and returns the rest, or refuses.

What is read here is never followed by a closing brace, so the forms that need one (`\x` with a
number in braces, `\p` with a name in braces) are always refused.
-/

namespace ReleasePipeline.Text.Pattern

/-- A smallest part of a pattern. -/
inductive Atom where
  /-- A character. -/
  | literal (c : Char)
  /-- One character out of several. -/
  | named
  /-- A place between characters. -/
  | edge
  deriving DecidableEq, Repr

/-! ### Characters by number -/

/-- The value of a fixed number of hexadecimal digits, and what follows them. -/
def readHex (mode : Mode) : (count : Nat) → (value : Nat) → List Char → Option (Nat × List Char)
  | 0, value, text => some (value, text)
  | count + 1, value, text =>
    match mode.skip text with
    | [] => none
    | c :: rest => do readHex mode count (value * 16 + (← hexValue? c)) rest

/-- The character whose number takes `count` digits. With two digits it is a byte, which has to be
ASCII unless the pattern speaks of characters. -/
def readNumbered (mode : Mode) (count : Nat) (text : List Char) : Option (Atom × List Char) := do
  let (value, rest) ← readHex mode count 0 text
  if !mode.unicode && count == 2 && 0x80 ≤ value then none
  else if h : value.isValidChar then some (.literal (Char.ofNatAux value h), rest)
  else none

/-! ### Escapes -/

/-- The control characters that have a letter. -/
def letteredControls : List (Char × Char) :=
  [('a', '\x07'), ('f', '\x0c'), ('t', '\t'), ('n', '\n'), ('r', '\r'), ('v', '\x0b')]

/-- The general categories that have a letter of their own, in either case. -/
def categories : List Char := ['C', 'L', 'M', 'N', 'P', 'S', 'Z']

/-- The class that a category's letter names. -/
def readCategory (mode : Mode) (text : List Char) : Option (Atom × List Char) :=
  match mode.skip text with
  | c :: rest => if mode.unicode && categories.contains c.toUpper then some (.named, rest) else none
  | [] => none

/-- The atom of a backslash and what follows it. A digit would refer to a group, which patterns do
not know, and the edges of words are not known where a word is made of any script's letters. -/
def readEscape (mode : Mode) : List Char → Option (Atom × List Char)
  | [] => none
  | c :: rest =>
    if c = 'x' then readNumbered mode 2 rest
    else if c = 'u' then readNumbered mode 4 rest
    else if c = 'U' then readNumbered mode 8 rest
    else if c = 'p' ∨ c = 'P' then readCategory mode rest
    else if ['d', 's', 'w'].contains c then some (.named, rest)
    else if ['D', 'S', 'W'].contains c then if mode.unicode then some (.named, rest) else none
    else if ['A', 'z'].contains c then some (.edge, rest)
    else if ['b', 'B', '<', '>'].contains c then if mode.unicode then none else some (.edge, rest)
    else
      match letteredControls.lookup c with
      | some control => some (.literal control, rest)
      | none => if c.isAlphanum || 0x80 ≤ c.toNat then none else some (.literal c, rest)

/-- The atom at the front of a text where only a backslash is special. -/
def readAtom (mode : Mode) : List Char → Option (Atom × List Char)
  | [] => none
  | '\\' :: rest => readEscape mode rest
  | c :: rest => some (.literal c, rest)

end ReleasePipeline.Text.Pattern
