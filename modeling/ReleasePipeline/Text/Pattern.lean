import ReleasePipeline.Text.Alphanumeric
import ReleasePipeline.Text.Pattern.Brackets

/-!
# ReleasePipeline.Text.Pattern

Which texts are patterns, that is, regular expressions over text that can be matched without looking
back or ahead. A pattern is made of branches with bars between them, a branch of atoms, classes in
brackets and groups in parentheses, and what a group, class or atom matches may be repeated.

A pattern is read in one go. `Reading` holds what is open: the group in hand, what was read of the
groups around it, and the names of groups so far, each of which counts once. Repetition with numbers
in braces is left out: no pattern here holds a closing brace.
-/

namespace ReleasePipeline.Text.Pattern

/-! ### Groups -/

/-- A group, or the whole pattern, that is being read. -/
structure OpenGroup where
  /-- How what stands around it is read. -/
  around : Mode := {}
  /-- The heights of the branches that are complete. -/
  branches : List Nat := []
  /-- The heights of what the branch in hand is made of, the last one first. -/
  parts : List Nat := []
  /-- Whether the last part can be repeated. Flags cannot. -/
  repeatable : Bool := false
  deriving DecidableEq, Repr

namespace OpenGroup

/-- The group with a part of some height added. -/
def add (group : OpenGroup) (height : Nat) : OpenGroup :=
  { group with parts := height :: group.parts, repeatable := true }

/-- The group with flags added. -/
def addFlags (group : OpenGroup) : OpenGroup :=
  { group with parts := 0 :: group.parts, repeatable := false }

/-- The group with its last part repeated. -/
def repeatLast (group : OpenGroup) : Option OpenGroup :=
  match group.parts with
  | last :: others =>
    if group.repeatable then some { group with parts := (last + 1) :: others } else none
  | [] => none

/-- The group after a bar. -/
def branch (group : OpenGroup) : OpenGroup :=
  { group with
    branches := together group.parts :: group.branches, parts := [], repeatable := false }

/-- The height of what a group holds. -/
def height (group : OpenGroup) : Nat :=
  together (together group.parts :: group.branches)

end OpenGroup

/-- What has been read of a pattern. -/
structure Reading where
  mode : Mode := {}
  group : OpenGroup := {}
  outer : List OpenGroup := []
  names : List (List Char) := []
  deriving DecidableEq, Repr

namespace Reading

/-- The reading with a part of some height added. -/
def add (r : Reading) (height : Nat) : Reading :=
  { r with group := r.group.add height }

/-- The reading inside a group that opens here and is read in some mode. -/
def openGroup (r : Reading) (mode : Mode) : Reading :=
  { r with mode, group := { around := r.mode }, outer := r.group :: r.outer }

/-- The reading behind the group in hand, if there is one. -/
def closeGroup (r : Reading) : Option Reading :=
  match r.outer with
  | [] => none
  | enclosing :: outer =>
    some { r with mode := r.group.around, group := enclosing.add (r.group.height + 1), outer }

/-! ### Openings -/

/-- Whether a text is the name of a group. -/
def isName : List Char → Bool
  | [] => false
  | c :: cs =>
    (c == '_' || isAlphabetic c) &&
      cs.all fun c => ['_', '.', '[', ']'].contains c || isAlphanumeric c

/-- The group that opens with a name; the text begins with the name. -/
def openNamed (r : Reading) (text : List Char) : Option (Reading × List Char) :=
  let name := text.takeWhile (· ≠ '>')
  match text.dropWhile (· ≠ '>') with
  | _ :: rest =>
    if isName name && !r.names.contains name then
      some ({ r with names := name :: r.names }.openGroup r.mode, rest)
    else none
  | [] => none

/-- Flags, for what follows in the group or for a group of their own; the text begins with the
flags. -/
def openFlags (r : Reading) (text : List Char) : Option (Reading × List Char) :=
  let flags := text.takeWhile fun c => c ≠ ')' && c ≠ ':'
  if !Mode.areFlags flags then none
  else
    match text.dropWhile fun c => c ≠ ')' && c ≠ ':' with
    | ')' :: rest =>
      if flags.isEmpty then none
      else some ({ r with mode := r.mode.apply flags, group := r.group.addFlags }, rest)
    | ':' :: rest => some (r.openGroup (r.mode.apply flags), rest)
    | _ => none

/-- What an opening parenthesis starts. Looking ahead and behind is refused. -/
def readOpening (r : Reading) (text : List Char) : Option (Reading × List Char) :=
  match r.mode.skip text with
  | '?' :: '=' :: _ | '?' :: '!' :: _ => none
  | '?' :: '<' :: '=' :: _ | '?' :: '<' :: '!' :: _ => none
  | '?' :: 'P' :: '<' :: rest => r.openNamed rest
  | '?' :: '<' :: rest => r.openNamed rest
  | '?' :: rest => r.openFlags rest
  | rest => some (r.openGroup r.mode, rest)

/-! ### The whole -/

/-- What is behind the question mark that makes a repetition short, if there is one. -/
def afterMark : List Char → List Char
  | '?' :: rest => rest
  | rest => rest

/-- Reads one part of a pattern, or the sign that opens, ends or separates parts. -/
def readPart (r : Reading) (text : List Char) : Option (Reading × List Char) :=
  match text with
  | '(' :: rest => r.readOpening rest
  | ')' :: rest => r.closeGroup.map fun r => (r, rest)
  | '|' :: rest => some ({ r with group := r.group.branch }, rest)
  | '[' :: rest => do
    let (height, rest) ← readClass r.mode (rest.length + 1) {} [] (← readTurn r.mode rest)
    return (r.add height, rest)
  | '*' :: rest | '+' :: rest | '?' :: rest => do
    return ({ r with group := ← r.group.repeatLast }, afterMark rest)
  | '\x7b' :: _ => none
  | '.' :: rest => if r.mode.unicode then some (r.add 0, rest) else none
  | text => do
    let (_, rest) ← readAtom r.mode text
    return (r.add 0, rest)

/-- The height of a pattern, of which a part is still to be read. Every part takes a character, so
one unit of fuel for each is enough. -/
def readAll : Nat → Reading → List Char → Option Nat
  | 0, _, _ => none
  | fuel + 1, r, text =>
    match r.mode.skip text with
    | [] => if r.outer.isEmpty then some r.group.height else none
    | text =>
      match r.readPart text with
      | some (r, rest) => readAll fuel r rest
      | none => none

end Reading

/-- Whether a text is a pattern. -/
def isPattern (text : List Char) : Bool :=
  (Reading.readAll (text.length + 1) {} text).any (· ≤ limit)

end ReleasePipeline.Text.Pattern
