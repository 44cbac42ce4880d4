import ReleasePipeline.Text.Pattern.Atom
import ReleasePipeline.Text.Pattern.Height

/-!
# ReleasePipeline.Text.Pattern.Brackets

Classes in brackets. A class holds characters, ranges, named classes and further classes in
brackets; `&&`, `--` and `~~` combine what stands on their two sides, which may be nothing. A
circumflex at the front turns a class around; hyphens there stand for themselves, and so does a
closing bracket.
-/

namespace ReleasePipeline.Text.Pattern

/-- A class whose closing bracket is still to come: the height of what stands before its last
operator, the heights of the items since, and whether nothing but hyphens has come yet. -/
structure OpenClass where
  left : Option Nat := none
  items : List Nat := []
  front : Bool := true
  deriving DecidableEq, Repr

namespace OpenClass

/-- The class with an item of some height added. -/
def add (c : OpenClass) (height : Nat) : OpenClass :=
  { c with items := height :: c.items, front := false }

/-- The class with a hyphen at its front. -/
def addHyphen (c : OpenClass) : OpenClass :=
  { c with items := 0 :: c.items }

/-- The height of what a class holds. -/
def height (c : OpenClass) : Nat :=
  match c.left with
  | some left => max left (together c.items) + 1
  | none => together c.items

/-- The class after an operator. -/
def combine (c : OpenClass) : OpenClass where
  left := some c.height
  front := false

end OpenClass

/-! ### Items -/

/-- The names of the classes between `[:` and `:]`. -/
def classNames : List String :=
  ["alnum", "alpha", "ascii", "blank", "cntrl", "digit", "graph", "lower", "print", "punct",
   "space", "upper", "word", "xdigit"]

/-- Whether a text is the name of a class, and what is behind the colon and the bracket after it. -/
def readClassName (text : List Char) : Option (List Char) :=
  match text.dropWhile (· ≠ ':') with
  | ':' :: ']' :: rest =>
    if classNames.contains (String.ofList (text.takeWhile (· ≠ ':'))) then some rest else none
  | _ => none

/-- The named class behind an opening bracket. If the pattern speaks of bytes it cannot be turned
around. `none` says that there is no named class; the bracket then opens a class of its own. -/
def readNamed (mode : Mode) : List Char → Option (Option (List Char))
  | ':' :: '^' :: text =>
    (readClassName text).map fun rest => if mode.unicode then some rest else none
  | ':' :: text => (readClassName text).map some
  | _ => none

/-- Whether an atom may stand in a class. -/
def isItem (mode : Mode) : Atom → Bool
  | .literal c => mode.unicode || c.toNat < 0x80
  | .named => true
  | .edge => false

/-- Whether two atoms are the ends of a range. -/
def isRange (mode : Mode) : Atom → Atom → Bool
  | .literal low, .literal high =>
    low ≤ high && isItem mode (.literal low) && isItem mode (.literal high)
  | _, _ => false

/-- What is behind the character, class or range at the front of a text. A hyphen makes a range
unless the class or its operand ends behind it. -/
def readItem (mode : Mode) (text : List Char) : Option (List Char) := do
  let (atom, rest) ← readAtom mode text
  match mode.skip rest with
  | '-' :: behind =>
    match mode.peek? behind with
    | some ']' | some '-' => if isItem mode atom then some ('-' :: behind) else none
    | _ =>
      let (last, rest) ← readAtom mode (mode.skip behind)
      if isRange mode atom last then some rest else none
  | rest => if isItem mode atom then some rest else none

/-! ### Classes -/

/-- What is behind a circumflex, if there is one. Where the pattern speaks of bytes, a class that is
turned around would hold more than ASCII. -/
def readTurn (mode : Mode) (text : List Char) : Option (List Char) :=
  match mode.skip text with
  | '^' :: rest => if mode.unicode then some rest else none
  | text => some text

/-- The height of the class that is open, and what is behind its closing bracket. The classes around
it are given from the innermost to the outermost. Every round takes a character, so one unit of fuel
for each is enough. -/
def readClass (mode : Mode) : Nat → OpenClass → List OpenClass → List Char →
    Option (Nat × List Char)
  | 0, _, _, _ => none
  | fuel + 1, c, outer, text =>
    match mode.skip text with
    | [] => none
    | ']' :: rest =>
      if c.front && c.items.isEmpty then readClass mode fuel (c.add 0) outer rest
      else
        match outer with
        | [] => some (c.height + 1, rest)
        | enclosing :: outer => readClass mode fuel (enclosing.add (c.height + 1)) outer rest
    | '[' :: rest =>
      match readNamed mode rest with
      | some (some rest) => readClass mode fuel (c.add 0) outer rest
      | some none => none
      | none => do
        let rest ← readTurn mode rest
        readClass mode fuel {} ({ c with front := false } :: outer) rest
    | '-' :: rest =>
      if c.front then readClass mode fuel c.addHyphen outer rest
      else
        match rest with
        | '-' :: rest => readClass mode fuel c.combine outer rest
        | _ => do readClass mode fuel (c.add 0) outer (← readItem mode ('-' :: rest))
    | '&' :: '&' :: rest => readClass mode fuel c.combine outer rest
    | '~' :: '~' :: rest => readClass mode fuel c.combine outer rest
    | text => do readClass mode fuel (c.add 0) outer (← readItem mode text)

end ReleasePipeline.Text.Pattern
