import ReleasePipeline.Log.Event
import ReleasePipeline.Text.Alphanumeric
import ReleasePipeline.Text.Pattern

/-!
# ReleasePipeline.Log.Directive

One directive of a log filter: a level for everything, or a target, which is matched against the
front of an event's origin, with an optional level of its own. In brackets it may name a span, and
in braces a field that an event has to have, with a value or a pattern for one.

A directive is read character by character without the blanks around it. The parts are then cut out
of the directive as it was given, at the byte positions that were found, so blanks in front of it
shift what is cut.
-/

namespace ReleasePipeline.Log

/-! ### Verbosity -/

/-- How much is shown: nothing, or everything up to a level. -/
inductive Verbosity where
  | off
  | error
  | warn
  | info
  | debug
  | trace
  deriving DecidableEq, Repr

namespace Verbosity

/-- The rank of a verbosity. -/
def rank : Verbosity → Nat
  | .off => 0
  | .error => 1
  | .warn => 2
  | .info => 3
  | .debug => 4
  | .trace => 5

/-- The verbosity at which a level is shown. -/
def ofLevel : Level → Verbosity
  | .info => .info
  | .debug => .debug

/-- The verbosities by rank. -/
def all : List Verbosity := [.off, .error, .warn, .info, .debug, .trace]

/-- The number that decimal digits spell, with an optional plus sign. -/
def number? (text : List Char) : Option Nat :=
  let digits := match text with
    | '+' :: rest => rest
    | _ => text
  if digits.isEmpty || !digits.all Char.isDigit then none
  else some (digits.foldl (fun n c => n * 10 + (c.toNat - '0'.toNat)) 0)

/-- The verbosity that a word or a rank from zero to five names; letters count in either case. -/
def ofText? (text : List Char) : Option Verbosity :=
  match number? text with
  | some rank => all[rank]?
  | none =>
    match String.ofList (text.map Char.toLower) with
    | "off" => some .off
    | "error" => some .error
    | "warn" => some .warn
    | "info" => some .info
    | "debug" => some .debug
    | "trace" => some .trace
    | _ => none

/-- The verbosity behind an equals sign. Without one everything is shown. -/
def ofRest? (text : List Char) : Option Verbosity :=
  if text.isEmpty then some .trace else ofText? text

end Verbosity

/-- One directive. `dynamic` marks one that asks for a span or for the value of a field. -/
structure Directive where
  target : Option String := none
  fields : List String := []
  dynamic : Bool := false
  verbosity : Verbosity := .trace
  deriving DecidableEq, Repr

namespace Directive

/-! ### Cutting -/

/-- What follows the first `count` bytes of a text, if a character starts there. -/
def dropBytes : List Char → (count : Nat) → Option (List Char)
  | text, 0 => some text
  | [], _ + 1 => none
  | c :: cs, count + 1 =>
    if c.utf8Size ≤ count + 1 then dropBytes cs (count + 1 - c.utf8Size) else none

/-- The first `count` bytes of a text, if a character ends there. -/
def takeBytes : List Char → (count : Nat) → Option (List Char)
  | _, 0 => some []
  | [], _ + 1 => none
  | c :: cs, count + 1 =>
    if c.utf8Size ≤ count + 1 then (takeBytes cs (count + 1 - c.utf8Size)).map (c :: ·) else none

/-- The bytes of a text from one position up to another. -/
def cut (text : List Char) (start stop : Nat) : Option (List Char) := do
  takeBytes (← dropBytes text start) (stop - start)

/-! ### Fields -/

/-- Whether a text is a decimal fraction with an optional exponent. -/
def isDecimal (text : List Char) : Bool :=
  let whole := text.takeWhile Char.isDigit
  let (fraction, rest) := match text.dropWhile Char.isDigit with
    | '.' :: rest => (rest.takeWhile Char.isDigit, rest.dropWhile Char.isDigit)
    | rest => ([], rest)
  let isExponent (text : List Char) : Bool :=
    let digits := match text with
      | '+' :: digits | '-' :: digits => digits
      | digits => digits
    !digits.isEmpty && digits.all Char.isDigit
  !(whole.isEmpty && fraction.isEmpty) &&
    match rest with
    | [] => true
    | c :: exponent => (c == 'e' || c == 'E') && isExponent exponent

/-- Whether a text is a number behind a plus sign. Every other number is a pattern as well. -/
def isSignedNumber : List Char → Bool
  | '+' :: text =>
    isDecimal text || ["inf", "infinity", "nan"].contains (String.ofList (text.map Char.toLower))
  | _ => false

/-- Whether a text may stand for the value of a field: a number, or a pattern. -/
def isValue (text : List Char) : Bool :=
  isSignedNumber text || Text.Pattern.isPattern text

/-- The directive with a field: a name, and behind an equals sign a value. A second equals sign ends
the value. -/
def addField (directive : Directive) (text : List Char) : Option Directive :=
  if text.isEmpty then none
  else
    match text.splitOn '=' with
    | name :: value :: _ =>
      if isValue value then
        some { directive with
          fields := directive.fields ++ [String.ofList name], dynamic := true }
      else none
    | _ => some { directive with fields := directive.fields ++ [String.ofList text] }

/-! ### Reading -/

/-- What is being read. `start` is the position at which the part in hand begins. -/
inductive Part where
  | nothing
  /-- A level or a target. -/
  | word (start : Nat)
  | span (start : Nat)
  | field (start : Nat)
  /-- Behind the braces. -/
  | fieldEnd
  /-- Behind the brackets. -/
  | spanEnd
  | level (start : Nat)
  deriving DecidableEq, Repr

/-- Whether a character may start a word. -/
def startsWord (c : Char) : Bool :=
  c == '-' || c == ':' || c == '_' || Text.isAlphanumeric c

/-- The directive and the part after the character at a position. -/
def step (given : List Char) (directive : Directive) (part : Part) (position : Nat) (c : Char) :
    Option (Directive × Part) := do
  match part with
  | .nothing =>
    if c = '[' then return (directive, .span (position + 1))
    if startsWord c then return (directive, .word position)
    none
  | .word start =>
    if c = '=' ∨ c = '[' then
      let target := String.ofList (← cut given start position)
      let next := if c = '=' then Part.level (position + 1) else .span (position + 1)
      return ({ directive with target := some target }, next)
    return (directive, part)
  | .span start =>
    if c = ']' then
      let _ ← cut given start position
      return ({ directive with dynamic := true }, .spanEnd)
    if c = '\x7b' then
      let span ← cut given start position
      return ({ directive with dynamic := !span.isEmpty }, .field (position + 1))
    return (directive, part)
  | .field start =>
    if c = '\x7d' then return (← directive.addField (← cut given start position), .fieldEnd)
    return (directive, part)
  | .fieldEnd => if c = ']' then return (directive, .spanEnd) else none
  | .spanEnd => if c = '=' then return (directive, .level (position + 1)) else none
  | .level _ => return (directive, part)

/-- The directive at its end. A word there is a level if it names one, or else a target. -/
def finish (given : List Char) (directive : Directive) : Part → Option Directive
  | .word start => do
    let word ← dropBytes given start
    match Verbosity.ofText? word with
    | some verbosity => return { directive with verbosity }
    | none => return { directive with target := some (String.ofList word) }
  | .level start => do
    let verbosity ← Verbosity.ofRest? (← dropBytes given start)
    return { directive with verbosity }
  | .spanEnd => some directive
  | _ => none

/-- Reads the characters from a position on. -/
def readFrom (given : List Char) (directive : Directive) (part : Part) (position : Nat) :
    List Char → Option Directive
  | [] => directive.finish given part
  | c :: cs => do
    let (directive, part) ← directive.step given part position c
    readFrom given directive part (position + c.utf8Size) cs

/-- A text without the blanks around it. -/
def trim (text : List Char) : List Char :=
  ((text.dropWhile Text.isBlank).reverse.dropWhile Text.isBlank).reverse

/-- The directive that a text spells. -/
def ofText? (text : List Char) : Option Directive :=
  readFrom text {} .nothing 0 (trim text)

/-! ### Choosing -/

/-- Whether a directive speaks of an event. -/
def speaksOf (directive : Directive) (event : Event) : Bool :=
  !directive.dynamic &&
  directive.target.all (fun target => target.toList.isPrefixOf event.origin.toList) &&
  directive.fields.all (fun field => (event.fields.map Prod.fst).contains field)

/-- How specific a directive is: the length of its target, then the number of its fields. A
directive without a target comes below all others. -/
def specificity (directive : Directive) : Nat × Nat :=
  (match directive.target with
    | some target => target.utf8ByteSize + 1
    | none => 0,
   directive.fields.length)

/-- Whether one directive is more specific than another. Of two that ask for as many fields, the one
whose fields come later in the alphabet counts as such. -/
def outranks (a b : Directive) : Bool :=
  b.specificity.1 < a.specificity.1 ||
  (b.specificity.1 == a.specificity.1 && b.specificity.2 < a.specificity.2) ||
  (b.specificity == a.specificity && decide (b.fields < a.fields))

end Directive

end ReleasePipeline.Log
