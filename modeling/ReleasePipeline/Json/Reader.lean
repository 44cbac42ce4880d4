import ReleasePipeline.Json.Value
import ReleasePipeline.Text.Hex

/-!
# ReleasePipeline.Json.Reader

A strict reader of JSON texts. Each part reads a value from the front of the characters and returns
the rest, or refuses.

* White space is the space, the tab, the line feed and the carriage return.
* A number has no leading zero, at least one digit after its point and in its exponent, and is kept
  as spelled.
* A string holds no control character below U+0020 and no other escapes than the eight letters and
  `\u` with four hexadecimal digits. Escaped surrogates are joined in pairs; a string with one left
  over is read, and has no text.

Only nesting needs fuel: one unit for each value, and every value takes at least one character, so
the length of the text is enough.
-/

namespace ReleasePipeline.Json

/-! ### White space and fixed words -/

/-- Whether JSON allows a character between its tokens. -/
def isSpace (c : Char) : Bool :=
  c == ' ' || c == '\t' || c == '\n' || c == '\r'

/-- The characters after leading white space. -/
def skipSpace (cs : List Char) : List Char :=
  cs.dropWhile isSpace

/-- The characters after a fixed word, if they start with it. -/
def afterWord? : List Char → List Char → Option (List Char)
  | [], cs => some cs
  | w :: word, c :: cs => if w = c then afterWord? word cs else none
  | _ :: _, [] => none

/-! ### Strings -/

/-- What one character or escape of a string stands for: a character, or a UTF-16 code unit given
by number. -/
inductive Unit16 where
  | char (c : Char)
  | code (value : Nat)
  deriving DecidableEq, Repr

/-- The character that a letter after a backslash stands for. -/
def letterEscape? (c : Char) : Option Char :=
  match c with
  | '"' => some '"'
  | '\\' => some '\\'
  | '/' => some '/'
  | 'b' => some '\x08'
  | 'f' => some '\x0c'
  | 'n' => some '\n'
  | 'r' => some '\r'
  | 't' => some '\t'
  | _ => none

/-- The units of a string whose opening quote has been read, and what follows its closing quote. -/
def readUnits : List Char → Option (List Unit16 × List Char)
  | [] => none
  | '"' :: rest => some ([], rest)
  | '\\' :: 'u' :: a :: b :: c :: d :: rest => do
    let value := (← Text.hexValue? a) * 4096 + (← Text.hexValue? b) * 256
      + (← Text.hexValue? c) * 16 + (← Text.hexValue? d)
    let (units, rest) ← readUnits rest
    return (.code value :: units, rest)
  | '\\' :: letter :: rest => do
    let c ← letterEscape? letter
    let (units, rest) ← readUnits rest
    return (.char c :: units, rest)
  | c :: rest =>
    if c.toNat < 0x20 then none
    else if c = '\\' then none
    else (readUnits rest).map fun (units, rest) => (.char c :: units, rest)

/-- Whether a code unit opens a surrogate pair. -/
def isLeading (value : Nat) : Bool := 0xD800 ≤ value && value ≤ 0xDBFF

/-- Whether a code unit closes a surrogate pair. -/
def isTrailing (value : Nat) : Bool := 0xDC00 ≤ value && value ≤ 0xDFFF

/-- The characters that units spell, unless a surrogate is left without its partner. -/
def joinUnits : List Unit16 → Option (List Char)
  | [] => some []
  | .char c :: rest => (joinUnits rest).map (c :: ·)
  | .code high :: .code low :: rest =>
    if isLeading high then
      if isTrailing low then
        (joinUnits rest).map
          (Char.ofNat (0x10000 + (high - 0xD800) * 0x400 + (low - 0xDC00)) :: ·)
      else none
    else if isTrailing high then none
    else (joinUnits (.code low :: rest)).map (Char.ofNat high :: ·)
  | .code value :: rest =>
    if isLeading value || isTrailing value then none
    else (joinUnits rest).map (Char.ofNat value :: ·)

/-- A string whose opening quote has been read. -/
def readString (cs : List Char) : Option (Option String × List Char) :=
  (readUnits cs).map fun (units, rest) => ((joinUnits units).map String.ofList, rest)

/-! ### Numbers -/

/-- A run of at least one digit. -/
def readDigits (cs : List Char) : Option (List Char × List Char) :=
  match cs.takeWhile Char.isDigit with
  | [] => none
  | digits => some (digits, cs.dropWhile Char.isDigit)

/-- The whole part: a lone zero, or digits that start with no zero. -/
def readWhole : List Char → Option (List Char × List Char)
  | '0' :: rest => if (rest.head?.any Char.isDigit) then none else some (['0'], rest)
  | cs => readDigits cs

/-- The part after a point, if there is one. -/
def readFraction : List Char → Option (List Char × List Char)
  | '.' :: rest => (readDigits rest).map fun (digits, rest) => ('.' :: digits, rest)
  | cs => some ([], cs)

/-- The exponent, if there is one. -/
def readExponent : List Char → Option (List Char × List Char)
  | e :: sign :: rest =>
    if e = 'e' ∨ e = 'E' then
      if sign = '+' ∨ sign = '-' then
        (readDigits rest).map fun (digits, rest) => (e :: sign :: digits, rest)
      else (readDigits (sign :: rest)).map fun (digits, rest) => (e :: digits, rest)
    else some ([], e :: sign :: rest)
  | [e] => if e = 'e' ∨ e = 'E' then none else some ([], [e])
  | [] => some ([], [])

/-- A number without its sign. -/
def readUnsigned (cs : List Char) : Option (List Char × List Char) := do
  let (whole, cs) ← readWhole cs
  let (fraction, cs) ← readFraction cs
  let (exponent, cs) ← readExponent cs
  return (whole ++ fraction ++ exponent, cs)

/-- A number, as the characters that spell it. -/
def readNumber : List Char → Option (List Char × List Char)
  | '-' :: rest => (readUnsigned rest).map fun (digits, rest) => ('-' :: digits, rest)
  | cs => readUnsigned cs

/-! ### Values -/

mutual
/-- A value, after white space. -/
def readValue : Nat → List Char → Option (Value × List Char)
  | 0, _ => none
  | fuel + 1, cs =>
    match skipSpace cs with
    | 'n' :: rest => (afterWord? "ull".toList rest).map fun rest => (.null, rest)
    | 't' :: rest => (afterWord? "rue".toList rest).map fun rest => (.bool true, rest)
    | 'f' :: rest => (afterWord? "alse".toList rest).map fun rest => (.bool false, rest)
    | '"' :: rest => (readString rest).map fun (text, rest) => (.string text, rest)
    | '[' :: rest =>
      match skipSpace rest with
      | ']' :: rest => some (.array [], rest)
      | rest => (readItems fuel rest).map fun (items, rest) => (.array items, rest)
    | '\x7b' :: rest =>
      match skipSpace rest with
      | '\x7d' :: rest => some (.object [], rest)
      | rest => (readMembers fuel rest).map fun (members, rest) => (.object members, rest)
    | rest => (readNumber rest).map fun (digits, rest) => (.number digits, rest)

/-- The items of an array that has at least one, with the closing bracket. -/
def readItems : Nat → List Char → Option (List Value × List Char)
  | 0, _ => none
  | fuel + 1, cs => do
    let (item, rest) ← readValue fuel cs
    match skipSpace rest with
    | ',' :: rest =>
      let (items, rest) ← readItems fuel rest
      return (item :: items, rest)
    | ']' :: rest => return ([item], rest)
    | _ => none

/-- The members of an object that has at least one, with the closing brace. -/
def readMembers : Nat → List Char → Option (List (Option String × Value) × List Char)
  | 0, _ => none
  | fuel + 1, cs => do
    let '"' :: rest := skipSpace cs | none
    let (name, rest) ← readString rest
    let ':' :: rest := skipSpace rest | none
    let (value, rest) ← readValue fuel rest
    match skipSpace rest with
    | ',' :: rest =>
      let (members, rest) ← readMembers fuel rest
      return ((name, value) :: members, rest)
    | '\x7d' :: rest => return ([(name, value)], rest)
    | _ => none
end

/-- The value that a whole text spells. Only white space may follow it. -/
def Value.ofText? (text : String) : Option Value := do
  let cs := text.toList
  let (value, rest) ← readValue (2 * cs.length + 2) cs
  if skipSpace rest = [] then some value else none

end ReleasePipeline.Json
