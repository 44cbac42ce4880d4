/-!
# ReleasePipeline.Text.Utf8

Text as bytes and back. Writing is `encode`. Reading is a machine over single bytes: its state says
how many continuation bytes a character still needs and in which range the next one must lie, so
overlong forms, surrogates and values above the last code point are refused at the first byte that
rules them out.

What is read is a list of pieces, one for each character and one for each maximal run of bytes that
starts a character and breaks off. The two readers differ only in what they do with a broken piece:

* `decode?` refuses the text;
* `decodeLossy` puts one replacement character in its place.
-/

namespace ReleasePipeline

/-- Raw bytes: the content of a file or the value of an environment variable. -/
abbrev Bytes := List UInt8

namespace Utf8

/-- The bytes of a text. -/
def encode (text : String) : Bytes :=
  text.toList.flatMap String.utf8EncodeChar

/-! ### The machine -/

/-- Where the reader stands between two bytes: at the start of a character, or `more + 1`
continuation bytes short of one, the next of which lies between `low` and `high`. `code` holds the
bits read so far. -/
inductive Pending where
  | start
  | tail (more : Nat) (low high : UInt8) (code : Nat)
  deriving DecidableEq, Repr

/-- A first byte: the character or broken piece it completes at once, if any, and the state after
it. The narrowed ranges after `E0`, `ED`, `F0` and `F4` keep out overlong forms, surrogates and
values past the last code point. -/
def first (byte : UInt8) : List (Option Char) × Pending :=
  if byte < 0x80 then ([some (Char.ofNat byte.toNat)], .start)
  else if byte < 0xC2 then ([none], .start)
  else if byte < 0xE0 then ([], .tail 0 0x80 0xBF (byte.toNat - 0xC0))
  else if byte = 0xE0 then ([], .tail 1 0xA0 0xBF 0)
  else if byte = 0xED then ([], .tail 1 0x80 0x9F 13)
  else if byte < 0xF0 then ([], .tail 1 0x80 0xBF (byte.toNat - 0xE0))
  else if byte = 0xF0 then ([], .tail 2 0x90 0xBF 0)
  else if byte < 0xF4 then ([], .tail 2 0x80 0xBF (byte.toNat - 0xF0))
  else if byte = 0xF4 then ([], .tail 2 0x80 0x8F 4)
  else ([none], .start)

/-- One byte: the pieces it completes and the state after it. A byte that cannot continue the
character in hand ends a broken piece and is read again as a first byte. -/
def step : Pending → UInt8 → List (Option Char) × Pending
  | .start, byte => first byte
  | .tail more low high code, byte =>
    if low ≤ byte ∧ byte ≤ high then
      let code := code * 64 + (byte.toNat - 0x80)
      match more with
      | 0 => ([some (Char.ofNat code)], .start)
      | more + 1 => ([], .tail more 0x80 0xBF code)
    else (none :: (first byte).1, (first byte).2)

/-- The pieces of the bytes that follow a state. Bytes that end inside a character leave a broken
piece. -/
def piecesFrom : Pending → Bytes → List (Option Char)
  | .start, [] => []
  | .tail .., [] => [none]
  | state, byte :: rest => (step state byte).1 ++ piecesFrom (step state byte).2 rest

/-- The pieces of a byte string, `none` for each broken one. -/
def pieces (bytes : Bytes) : List (Option Char) :=
  piecesFrom .start bytes

/-! ### The two readers -/

/-- The text that the bytes spell, if they spell one. -/
def decode? (bytes : Bytes) : Option String :=
  ((pieces bytes).mapM id).map String.ofList

/-- The text with U+FFFD for each broken piece. -/
def decodeLossy (bytes : Bytes) : String :=
  String.ofList ((pieces bytes).map (·.getD '\uFFFD'))

end Utf8

end ReleasePipeline
