import ReleasePipeline.Text.Unprintable

/-!
# ReleasePipeline.Text.Quoted

Text between double quotes, on one line. A quote, a backslash, a line feed, a carriage return, a
tab and a NUL are written with a backslash; any other character that does not print on its own
becomes `\u` with its code point in braces; everything else stands for itself.
-/

namespace ReleasePipeline.Text

/-- The code point of a character in lower-case hexadecimal, without leading zeros. -/
def hexCode (c : Char) : List Char :=
  Nat.toDigits 16 c.toNat

/-- A character as it stands inside quotes. -/
def escape (c : Char) : List Char :=
  if c = '"' then ['\\', '"']
  else if c = '\\' then ['\\', '\\']
  else if c = '\n' then ['\\', 'n']
  else if c = '\r' then ['\\', 'r']
  else if c = '\t' then ['\\', 't']
  else if c = '\x00' then ['\\', '0']
  else if isUnprintable c then ['\\', 'u', '\x7b'] ++ hexCode c ++ ['\x7d']
  else [c]

/-- A text between quotes, as characters. -/
def quoteChars (text : List Char) : List Char :=
  '"' :: text.flatMap escape ++ ['"']

/-- A text between quotes. -/
def quote (text : String) : String :=
  String.ofList (quoteChars text.toList)

end ReleasePipeline.Text
