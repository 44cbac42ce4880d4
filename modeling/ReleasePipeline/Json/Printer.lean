import ReleasePipeline.Json.Value

/-!
# ReleasePipeline.Json.Printer

The compact form of a JSON value: no white space, members in their order. Inside a string only the
quote, the backslash and the control characters below the space are escaped, the common ones with a
letter and the rest with four lower-case hexadecimal digits; every other character stands for
itself.
-/

namespace ReleasePipeline.Json

/-- A control character as `\u00` and two digits. Only used below U+0020. -/
def controlEscape (c : Char) : List Char :=
  ['\\', 'u', '0', '0', Nat.digitChar (c.toNat / 16), Nat.digitChar (c.toNat % 16)]

/-- A character as it stands inside a string. -/
def escape (c : Char) : List Char :=
  if c = '"' then ['\\', '"']
  else if c = '\\' then ['\\', '\\']
  else if c = '\x08' then ['\\', 'b']
  else if c = '\x0c' then ['\\', 'f']
  else if c = '\n' then ['\\', 'n']
  else if c = '\r' then ['\\', 'r']
  else if c = '\t' then ['\\', 't']
  else if c.toNat < 0x20 then controlEscape c
  else [c]

/-- A text as a JSON string. -/
def printText (text : String) : List Char :=
  '"' :: text.toList.flatMap escape ++ ['"']

mutual
/-- A value in compact form. A string that is no text has no faithful form here and is printed as an
empty one; no value that this library builds holds one. -/
def Value.print : Value → List Char
  | .null => "null".toList
  | .bool true => "true".toList
  | .bool false => "false".toList
  | .number digits => digits
  | .string text => printText (text.getD "")
  | .array items => '[' :: printItems items ++ [']']
  | .object members => '\x7b' :: printMembers members ++ ['\x7d']

/-- The items of an array, with commas between them. -/
def printItems : List Value → List Char
  | [] => []
  | [item] => item.print
  | item :: rest => item.print ++ ',' :: printItems rest

/-- The members of an object, with commas between them. -/
def printMembers : List (Option String × Value) → List Char
  | [] => []
  | [(name, value)] => printText (name.getD "") ++ ':' :: value.print
  | (name, value) :: rest =>
    printText (name.getD "") ++ ':' :: value.print ++ ',' :: printMembers rest
end

/-- The compact text of a value. -/
def Value.compact (value : Value) : String :=
  String.ofList value.print

end ReleasePipeline.Json
